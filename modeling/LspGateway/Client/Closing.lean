import LspGateway.Client.Listening

/-! # Taking a server down

Closing a connection is a ladder: the listener ends, standard input is closed,
the process gets a second to leave, is told to terminate, gets two seconds more,
and is killed. Each step is taken only if the process is still there.
-/

namespace LspGateway.Client

/-- A second in nanoseconds. -/
def second : Nat := 1000000000

/-- How far an activity has come: it waits, or it is over. -/
inductive Progress
  | waits (teardown : Teardown)
  | over (outcome : Outcome)
  deriving DecidableEq, Repr

/-- The last step: the reading of standard error ends. -/
def closeDrain (c : Client) (t : Teardown) : Client × Progress :=
  match t.drain with
  | none => (c, .over .done)
  | some d =>
    match (c.link d).drain.phase with
    | .fresh | .waiting => (c.cancelDrain d, .waits { t with stage := .drain })
    | _ => (c, .over .done)

/-- Kills a process that did not terminate in time. -/
def closeByKill (c : Client) (t : Teardown) : Client × Progress :=
  match c.kill t.link with
  | (c, true) => c.closeDrain t
  | (c, false) => (c, .over (.error .processGone))

/-- Tells a process to terminate if it has not left. -/
def closeProcess (c : Client) (t : Teardown) : Client × Progress :=
  if c.isAlive t.link then
    match c.terminate t.link with
    | (c, true) =>
      if c.isAlive t.link then (c, .waits { t with stage := .terminated (c.now + 2 * second) })
      else c.closeDrain t
    | (c, false) => c.closeDrain t
  else c.closeDrain t

/-- Gives a process that is still there a second to leave. -/
def closeGracefully (c : Client) (t : Teardown) : Client × Progress :=
  if c.isAlive t.link then (c, .waits { t with stage := .grace (c.now + second) })
  else c.closeDrain t

/-- Gives up the pending requests and closes standard input. -/
def closeStream (c : Client) (t : Teardown) : Client × Progress :=
  let c := (c.failPending t.link .deliberate).closeInput t.link
  match (c.process t.link).policy.inputClosing with
  | .hangs => (c, .waits { t with stage := .input (c.now + second) })
  | _ => c.closeGracefully t

/-- Goes on when the listener has ended. What it ended on, if it was of the wrong
shape, ends the closing too. -/
def closeAfterListener (c : Client) (t : Teardown) : Client × Progress :=
  match (c.link t.link).crash with
  | some fault => (c, .over (.error (.misuse fault)))
  | none => c.closeStream t

/-- Closes a connection and takes its process down. A listener that was superseded
is left alone. -/
def closeConnection (c : Client) (t : Teardown) : Client × Progress :=
  let c := c.modifyLink t.link fun k => { k with closed := true }
  let k := c.link t.link
  if k.superseded then c.closeAfterListener t
  else
    match k.listener.phase with
    | .fresh | .waiting => (c.cancelListener t.link, .waits { t with stage := .listener })
    | .done => c.closeAfterListener t
    | _ => c.closeStream t

/-- Takes the next step of a teardown. -/
def resumeTeardown (c : Client) (t : Teardown) (s : Signal) : Client × Progress :=
  match t.stage with
  | .listener => c.closeAfterListener t
  | .drain => (c, .over .done)
  | .input _ => if s = .cancelled then (c, .over .cancelled) else c.closeGracefully t
  | .grace _ => if s = .cancelled then (c, .over .cancelled) else c.closeProcess t
  | .terminated _ =>
    match s with
    | .cancelled => (c, .over .cancelled)
    | .timedOut => c.closeByKill t
    | _ => c.closeDrain t

/-- Lets go of what is in use and takes it down. A process is reached by way of its
connection, if there is one. -/
def release (c : Client) : Client × Progress :=
  let h := c.held
  let c := { c with held := .nothing }
  match h.connection, h.process with
  | some l, _ => c.closeConnection ⟨l, h.drain, .listener⟩
  | none, some l => c.closeProcess ⟨l, h.drain, .listener⟩
  | none, none => (c, .over .done)

end LspGateway.Client
