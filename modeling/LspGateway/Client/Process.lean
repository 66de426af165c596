import LspGateway.Client.Basic

/-! # What a process does

Output that arrives, the end of a stream, and the exit of a process. A process
that has exited does nothing more.
-/

namespace LspGateway.Client

/-- The process has not exited. -/
def isAlive (c : Client) (l : Nat) : Bool := (c.process l).exitCode.isNone

/-- The process exits: both its streams end, and whoever waits for it goes on. -/
def exit (c : Client) (l : Nat) (code : Int) : Client :=
  if c.isAlive l then
    let c := c.event l (.exited code)
    let c := c.modifyProcess l fun p => { p with
      exitCode := some code
      output := { p.output with ended := true }
      errors := { p.errors with ended := true } }
    ((c.wakeListener l).wakeDrain l).wakeTeardowns (fun t => t.link == l && t.stage.awaitsExit) .go
  else c

/-- Bytes arrive on standard output. -/
def feed (c : Client) (l : Nat) (bytes : List UInt8) : Client :=
  if c.isAlive l && !(c.process l).output.ended then
    (c.modifyProcess l fun p => { p with output := p.output.append bytes }).wakeListener l
  else c

/-- Bytes arrive on standard error, if there is one. -/
def feedErrors (c : Client) (l : Nat) (bytes : List UInt8) : Client :=
  if c.isAlive l && (c.process l).policy.hasErrors && !(c.process l).errors.ended then
    (c.modifyProcess l fun p => { p with errors := p.errors.append bytes }).wakeDrain l
  else c

/-- Standard output ends. -/
def endOutput (c : Client) (l : Nat) : Client :=
  if c.isAlive l then
    (c.modifyProcess l fun p => { p with output := { p.output with ended := true } }).wakeListener l
  else c

/-- Later writes fail in the given way, or succeed again. -/
def breakInput (c : Client) (l : Nat) (fault : Option InputFault) : Client :=
  c.modifyProcess l fun p => { p with inputFault := fault }

/-- Standard input is closed, for which the process may exit. -/
def closeInput (c : Client) (l : Nat) : Client :=
  if (c.process l).inputClosed then c
  else
    let c := (c.event l .inputClosed).modifyProcess l fun p => { p with inputClosed := true }
    if (c.process l).policy.exitsOnClose then c.exit l 0 else c

/-- Tells the process to terminate; `false` if it cannot be told any more. -/
def terminate (c : Client) (l : Nat) : Client × Bool :=
  let c := c.event l .terminated
  match (c.process l).policy.onTerminate with
  | .exits => (c.exit l (-15), true)
  | .ignores => (c, true)
  | .gone => (c, false)

/-- Kills the process; `false` if it cannot be killed any more. -/
def kill (c : Client) (l : Nat) : Client × Bool :=
  let c := c.event l .killed
  match (c.process l).policy.onKill with
  | .exits => (c.exit l (-9), true)
  | .gone => (c, false)

end LspGateway.Client
