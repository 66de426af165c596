import LspGateway.Client.Starting

/-! # Calls

What callers ask of a client: to start its server, to send something, and to shut
it down. A call that needs the server waits for the attempt that all callers
share.
-/

namespace LspGateway.Client

/-- Nothing can be sent before the server was started. -/
def needsStart (c : Client) : Bool := c.state ≠ .ready

/-- The attempt that callers share: the one in progress, or a new one. -/
def shareAttempt (c : Client) : Client × Nat :=
  let next := c.attempts.length
  let renewed : Client :=
    { c with attempts := c.attempts ++ [Attempt.mk .fresh (some .go)], attempt := some next }
  match c.attempt with
  | some n => if (c.attemptOutcome? n).isSome then (renewed.push (.attempt next), next) else (c, n)
  | none => (renewed.push (.attempt next), next)

/-- Makes a call wait for the start, and send something afterwards. -/
def join (c : Client) (n : Nat) (sends : List Send) : Client :=
  let (c, a) := c.shareAttempt
  c.setCall n (.joined a sends)

/-- The link of a running server. -/
def usableLink (c : Client) : Except Error Nat :=
  match c.held.connection with
  | some l => if c.state = .ready then .ok l else .error (.notRunning c.id)
  | none => .error (.notRunning c.id)

/-- What a send came to: it is done, or the call is over or waits. -/
inductive Sent
  | done
  | parked
  deriving DecidableEq, Repr

/-- Sends something to a running server; `rest` is sent after an answer. -/
def sendOne (c : Client) (n : Nat) (s : Send) (rest : List Send) : Client × Sent :=
  match c.usableLink with
  | .error e => (c.finish n (.error e), .parked)
  | .ok l =>
    match s with
    | .notify method params =>
      match c.notify l method params with
      | (c, .ok ()) => (c, .done)
      | (c, .error e) => (c.finish n (.error e), .parked)
    | .request method params =>
      match c.request l (.call n) method params with
      | (c, .ok id) => (c.setCall n (.awaiting l id rest), .parked)
      | (c, .error e) => (c.finish n (.error e), .parked)

/-- Sends one thing after another, and ends the call with the last result. -/
def sendAll (c : Client) (n : Nat) (last : Json) : List Send → Client
  | [] => c.finish n (.value last)
  | s :: rest =>
    if c.needsStart then c.join n (s :: rest)
    else
      match c.sendOne n s rest with
      | (c, .done) => sendAll c n .null rest
      | (c, .parked) => c

/-- Sends what a call waited for the start with. -/
def sendJoined (c : Client) (n : Nat) : List Send → Client
  | [] => c.succeed n
  | s :: rest =>
    match c.sendOne n s rest with
    | (c, .done) => c.sendAll n .null rest
    | (c, .parked) => c

/-! ## Disposal -/

/-- The state of a client whose server is down. -/
def reset (c : Client) : Client := { c with state := .notStarted, capabilities := .null }

/-- Goes on when the link is down. A disposal never fails: what goes wrong is
reported. -/
def afterDisposing (c : Client) (n : Nat) : Progress → Client
  | .waits t => c.setCall n (.disposing t)
  | .over (.value _) => c.reset.succeed n
  | .over (.error e) =>
    (c.log .error ("Error disposing LSP " ++ c.id ++ ": " ++ e.message)).reset.succeed n
  | .over .cancelled => c.reset.finish n .cancelled

/-- Takes the link of a disposed client down. -/
def takeDown (c : Client) (n : Nat) : Client :=
  let (c, p) := c.release
  c.afterDisposing n p

/-- Reports that the server did not take part in its shutdown. -/
def uncleanShutdown (c : Client) (text : String) : Client :=
  c.log .debug ("LSP " ++ c.id ++ " did not shut down cleanly: " ++ text)

/-- From now on the end of the stream is expected. -/
def expectEnd (c : Client) (l : Nat) : Client :=
  c.modifyLink l fun k => { k with shuttingDown := true }

/-- Asks a running server to shut down, and takes the link down. A request that cannot
be sent counts as one that is answered at once, when those who can go on already have
had their turns. -/
def shutDown (c : Client) (n : Nat) : Client :=
  match c.usableLink with
  | .error _ => c.takeDown n
  | .ok l =>
    let c := c.expectEnd l
    match c.request l (.call n) "shutdown" .null with
    | (c, .ok id) => c.setCall n (.shuttingDown l id (c.now + 2 * second))
    | (c, .error e) =>
      (c.setCall n (.shuttingDown l 0 (c.now + 2 * second))).wakeCall n (.answered (.error e))

/-- Goes on when the server has agreed to shut down. -/
def sendExit (c : Client) (n l : Nat) : Client :=
  match c.notify l "exit" .null with
  | (c, .ok ()) => c.takeDown n
  | (c, .error e) => (c.uncleanShutdown e.message).takeDown n

/-- Disposes the client: cancels an attempt in progress, then shuts down. -/
def dispose (c : Client) (n : Nat) : Client :=
  match c.attempt with
  | none => c.shutDown n
  | some a =>
    let c := { c with attempt := none }
    if (c.attemptOutcome? a).isSome then c.shutDown n
    else (c.cancelAttempt a).setCall n (.stopping a)

/-- Goes on when the cancelled attempt has ended. -/
def afterStopping (c : Client) (n a : Nat) : Client :=
  match c.attemptOutcome? a with
  | some (.error e) =>
    (c.log .debug ("Cancelled start of LSP " ++ c.id ++ " ended with: " ++ e.message)).shutDown n
  | _ => c.shutDown n

/-! ## Running a call -/

/-- Goes on when the connection is closed. -/
def afterClosing (c : Client) (n : Nat) : Progress → Client
  | .waits t => c.setCall n (.closing t)
  | .over o => c.finish n o

/-- The link in use. -/
def heldLink (c : Client) : Nat := c.held.connection.getD 0

/-- Begins a call. -/
def beginCall (c : Client) (n : Nat) : Job → Client
  | .start => if c.needsStart then c.join n [] else c.succeed n
  | .sends sends => c.sendAll n .null sends
  | .listen => (c.startListening c.heldLink).succeed n
  | .close =>
    let (c, p) := c.closeConnection ⟨c.heldLink, none, .listener⟩
    c.afterClosing n p
  | .dispose => c.dispose n

/-- Goes on with a call that has the given signal. -/
def resumeCall (c : Client) (n : Nat) (s : Signal) : CallPhase → Client
  | .fresh job => if s = .cancelled then c.finish n .cancelled else c.beginCall n job
  | .joined _ sends =>
    match s with
    | .answered (.value _) => c.sendJoined n sends
    | .answered o => c.finish n o
    | _ => c.finish n .cancelled
  | .awaiting l id rest =>
    match s with
    | .answered (.value result) => c.sendAll n result rest
    | .answered o => c.finish n o
    | _ => (c.forget l id).finish n .cancelled
  | .closing t =>
    let (c, p) := c.resumeTeardown t s
    c.afterClosing n p
  | .stopping a => c.afterStopping n a
  | .shuttingDown l id _ =>
    match s with
    | .answered (.value _) => c.sendExit n l
    | .answered (.error e) => (c.uncleanShutdown e.message).takeDown n
    | .timedOut => ((c.forget l id).uncleanShutdown "").takeDown n
    | _ => (c.forget l id).reset.finish n .cancelled
  | .disposing t =>
    let (c, p) := c.resumeTeardown t s
    c.afterDisposing n p
  | phase => c.setCall n phase

/-- Goes on with a call. -/
def runCall (c : Client) (n : Nat) : Client :=
  match c.calls[n]? with
  | none => c
  | some ⟨phase, signal⟩ => (c.setCall n .running).resumeCall n (signal.getD .go) phase

/-- Tells the calls that wait for an attempt how it ended. -/
def runRelay (c : Client) (a : Nat) : Client :=
  match c.attemptOutcome? a with
  | some o =>
    c.wakeCalls (fun phase =>
      match phase with
      | .joined b _ => a == b
      | _ => false) (.answered o)
  | none => c

end LspGateway.Client
