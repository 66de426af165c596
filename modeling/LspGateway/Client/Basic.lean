import LspGateway.Client.Error
import LspGateway.Config.Basic
import LspGateway.Forwarding
import LspGateway.Log

/-! # A client of one language server

A client starts its server when it is first needed, shares one start between all
callers that wait for it, and keeps whatever its processes have seen and sent.
What it does is divided into activities. Each of them runs until it has to wait,
for a message, for time, or for another activity; those that can go on stand in a
queue.
-/

namespace LspGateway
namespace Client

/-- Where a client stands in the life of its server. -/
inductive State
  | notStarted
  | starting
  | ready
  | failed
  deriving DecidableEq, Repr

/-- The name of a state, as reports give it. -/
def State.name : State → String
  | .notStarted => "not_started"
  | .starting => "starting"
  | .ready => "ready"
  | .failed => "failed"

/-- What happens between a client and one of its processes. -/
inductive Event
  /-- The process was started, or the attempt was made. -/
  | spawned
  | wrote (message : Json)
  | inputClosed
  | terminated
  | killed
  | exited (code : Int)
  /-- The server sent a notification, to someone who observes the connection. -/
  | notified (message : Json)
  /-- The stream broke, as an observer sees it. -/
  | broke (fault : Wire.Fault)
  /-- The server ended the stream, as an observer sees it. -/
  | ended
  deriving DecidableEq, Repr

/-- What a client lets others see. -/
inductive Output
  /-- An event of the process of the given spawn. -/
  | event (spawn : Nat) (event : Event)
  | log (entry : Log.Entry)
  /-- A call ended. -/
  | finished (call : Nat) (outcome : Outcome)
  deriving DecidableEq, Repr

/-- An activity of a client. -/
inductive Task
  /-- Reads the messages of a process. -/
  | listener (link : Nat)
  /-- Reads what a process reports on its standard error. -/
  | drain (link : Nat)
  | attempt (number : Nat)
  | call (number : Nat)
  /-- Passes the end of an attempt on to the calls that wait for it. -/
  | relay (attempt : Nat)
  deriving DecidableEq, Repr

/-- What an activity is told when it goes on. -/
inductive Signal
  | go
  | answered (outcome : Outcome)
  | timedOut
  | cancelled
  deriving DecidableEq, Repr

/-- A process, with what has arrived from it. -/
structure Process where
  policy : Policy
  exitCode : Option Int
  inputClosed : Bool
  inputFault : Option InputFault
  output : Wire.Feed
  errors : Wire.Feed
  deriving DecidableEq, Repr, Inhabited

/-- Where an activity that reads a stream stands. -/
inductive WatcherPhase
  | absent
  | fresh
  | waiting
  | running
  | done
  deriving DecidableEq, Repr, Inhabited

/-- An activity that reads a stream. It has a signal if and only if it is in the
queue. -/
structure Watcher where
  phase : WatcherPhase
  signal : Option Signal
  deriving DecidableEq, Repr, Inhabited

/-- A process and the connection to it. -/
structure Link where
  /-- Which spawn brought the process. -/
  spawn : Nat
  process : Process
  listener : Watcher
  drain : Watcher
  /-- The listener ended on a value of the wrong shape. -/
  crash : Option Json.Misuse
  closed : Bool
  /-- The end of the stream is expected. -/
  shuttingDown : Bool
  /-- How much of the next message the listener has taken. -/
  reading : Wire.Reading
  /-- A later listener has ended while the listener waited. The later one tells
  whether the connection is still listened to. -/
  superseded : Bool
  /-- The id of the last request. -/
  lastId : Nat
  /-- The requests without an answer, by id, and who waits for each. -/
  pending : List (Nat × Task)
  deriving DecidableEq, Repr, Inhabited

/-- What the end of a process or of an activity is waited for with. -/
inductive Stage
  | listener
  | input (deadline : Nat)
  | grace (deadline : Nat)
  | terminated (deadline : Nat)
  | drain
  deriving DecidableEq, Repr

/-- The taking down of a link. -/
structure Teardown where
  link : Nat
  /-- The link whose standard error is read until then, if there is one. -/
  drain : Option Nat
  stage : Stage
  deriving DecidableEq, Repr

/-- Where an attempt to start the server stands. -/
inductive AttemptPhase
  | fresh
  /-- It takes down what an earlier attempt left. -/
  | clearing (teardown : Teardown)
  /-- It waits for the answer to its first request. -/
  | handshake (link id : Nat)
  /-- It takes down what it had started, and ends with the outcome. -/
  | failing (teardown : Teardown) (outcome : Outcome)
  | running
  | done (outcome : Outcome)
  deriving DecidableEq, Repr

/-- An attempt to start the server. -/
structure Attempt where
  phase : AttemptPhase
  signal : Option Signal
  deriving DecidableEq, Repr

/-- What a caller asks of a client. -/
inductive Job
  | start
  | sends (sends : List Send)
  | listen
  | close
  | dispose
  deriving DecidableEq, Repr

/-- Where a call stands. -/
inductive CallPhase
  | fresh (job : Job)
  /-- It waits for an attempt and sends afterwards. -/
  | joined (attempt : Nat) (sends : List Send)
  /-- It waits for an answer and sends the rest afterwards. -/
  | awaiting (link id : Nat) (rest : List Send)
  | closing (teardown : Teardown)
  /-- It waits for the end of an attempt that it cancelled. -/
  | stopping (attempt : Nat)
  /-- It waits for the answer to the shutdown request. -/
  | shuttingDown (link id deadline : Nat)
  | disposing (teardown : Teardown)
  | running
  | done (outcome : Outcome)
  deriving DecidableEq, Repr

/-- A call of a client. -/
structure Call where
  phase : CallPhase
  signal : Option Signal
  deriving DecidableEq, Repr

/-- What a client uses, each by its link. They are of one link, unless the client was
disposed while it started. -/
structure Held where
  process : Option Nat
  connection : Option Nat
  /-- Whose standard error is read. -/
  drain : Option Nat
  deriving DecidableEq, Repr

/-- A client without a server. -/
def Held.nothing : Held := ⟨none, none, none⟩

/-- Who is told of notifications and of the end of a connection. -/
inductive Audience
  /-- The client, which gives up on its server. -/
  | client
  /-- An observer. -/
  | observer
  | nobody
  deriving DecidableEq, Repr

end Client

open Client in
/-- A client. Outputs are listed newest first. -/
structure Client where
  config : ServerConfig
  workspace : String
  audience : Audience
  /-- The behaviour of the processes still to be started; the last one repeats. -/
  policies : List Policy
  state : State
  /-- What the server can do; null if it is unknown. -/
  capabilities : Json
  spawns : Nat
  links : List Link
  held : Held
  attempts : List Attempt
  /-- The attempt that callers share. -/
  attempt : Option Nat
  calls : List Call
  ready : List Task
  /-- The time in nanoseconds. -/
  now : Nat
  history : List Output
  deriving DecidableEq, Repr

namespace Client

/-- The id that messages name the client by. -/
def id (c : Client) : String := c.config.id

/-- The handshake is complete. -/
def started (c : Client) : Bool := c.state = .ready

/-- Shows something. -/
def emit (c : Client) (o : Output) : Client := { c with history := o :: c.history }

/-- Reports something. -/
def log (c : Client) (level : Log.Level) (text : String) : Client :=
  c.emit (.log ⟨level, .server, text⟩)

/-- Puts an activity at the end of the queue. -/
def push (c : Client) (t : Task) : Client := { c with ready := c.ready ++ [t] }

/-! ## Parts of a client -/

def link (c : Client) (l : Nat) : Link := c.links[l]?.getD default

/-- Changes a link. -/
def modifyLink (c : Client) (l : Nat) (f : Link → Link) : Client :=
  { c with links := c.links.modify l f }

/-- Changes the process of a link. -/
def modifyProcess (c : Client) (l : Nat) (f : Process → Process) : Client :=
  c.modifyLink l fun k => { k with process := f k.process }

/-- The process of a link. -/
def process (c : Client) (l : Nat) : Process := (c.link l).process

/-- Records an event of the process of a link. -/
def event (c : Client) (l : Nat) (e : Event) : Client := c.emit (.event (c.link l).spawn e)

/-- The phase of an attempt that has no signal. -/
def setAttempt (c : Client) (n : Nat) (phase : AttemptPhase) : Client :=
  { c with attempts := c.attempts.set n ⟨phase, none⟩ }

/-- The phase of a call that has no signal. -/
def setCall (c : Client) (n : Nat) (phase : CallPhase) : Client :=
  { c with calls := c.calls.set n ⟨phase, none⟩ }

/-- Ends a call. -/
def finish (c : Client) (n : Nat) (o : Outcome) : Client :=
  (c.setCall n (.done o)).emit (.finished n o)

/-- Ends a call without a value. -/
def succeed (c : Client) (n : Nat) : Client := c.finish n .done

/-! ## Waiting -/

def AttemptPhase.isWaiting : AttemptPhase → Bool
  | .clearing _ => true
  | .handshake _ _ => true
  | .failing _ _ => true
  | _ => false

/-- The call goes on only if something happens. -/
def CallPhase.isWaiting : CallPhase → Bool
  | .fresh _ => false
  | .running => false
  | .done _ => false
  | _ => true

/-- The teardown that an attempt is in. -/
def AttemptPhase.teardown? : AttemptPhase → Option Teardown
  | .clearing t => some t
  | .failing t _ => some t
  | _ => none

/-- The teardown that a call is in. -/
def CallPhase.teardown? : CallPhase → Option Teardown
  | .closing t => some t
  | .disposing t => some t
  | _ => none

/-- When a stage is given up. -/
def Stage.deadline? : Stage → Option Nat
  | .input d => some d
  | .grace d => some d
  | .terminated d => some d
  | _ => none

/-- It waits for the process to exit. -/
def Stage.awaitsExit : Stage → Bool
  | .grace _ => true
  | .terminated _ => true
  | _ => false

/-- When an attempt stops waiting. -/
def AttemptPhase.deadline? (p : AttemptPhase) : Option Nat :=
  p.teardown?.bind (·.stage.deadline?)

/-- When a call stops waiting. -/
def CallPhase.deadline? : CallPhase → Option Nat
  | .shuttingDown _ _ d => some d
  | p => p.teardown?.bind (·.stage.deadline?)

/-- The outcome of an attempt that has ended. -/
def attemptOutcome? (c : Client) (n : Nat) : Option Outcome :=
  match c.attempts[n]? with
  | some ⟨.done o, _⟩ => some o
  | _ => none

/-! ## Waking

An activity that waits is given a signal and put into the queue. One that has a
signal already keeps it.
-/

def wakeListener (c : Client) (l : Nat) : Client :=
  match (c.link l).listener with
  | ⟨.waiting, none⟩ =>
    (c.modifyLink l fun k => { k with listener := ⟨.waiting, some .go⟩ }).push (.listener l)
  | _ => c

/-- Wakes the drain of a link if it waits. -/
def wakeDrain (c : Client) (l : Nat) : Client :=
  match (c.link l).drain with
  | ⟨.waiting, none⟩ =>
    (c.modifyLink l fun k => { k with drain := ⟨.waiting, some .go⟩ }).push (.drain l)
  | _ => c

/-- Wakes an attempt if it waits. -/
def wakeAttempt (c : Client) (n : Nat) (s : Signal) : Client :=
  match c.attempts[n]? with
  | some ⟨phase, none⟩ =>
    if phase.isWaiting then
      { c with attempts := c.attempts.set n ⟨phase, some s⟩ }.push (.attempt n)
    else c
  | _ => c

/-- Wakes a call if it waits. -/
def wakeCall (c : Client) (n : Nat) (s : Signal) : Client :=
  match c.calls[n]? with
  | some ⟨phase, none⟩ =>
    if phase.isWaiting then { c with calls := c.calls.set n ⟨phase, some s⟩ }.push (.call n)
    else c
  | _ => c

/-- Wakes whoever waits for an answer. -/
def wake (c : Client) (t : Task) (s : Signal) : Client :=
  match t with
  | .attempt n => c.wakeAttempt n s
  | .call n => c.wakeCall n s
  | _ => c

/-- Wakes every attempt whose phase satisfies the condition. -/
def wakeAttempts (c : Client) (p : AttemptPhase → Bool) (s : Signal) : Client :=
  let chosen := (List.range c.attempts.length).filter fun n =>
    (c.attempts[n]?.map fun a => p a.phase).getD false
  chosen.foldl (fun c n => c.wakeAttempt n s) c

/-- Wakes every call whose phase satisfies the condition. -/
def wakeCalls (c : Client) (p : CallPhase → Bool) (s : Signal) : Client :=
  let chosen := (List.range c.calls.length).filter fun n =>
    (c.calls[n]?.map fun a => p a.phase).getD false
  chosen.foldl (fun c n => c.wakeCall n s) c

/-- Wakes the teardowns that satisfy the condition. -/
def wakeTeardowns (c : Client) (p : Teardown → Bool) (s : Signal) : Client :=
  (c.wakeCalls (fun phase => phase.teardown?.any p) s).wakeAttempts
    (fun phase => phase.teardown?.any p) s

/-! ## Cancelling

An activity that is cancelled before it has begun ends without having run. If it
was about to go on with something else, it goes on cancelled instead, unless a step
of a teardown that it waited for has come about.
-/

/-- Tells a watcher to end; `true` if it has to be queued for that. -/
def Watcher.cancel (w : Watcher) : Watcher × Bool :=
  match w.phase with
  | .fresh => (⟨.fresh, some .cancelled⟩, w.signal.isNone)
  | .waiting => (⟨.waiting, some .cancelled⟩, w.signal.isNone)
  | _ => (w, false)

/-- Cancels the listener of a link. -/
def cancelListener (c : Client) (l : Nat) : Client :=
  let (w, queued) := (c.link l).listener.cancel
  let c := c.modifyLink l fun k => { k with listener := w }
  if queued then c.push (.listener l) else c

/-- Cancels the drain of a link. -/
def cancelDrain (c : Client) (l : Nat) : Client :=
  let (w, queued) := (c.link l).drain.cancel
  let c := c.modifyLink l fun k => { k with drain := w }
  if queued then c.push (.drain l) else c

/-- Waiting for a listener or a drain to end is not interrupted: it is ending. -/
def Stage.isFirm : Stage → Bool
  | .listener => true
  | .drain => true
  | _ => false

/-- Whether a teardown cannot be interrupted where it stands, given the signal of the
activity. -/
def isFirm (t : Option Teardown) (signal : Option Signal) : Bool :=
  t.any fun t => t.stage.isFirm || signal = some .go

/-- An attempt that can be cancelled. -/
def Attempt.yields (a : Attempt) : Bool :=
  a.phase = .fresh || (a.phase.isWaiting && !isFirm a.phase.teardown? a.signal)

/-- Cancels an attempt, unless what it waits for is ending anyway. -/
def cancelAttempt (c : Client) (n : Nat) : Client :=
  match c.attempts[n]? with
  | some a =>
    if a.yields then
      let c := { c with attempts := c.attempts.set n ⟨a.phase, some .cancelled⟩ }
      if a.signal.isNone then c.push (.attempt n) else c
    else c
  | none => c

/-- A call that can be cancelled. -/
def Call.yields (k : Call) : Bool :=
  match k.phase with
  | .fresh _ => true
  | .stopping _ => false
  | phase => phase.isWaiting && !isFirm phase.teardown? k.signal

/-- Cancels a call. One that waits for the end of an attempt passes the
cancellation on. -/
def cancelCall (c : Client) (n : Nat) : Client :=
  match c.calls[n]? with
  | some ⟨.stopping a, none⟩ => c.cancelAttempt a
  | some k =>
    if k.yields then
      let c := { c with calls := c.calls.set n ⟨k.phase, some .cancelled⟩ }
      if k.signal.isNone then c.push (.call n) else c
    else c
  | none => c

end Client

end LspGateway
