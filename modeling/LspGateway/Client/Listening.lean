import LspGateway.Client.Sending

/-! # Listening to a server

A message with a method is a notification, or a request that is turned down; any
other message answers a request. A listener takes message after message until the
stream ends or breaks. Only one of them can wait for a stream: one that is started
while another waits takes what has arrived, and breaks where it would have to wait.
-/

namespace LspGateway.Client

/-- A message by what it is for. -/
inductive Incoming
  | response (id : Json) (members : Json.Members)
  | notification (message : Json)
  | request (id method : Json)
  deriving DecidableEq, Repr

/-- Sorts a message by its members. -/
def Incoming.ofJson (m : Json) : Except Json.Misuse Incoming :=
  match m.asObject with
  | .error fault => .error fault
  | .ok ms =>
    let id := (ms.get? "id").getD .null
    match (ms.get? "method").getD .null with
    | .null => .ok (.response id ms)
    | method => if id = .null then .ok (.notification m) else .ok (.request id method)

/-- What a response answers. -/
def responseOutcome (ms : Json.Members) : Except Json.Misuse Outcome :=
  match (ms.get? "error").getD .null with
  | .null => .ok (.value ((ms.get? "result").getD .null))
  | error =>
    match error.asObject with
    | .error fault => .error fault
    | .ok es =>
      .ok (.error (.response ((es.get? "code").getD .null)
        ((es.get? "message").getD (.str "Unknown error")) ((es.get? "data").getD .null)))

/-- Whether a value names the request with the given id: numbers and truth values
count by their value. -/
def isId (j : Json) (id : Nat) : Bool :=
  match j with
  | .int i => i = id
  | .bool b => b.toNat = id
  | .float x => x.toInt? = some (id : Int)
  | _ => false

/-- The pending request that a value names. -/
def pendingOf? (k : Link) (j : Json) : Option (Nat × Task) :=
  k.pending.find? fun (id, _) => isId j id

/-- Whoever waits for an answer has been told something already. -/
def isTold (c : Client) : Task → Bool
  | .attempt n => (c.attempts[n]?.map (·.signal.isSome)).getD true
  | .call n => (c.calls[n]?.map (·.signal.isSome)).getD true
  | _ => true

/-- The answer to no pending request is dropped. -/
def dropResponse (c : Client) (id : Json) : Client :=
  c.log .debug ("[" ++ c.id ++ "] Dropping response for unknown request id " ++ id.plain)

/-- Hands a response to whoever waits for it. Whether its id can be one at all is
looked at only if there are pending requests. -/
def handleResponse (c : Client) (l : Nat) (id : Json) (ms : Json.Members) :
    Client × Option Json.Misuse :=
  match id.asKey with
  | .error fault =>
    if (c.link l).pending.isEmpty then (c.dropResponse id, none) else (c, some fault)
  | .ok _ =>
    match pendingOf? (c.link l) id with
    | none => (c.dropResponse id, none)
    | some (n, t) =>
      let c := c.forget l n
      if c.isTold t then (c.dropResponse id, none)
      else
        match responseOutcome ms with
        | .ok o => (c.wake t (.answered o), none)
        | .error fault => (c, some fault)

/-- The error code for a method that is not handled. -/
def methodNotFound : Int := -32601

/-- The answer to a request of the server. -/
def rejection (id method : Json) : Json :=
  .obj [("jsonrpc", .str "2.0"), ("id", id), ("error", .obj [("code", .int methodNotFound),
    ("message", .str ("Unhandled method " ++ method.plain))])]

/-- Turns a request of the server down. -/
def rejectRequest (c : Client) (l : Nat) (id method : Json) : Client :=
  let c := c.log .debug ("[" ++ c.id ++ "] Rejecting server request " ++ method.plain)
  match c.write l (rejection id method) with
  | (c, .ok ()) => c
  | (c, .error e) =>
    c.log .warning ("[" ++ c.id ++ "] Failed to answer server request " ++ method.plain ++ ": " ++
      e.message)

/-- Passes a notification on. -/
def handleNotification (c : Client) (l : Nat) (m : Json) : Client :=
  match c.audience with
  | .client => c.log .debug ("LSP " ++ c.id ++ " unhandled notification: " ++ m.compact)
  | .observer => c.event l (.notified m)
  | .nobody => c

/-- Deals with one message. -/
def dispatch (c : Client) (l : Nat) (m : Json) : Client × Option Json.Misuse :=
  match Incoming.ofJson m with
  | .error fault => (c, some fault)
  | .ok (.response id ms) => c.handleResponse l id ms
  | .ok (.notification m) => (c.handleNotification l m, none)
  | .ok (.request id method) => (c.rejectRequest l id method, none)

/-! ## The end of a stream -/

/-- The client gives up on its server. -/
def giveUp (c : Client) : Client :=
  let c :=
    match c.held.process with
    | some l => if c.isAlive l then (c.kill l).1 else c
    | none => c
  { c with state := .failed, capabilities := .null }

/-- Tells of a broken stream. -/
def announceFault (c : Client) (l : Nat) (f : Wire.Fault) : Client :=
  match c.audience with
  | .client => (c.log .error ("LSP " ++ c.id ++ " connection error: " ++ f.message)).giveUp
  | .observer => c.event l (.broke f)
  | .nobody => c

/-- Tells of a stream that the server ended. -/
def announceEnd (c : Client) (l : Nat) : Client :=
  match c.audience with
  | .client => (c.log .warning ("LSP " ++ c.id ++ " connection closed")).giveUp
  | .observer => c.event l .ended
  | .nobody => c

/-- The phase of a listener that has no signal. -/
def setListener (c : Client) (l : Nat) (phase : WatcherPhase) : Client :=
  c.modifyLink l fun k => { k with listener := ⟨phase, none⟩ }

/-- The phase of a drain that has no signal. -/
def setDrain (c : Client) (l : Nat) (phase : WatcherPhase) : Client :=
  c.modifyLink l fun k => { k with drain := ⟨phase, none⟩ }

/-- The listener ends, and whoever waits for that goes on. -/
def endListener (c : Client) (l : Nat) : Client :=
  (c.setListener l .done).wakeTeardowns (fun t => t.link == l && t.stage = .listener) .go

/-- When a listener was started. -/
inductive Turn
  | first
  /-- Another listener waited already. -/
  | later
  deriving DecidableEq, Repr

/-- A listener ends for a reason. The one that waits stays where it is when a later
one ends. -/
def stopListening (c : Client) (l : Nat) (turn : Turn) (reason : Ending) : Client :=
  let c := c.failPending l reason
  match turn with
  | .first => c.endListener l
  | .later => c.modifyLink l fun k => { k with superseded := true }

/-- What a stream left is told, unless its end was to be expected. -/
def stopAfter (c : Client) (l : Nat) (turn : Turn) (reason : Ending)
    (announce : Client → Client) : Client :=
  let k := c.link l
  if k.closed || k.shuttingDown then c.stopListening l turn .deliberate
  else (announce c).stopListening l turn reason

/-- A listener ends on a broken stream. -/
def stopAfterFault (c : Client) (l : Nat) (turn : Turn) (f : Wire.Fault) : Client :=
  c.stopAfter l turn (.fault f) (·.announceFault l f)

/-- A listener ends on a value of the wrong shape. Of one that was superseded
nobody learns that. -/
def crashListening (c : Client) (l : Nat) (turn : Turn) (fault : Json.Misuse) : Client :=
  let c := c.modifyLink l fun k =>
    if turn = .first && k.superseded then k else { k with crash := some fault }
  c.stopListening l turn .deliberate

/-- The listener waits for the rest of a message. -/
def pauseListening (c : Client) (l : Nat) (reading : Wire.Reading) : Client :=
  (c.setListener l .waiting).modifyLink l fun k => { k with reading }

/-- The bytes still to be taken. -/
def setOutput (c : Client) (l : Nat) (rest : List UInt8) : Client :=
  c.modifyProcess l fun p => { p with output := { p.output with buffer := rest } }

/-- Takes messages until it has to wait or to end. Every message takes a byte, so
as many steps as there are bytes, and one more, are enough. -/
def listen (l : Nat) (turn : Turn) : Nat → Wire.Reading → Client → Client
  | 0, reading, c => if turn = .first then c.pauseListening l reading else c
  | fuel + 1, reading, c =>
    match Wire.next (c.process l).output reading with
    | .unfinished reading rest =>
      match turn with
      | .first => (c.setOutput l rest).pauseListening l reading
      | .later => (c.setOutput l rest).stopAfterFault l turn (.busy reading)
    | .fault f rest => (c.setOutput l rest).stopAfterFault l turn f
    | .ended rest => (c.setOutput l rest).stopAfter l turn .byServer (·.announceEnd l)
    | .message m rest =>
      match (c.setOutput l rest).dispatch l m with
      | (c, none) =>
        if (c.link l).closed then c.stopListening l turn .deliberate
        else listen l turn fuel .start c
      | (c, some fault) => c.crashListening l turn fault

/-- Takes messages from where a listener stands. -/
def listenFrom (c : Client) (l : Nat) (turn : Turn) (reading : Wire.Reading) : Client :=
  listen l turn ((c.process l).output.buffer.length + 1) reading c

/-- Begins to listen, unless the connection was closed. -/
def beginListening (c : Client) (l : Nat) (turn : Turn) : Client :=
  if (c.link l).closed then c.stopListening l turn .deliberate
  else c.listenFrom l turn .start

/-- Goes on listening. One that is cancelled before it has begun leaves the
pending requests alone. -/
def runListener (c : Client) (l : Nat) : Client :=
  let k := c.link l
  match k.listener with
  | ⟨.fresh, some .cancelled⟩ => c.endListener l
  | ⟨_, some .cancelled⟩ => c.stopListening l .first .deliberate
  | ⟨.fresh, _⟩ => (c.setListener l .running).beginListening l .first
  | _ => (c.setListener l .running).listenFrom l .first k.reading

/-- Starts to listen. -/
def startListening (c : Client) (l : Nat) : Client :=
  let forget := fun k : Link => { k with crash := none, superseded := false }
  match (c.link l).listener.phase with
  | .fresh => c
  | .waiting => (c.modifyLink l forget).beginListening l .later
  | _ =>
    (c.modifyLink l fun k => { forget k with listener := ⟨.fresh, some .go⟩ }).push
      (.listener l)

/-! ## Standard error -/

/-- The drain ends, and whoever waits for that goes on. -/
def endDrain (c : Client) (l : Nat) : Client :=
  (c.setDrain l .done).wakeTeardowns (fun t => t.drain == some l && t.stage = .drain) .go

/-- A line of standard error in the log. -/
def logLine (c : Client) (line : List UInt8) : Client :=
  c.log .debug ("[" ++ c.id ++ " stderr] " ++ Text.stripEnd (.ofList (Text.Utf8.decodeLossy line)))

/-- The bytes of standard error still to be taken. -/
def setErrors (c : Client) (l : Nat) (rest : List UInt8) : Client :=
  c.modifyProcess l fun p => { p with errors := { p.errors with buffer := rest } }

/-- Takes lines until it has to wait or to end. -/
def readErrors (l : Nat) : Nat → Client → Client
  | 0, c => c.setDrain l .waiting
  | fuel + 1, c =>
    match Wire.readLine (c.process l).errors with
    | .unfinished => c.setDrain l .waiting
    | .ended => c.endDrain l
    | .fault f rest =>
      ((c.setErrors l rest).log .debug ("Stopped reading stderr of LSP " ++ c.id ++ ": " ++
        f.message)).endDrain l
    | .line line rest => readErrors l fuel ((c.setErrors l rest).logLine line)

/-- Goes on reading standard error. -/
def runDrain (c : Client) (l : Nat) : Client :=
  match (c.link l).drain with
  | ⟨_, some .cancelled⟩ => c.endDrain l
  | _ => readErrors l ((c.process l).errors.buffer.length + 1) (c.setDrain l .running)

/-- Starts to read standard error. -/
def startDraining (c : Client) (l : Nat) : Client :=
  (c.modifyLink l fun k => { k with drain := ⟨.fresh, some .go⟩ }).push (.drain l)

end LspGateway.Client
