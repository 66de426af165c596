import LspGateway.Session.Basic

/-! # What is asked of a session

A request to a session may be one call of one client or calls of several. It is
kept under a label until all its calls have ended, and is then handed back with its
outcome. A report tells what has happened since the one before.
-/

namespace LspGateway

/-- A request to a session, with what the one who asked needs to know later. -/
structure Ticket (α : Type) where
  label : String
  /-- The calls it waits for: the client and the number of the call. -/
  parts : List (Nat × Nat)
  /-- It ends when all parts have ended, whatever their outcomes. -/
  together : Bool
  cancelled : Bool
  purpose : α
  deriving DecidableEq, Repr

/-- A session and the requests that have not been handed back. -/
structure Board (α : Type) where
  session : Session
  tickets : List (Ticket α)
  deriving DecidableEq, Repr

/-- What has happened since the report before. Events are grouped by process, the
first that was started first. -/
structure Report (α : Type) where
  events : List (Nat × Client.Event)
  /-- The events as they came. -/
  course : List (Nat × Client.Event)
  finished : List (Ticket α × Client.Outcome)
  waiting : List String
  logs : List Log.Entry
  deriving DecidableEq, Repr

namespace Board
open Client (Input Output Job Outcome Event)

variable {α : Type}

/-- A board on which nothing was asked yet. -/
def ofClients (clients : List Client) : Board α := ⟨.ofClients clients, []⟩

/-- Applies an input to a client. -/
def input (b : Board α) (i : Nat) (input : Input) : Board α :=
  { b with session := b.session.input i input }

/-- The next call of a client. -/
def nextCall (b : Board α) (i : Nat) : Nat := (b.session.clients[i]?.map (·.calls.length)).getD 0

/-- Asks one client for something. -/
def ask (b : Board α) (label : String) (purpose : α) (i : Nat) (job : Job) : Board α :=
  { b.input i (.call job) with
    tickets := b.tickets ++ [⟨label, [(i, b.nextCall i)], false, false, purpose⟩] }

/-- Asks every client for something. -/
def askAll (b : Board α) (label : String) (purpose : α) (job : Job) : Board α :=
  let clients := List.range b.session.clients.length
  { clients.foldl (fun b i => b.input i (.call job)) b with
    tickets := b.tickets ++
      [⟨label, clients.map fun i => (i, b.nextCall i), true, false, purpose⟩] }

/-- Enters a request that needs no client. -/
def enter (b : Board α) (label : String) (purpose : α) : Board α :=
  { b with tickets := b.tickets ++ [⟨label, [], true, false, purpose⟩] }

/-- Cancels the requests with a label. -/
def cancel (b : Board α) (label : String) : Board α :=
  let chosen := b.tickets.filter (·.label == label)
  let session := (chosen.flatMap (·.parts)).foldl (fun s (i, n) => s.input i (.cancel n)) b.session
  { session := session
    tickets := b.tickets.map fun t => if t.label == label then { t with cancelled := true } else t }

/-- The outcomes of the parts of a request, if all have ended. -/
def partOutcomes? (s : Session) (parts : List (Nat × Nat)) : Option (List Outcome) :=
  parts.mapM fun (i, n) => s.clients[i]?.bind (·.callOutcome? n)

/-- The outcome of a request that has ended. -/
def outcome? (s : Session) (t : Ticket α) : Option Outcome :=
  match partOutcomes? s t.parts with
  | none => none
  | some outcomes =>
    if t.together then some (if t.cancelled then .cancelled else .done)
    else outcomes.head?

/-- The events of one process among the outputs, oldest first. -/
def eventsOf (journal : List (Nat × Output)) (spawn : Nat × Nat) : List (Nat × Event) :=
  journal.filterMap fun
    | (i, .event n e) => if (i, n) = spawn then some (i, e) else none
    | _ => none

/-- All events in the order in which they came. -/
def eventsAsTheyCame (journal : List (Nat × Output)) : List (Nat × Event) :=
  journal.filterMap fun
    | (i, .event _ e) => some (i, e)
    | _ => none

/-- The log entries among the outputs. -/
def logs (journal : List (Nat × Output)) : List Log.Entry :=
  journal.filterMap fun
    | (_, .log e) => some e
    | _ => none

/-- What has happened, and the board for what comes next. -/
def report (b : Board α) : Board α × Report α :=
  let journal := b.session.journal.reverse
  let finished := b.tickets.filterMap fun t => (outcome? b.session t).map fun o => (t, o)
  let waiting := b.tickets.filter fun t => (outcome? b.session t).isNone
  ({ session := { b.session with journal := [] }, tickets := waiting },
    ⟨b.session.spawned.flatMap (eventsOf journal), eventsAsTheyCame journal, finished,
      waiting.map (·.label), logs journal⟩)

/-- Lets everything go on that can. -/
def settle (b : Board α) : Board α := { b with session := b.session.settle }

/-- Reports something that no client reports. -/
def note (b : Board α) (e : Log.Entry) : Board α := { b with session := b.session.note e }

/-- Lets time pass up to a moment. -/
def advanceTo (b : Board α) (time : Nat) : Board α :=
  { b with session := b.session.advanceTo time }

/-- Lets the given number of nanoseconds pass. -/
def advance (b : Board α) (duration : Nat) : Board α :=
  { b with session := b.session.advance duration }

end Board

end LspGateway
