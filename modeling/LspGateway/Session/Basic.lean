import LspGateway.Client.Unrest

/-! # Sessions

Several clients side by side. They share nothing but the time and the order of
their turns: an activity of one client goes on after those that could go on before
it, whichever clients they belong to.
-/

namespace LspGateway

/-- Clients, each named by its place. -/
structure Session where
  clients : List Client
  /-- The clients with an activity in their queue, once for each activity. -/
  turns : List Nat
  /-- What the clients have shown since the last report, newest first. -/
  journal : List (Nat × Client.Output)
  /-- The spawns of all clients, in the order in which they came. -/
  spawned : List (Nat × Nat)
  deriving DecidableEq, Repr

namespace Session
open Client (Input Output Job Outcome)

/-- Clients among which nothing has happened yet. -/
def ofClients (clients : List Client) : Session :=
  ⟨clients, [], [], clients.zipIdx.flatMap fun (c, i) => c.links.map fun k => (i, k.spawn)⟩

/-- The spawns among outputs. -/
def spawns (outputs : List Output) : List Nat :=
  outputs.filterMap fun
    | .event n .spawned => some n
    | _ => none

/-- Applies an input to one client. `begun` activities are taken out of its queue
by that. -/
def apply (s : Session) (i begun : Nat) (input : Input) : Session :=
  match s.clients[i]? with
  | none => s
  | some c =>
    let after := c.step input
    let shown := after.history.take (after.history.length - c.history.length)
    { clients := s.clients.set i after
      turns := s.turns ++ List.replicate (after.ready.length + begun - c.ready.length) i
      journal := shown.map (fun o => (i, o)) ++ s.journal
      spawned := s.spawned ++ (spawns shown.reverse).map fun n => (i, n) }

/-- Applies an input from outside to one client. -/
def input (s : Session) (i : Nat) (input : Input) : Session := s.apply i 0 input

/-- Lets the activity go on whose turn it is. -/
def turn (s : Session) : Session :=
  match s.turns with
  | [] => s
  | i :: rest => { s with turns := rest }.apply i 1 .turn

/-- At least as many turns as the clients can take without new input. -/
def budget (s : Session) : Nat := Client.total Client.unrest s.clients

/-- Takes up to the given number of turns. -/
def takeTurns : Nat → Session → Session
  | 0, s => s
  | fuel + 1, s => if s.turns.isEmpty then s else takeTurns fuel s.turn

/-- Lets everything go on that can. -/
def settle (s : Session) : Session := takeTurns s.budget s

/-- Sets the time of every client, and wakes those who wait up to the moment `due`. -/
def passTo (s : Session) (time due : Nat) : Session :=
  (List.range s.clients.length).foldl (fun s i => s.input i (.time time due)) s

/-- The moments at which activities stop waiting. -/
def deadlines (s : Session) : List Nat := s.clients.flatMap Client.deadlines

/-- Lets time pass up to a moment in one leap: whoever would have stopped waiting on
the way goes on at its end, in the order of those moments. -/
def advanceTo (s : Session) (time : Nat) : Session :=
  let moments := (s.deadlines.filter (· < time)).mergeSort (· ≤ ·)
  (((moments ++ [time]).foldl (fun s due => s.passTo time due) s)).settle

/-- The time of all clients. -/
def now (s : Session) : Nat := (s.clients.head?.map (·.now)).getD 0

/-- Lets the given number of nanoseconds pass. -/
def advance (s : Session) (duration : Nat) : Session := s.advanceTo (s.now + duration)

/-- Reports something that no client reports. -/
def note (s : Session) (e : Log.Entry) : Session := { s with journal := (0, .log e) :: s.journal }

end Session

end LspGateway
