import LspGateway.Client.Run

/-! # How long a client can go on by itself

Without new input every activity comes to wait. What each of them may still do until
then has a cost: the turns that it takes, and those of the activities that it wakes
or begins.
-/

namespace LspGateway.Client

/-- How many stages of a teardown may follow. -/
def Stage.left : Stage → Nat
  | .listener => 4
  | .input _ => 3
  | .grace _ => 2
  | .terminated _ => 1
  | .drain => 0

/-- A stage may wake a drain and wait. -/
def Teardown.cost (t : Teardown) : Nat := 2 * t.stage.left

/-- The cost of an attempt from where it stands. -/
def AttemptPhase.cost : AttemptPhase → Nat
  | .fresh => 27
  | .clearing t => t.cost + 17
  | .handshake _ _ => 11
  | .failing t _ => t.cost + 1
  | .running => 0
  | .done _ => 0

/-- The cost of something to send: it may need a new attempt, and waits for that and
for an answer. -/
def sendCost : Nat := 31

/-- The cost of a call from where it stands. -/
def CallPhase.cost : CallPhase → Nat
  | .fresh .start => 31
  | .fresh (.sends sends) => sendCost * sends.length
  | .fresh .listen => 1
  | .fresh .close => 10
  | .fresh .dispose => 14
  | .joined _ sends => sendCost * (sends.length - 1) + 2
  | .awaiting _ _ rest => sendCost * rest.length
  | .closing t => t.cost
  | .stopping _ => 12
  | .shuttingDown _ _ _ => 10
  | .disposing t => t.cost
  | .running => 0
  | .done _ => 0

/-- An attempt that waits can be woken once. -/
def Attempt.cost (a : Attempt) : Nat :=
  a.phase.cost + if a.phase.isWaiting && a.signal.isNone then 1 else 0

/-- A call that waits can be woken once. -/
def Call.cost (k : Call) : Nat :=
  k.phase.cost + if k.phase.isWaiting && k.signal.isNone then 1 else 0

/-- A process that exits ends both its streams. -/
def Link.cost (k : Link) : Nat := if k.process.exitCode.isNone then 2 else 0

/-- What the members of a list cost together. -/
def total {α : Type} (cost : α → Nat) : List α → Nat
  | [] => 0
  | x :: xs => cost x + total cost xs

/-- At least as many turns as the client can take without new input. -/
def unrest (c : Client) : Nat :=
  c.ready.length + total Link.cost c.links + total Attempt.cost c.attempts +
    total Call.cost c.calls

end LspGateway.Client
