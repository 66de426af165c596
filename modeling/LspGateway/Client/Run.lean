import LspGateway.Client.Calling

/-! # The runs of a client

A run starts with a client whose server was not started, or with a mere
connection, and goes on by inputs: calls, what the process does, time, and turns of
the activities that can go on. Whatever order the inputs come in, a step is a
function of the client and the input alone.
-/

namespace LspGateway.Client

/-- Goes on with an activity until it has to wait. -/
def runTask (c : Client) : Task → Client
  | .listener l => c.runListener l
  | .drain l => c.runDrain l
  | .attempt n => c.runAttempt n
  | .call n => c.runCall n
  | .relay a => c.runRelay a

/-- Lets the first activity of the queue go on. -/
def turn (c : Client) : Client :=
  match c.ready with
  | [] => c
  | t :: rest => { c with ready := rest }.runTask t

/-- Adds a call, which begins when its turn comes. -/
def addCall (c : Client) (job : Job) : Client :=
  { c with calls := c.calls ++ [Call.mk (.fresh job) (some .go)] }.push (.call c.calls.length)

/-- The moments at which activities stop waiting. -/
def deadlines (c : Client) : List Nat :=
  c.attempts.filterMap (·.phase.deadline?) ++ c.calls.filterMap (·.phase.deadline?)

/-- Whether a moment has come. -/
def isDue (time : Nat) : Option Nat → Bool
  | some d => d ≤ time
  | none => false

/-- Sets the time, and wakes those who would wait up to the moment `due` at most. -/
def passTo (c : Client) (time due : Nat) : Client :=
  ({ c with now := time }.wakeAttempts (fun p => isDue due p.deadline?) .timedOut).wakeCalls
    (fun p => isDue due p.deadline?) .timedOut

/-- What happens to a client. What a process does concerns the last process that
was started. -/
inductive Input
  | turn
  | call (job : Job)
  | cancel (call : Nat)
  | output (bytes : List UInt8)
  | errors (bytes : List UInt8)
  | outputEnd
  | exit (code : Int)
  | inputFault (fault : Option InputFault)
  /-- The end of the stream is to be expected from now on. -/
  | expectEnd
  /-- The time is set, and those who wait up to the moment `due` at most go on. -/
  | time (moment due : Nat)
  deriving DecidableEq, Repr

/-- Does something to the last link, if there is one. -/
def onLastLink (c : Client) (f : Client → Nat → Client) : Client :=
  match c.links with
  | [] => c
  | _ :: rest => f c rest.length

/-- One step of a run. -/
def step (c : Client) : Input → Client
  | .turn => c.turn
  | .call job => c.addCall job
  | .cancel n => c.cancelCall n
  | .output bytes => c.onLastLink fun c l => c.feed l bytes
  | .errors bytes => c.onLastLink fun c l => c.feedErrors l bytes
  | .outputEnd => c.onLastLink endOutput
  | .exit code => c.onLastLink fun c l => c.exit l code
  | .inputFault fault => c.onLastLink fun c l => c.breakInput l fault
  | .expectEnd => c.expectEnd c.heldLink
  | .time moment due => c.passTo moment due

/-- A whole run. -/
def run (c : Client) (inputs : List Input) : Client := inputs.foldl step c

/-- A client whose server was not started. -/
def ofConfig (config : ServerConfig) (workspace : String) (policies : List Policy) : Client :=
  ⟨config, workspace, .client, policies, .notStarted, .null, 0, [], .nothing, [], none, [], [], 0,
    []⟩

/-- A mere connection to a running process, with or without an observer. -/
def ofProcess (name : String) (policy : Policy) (observed : Bool) : Client :=
  ⟨⟨name, [], [], "", []⟩, "", if observed then .observer else .nobody, [], .ready, .null, 1,
    [Link.ofPolicy 0 policy], ⟨some 0, some 0, none⟩, [], none, [], [], 0, []⟩

/-- The outcome of a call that has ended. -/
def callOutcome? (c : Client) (n : Nat) : Option Outcome :=
  match c.calls[n]? with
  | some ⟨.done o, _⟩ => some o
  | _ => none

/-- A client in a sentence. -/
def describe (c : Client) : String :=
  "LSPClient(id=" ++ Text.quoted c.id ++ ", state=" ++ Text.quoted c.state.name ++ ")"

end LspGateway.Client
