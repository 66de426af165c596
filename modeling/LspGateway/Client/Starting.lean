import LspGateway.Client.Closing

/-! # Starting a server

An attempt takes down what was left, runs the command, and introduces itself to
the server. Whatever goes wrong on the way, it takes down what it has started
before it fails.
-/

namespace LspGateway.Client

/-- Ends an attempt. The calls that wait for it are told by way of a relay, and a
call that cancelled it is told directly. -/
def endAttempt (c : Client) (n : Nat) (o : Outcome) : Client :=
  ((c.setAttempt n (.done o)).push (.relay n)).wakeCalls
    (fun phase => phase = .stopping n) .go

/-- The state after a failed attempt. -/
def markFailed (c : Client) : Client := { c with state := .failed, capabilities := .null }

/-- Goes on when what a failing attempt had started is down. -/
def afterFailing (c : Client) (n : Nat) (o : Outcome) : Progress → Client
  | .waits t => c.setAttempt n (.failing t o)
  | .over (.value _) => c.markFailed.endAttempt n o
  | .over other => c.endAttempt n other

/-- Takes down what an attempt has started and ends it. -/
def abandon (c : Client) (n : Nat) (o : Outcome) : Client :=
  let (c, p) := c.release
  c.afterFailing n o p

/-- Fails an attempt. -/
def failAttempt (c : Client) (n : Nat) (e : Error) : Client :=
  let c := c.log .error ("Failed to start LSP " ++ c.id ++ ": " ++ e.message)
  c.abandon n (.error (if e.isExpected then e else .unstarted c.id e))

/-- The parameters of the first request; the gateway tells its process id. -/
def introduction (c : Client) : Json :=
  .obj [("processId", .int 4242), ("rootUri", .str ("file://" ++ c.workspace)),
    ("capabilities", .obj [])]

/-- Sends the first request. -/
def introduce (c : Client) (n l : Nat) : Client :=
  match c.request l (.attempt n) "initialize" c.introduction with
  | (c, .ok id) => c.setAttempt n (.handshake l id)
  | (c, .error e) => c.failAttempt n (.uninitialized c.id e)

/-- A new process of the given behaviour. -/
def Process.ofPolicy (p : Policy) : Process := ⟨p, none, false, none, ⟨[], false⟩, ⟨[], false⟩⟩

/-- A new process and an unused connection to it. -/
def Link.ofPolicy (spawn : Nat) (p : Policy) : Link :=
  { spawn, process := Process.ofPolicy p, listener := ⟨.absent, none⟩, drain := ⟨.absent, none⟩,
    crash := none, closed := false, shuttingDown := false, reading := .start,
    superseded := false, lastId := 0, pending := [] }

/-- The behaviour of the next process. -/
def nextPolicy (c : Client) : Policy := c.policies.head?.getD default

/-- The policies after one more process was started. -/
def restPolicies (c : Client) : List Policy :=
  match c.policies with
  | _ :: p :: ps => p :: ps
  | ps => ps

/-- Sets up the connection to a new process. -/
def connect (c : Client) (n : Nat) (p : Policy) : Client :=
  let l := c.links.length
  let c : Client :=
    { c with
      links := c.links ++ [Link.ofPolicy (c.spawns - 1) p]
      held := { c.held with process := some l } }
  if p.hasInput then
    let c := { c with held := { c.held with connection := some l } }.startListening l
    let c : Client :=
      if p.hasErrors then { c with held := { c.held with drain := some l } }.startDraining l else c
    c.introduce n l
  else c.failAttempt n .noPipes

/-- Runs the command. -/
def spawn (c : Client) (n : Nat) : Client :=
  let p := c.nextPolicy
  if !p.found then c.failAttempt n (.commandNotFound c.config.command)
  else
    let c := { c with policies := c.restPolicies, spawns := c.spawns + 1 }.emit
      (.event c.spawns .spawned)
    match p.spawnFault with
    | some (.refused errno) => c.failAttempt n (.spawnRefused c.config.command errno)
    | some (.crash text) => c.failAttempt n (.spawnCrashed text)
    | none => c.connect n p

/-- Goes on when what was left of an earlier attempt is down. -/
def afterClearing (c : Client) (n : Nat) : Progress → Client
  | .waits t => c.setAttempt n (.clearing t)
  | .over (.value _) =>
    let command := String.intercalate " " (c.config.command :: c.config.args)
    ({ c with state := .starting }.log .info ("Starting LSP " ++ c.id ++ ": " ++ command)).spawn n
  | .over other => c.endAttempt n other

/-- Begins an attempt. -/
def beginAttempt (c : Client) (n : Nat) : Client :=
  let (c, p) := c.release
  c.afterClearing n p

/-- What a server says it can do. -/
def capabilitiesOf (result : Json) : Except Json.Misuse Json :=
  if result.truthy then
    match result.asObject with
    | .ok ms => .ok ((ms.get? "capabilities").getD (.obj []))
    | .error fault => .error fault
  else .ok (.obj [])

/-- Completes the handshake with the answer to the first request, over the connection
that the client uses by then. -/
def completeHandshake (c : Client) (n : Nat) (result : Json) : Client :=
  match c.held.connection with
  | none => c.failAttempt n (.misuse (.lacks .null "send_notification"))
  | some l =>
    match c.notify l "initialized" (.obj []) with
    | (c, .error e) => c.failAttempt n (.uninitialized c.id e)
    | (c, .ok ()) =>
      match capabilitiesOf result with
      | .error fault => c.failAttempt n (.misuse fault)
      | .ok capabilities =>
        let c := { c with capabilities := capabilities }.log .debug
          ("LSP " ++ c.id ++ " capabilities: " ++ capabilities.compact)
        let c := { c with state := .ready }.log .info
          ("LSP " ++ c.id ++ " initialized successfully")
        c.endAttempt n .done

/-- Goes on with an attempt. -/
def runAttempt (c : Client) (n : Nat) : Client :=
  match c.attempts[n]? with
  | none => c
  | some ⟨phase, signal⟩ =>
    let s := signal.getD .go
    let c := c.setAttempt n .running
    match phase with
    | .fresh => if s = .cancelled then c.endAttempt n .cancelled else c.beginAttempt n
    | .clearing t =>
      let (c, p) := c.resumeTeardown t s
      c.afterClearing n p
    | .handshake l id =>
      match s with
      | .answered (.value result) => c.completeHandshake n result
      | .answered (.error e) => c.failAttempt n (.uninitialized c.id e)
      | _ => (c.forget l id).abandon n .cancelled
    | .failing t o =>
      let (c, p) := c.resumeTeardown t s
      c.afterFailing n o p
    | phase => c.setAttempt n phase

end LspGateway.Client
