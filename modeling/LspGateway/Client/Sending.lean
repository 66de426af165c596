import LspGateway.Client.Process
import LspGateway.Wire.Frame

/-! # Sending messages

Messages are written whole and in order. A request gets an id that no earlier one
had and stays pending until it is answered or given up.
-/

namespace LspGateway.Client

/-- The connection was closed, or the last one to listen has ended. -/
def Link.isClosed (k : Link) : Bool :=
  k.closed || k.superseded || k.listener.phase = .done

/-- A message, with its parameters unless they are null. -/
def message (id : Option Nat) (method : String) (params : Json) : Json :=
  .obj ([("jsonrpc", .str "2.0")] ++
    (match id with
      | some n => [("id", .int n)]
      | none => []) ++
    [("method", .str method)] ++
    (if params = .null then [] else [("params", params)]))

/-- What a process answers to a message by itself. -/
def Policy.answer? (p : Policy) (m : Json) : Option Json :=
  match m.get? "id", m.get? "method" with
  | some id, some (.str method) =>
    ((p.replies.find? (·.1 == method)).map (·.2)).map fun
      | .fixed ms => .obj ([("jsonrpc", .str "2.0"), ("id", id)] ++ ms)
      | .echo => .obj [("jsonrpc", .str "2.0"), ("id", id),
        ("result", .obj [("method", .str method), ("params", (m.get? "params").getD .null)])]
  | _, _ => none

/-- Writes a message to a process. -/
def write (c : Client) (l : Nat) (m : Json) : Client × Except Error Unit :=
  if (c.link l).closed then (c, .error .closed)
  else
    let p := c.process l
    if p.inputFault = some .gone then (c, .error (.unwritable .gone))
    else
      let c := c.event l (.wrote m)
      let c :=
        match Policy.answer? p.policy m with
        | some reply => c.feed l (Wire.encode reply)
        | none => c
      if p.inputFault = some .broken then (c, .error (.unwritable .broken)) else (c, .ok ())

/-- Sends a notification. -/
def notify (c : Client) (l : Nat) (method : String) (params : Json) :
    Client × Except Error Unit :=
  if (c.link l).isClosed then (c, .error .closed) else c.write l (message none method params)

/-- The request is no longer pending. -/
def forget (c : Client) (l id : Nat) : Client :=
  c.modifyLink l fun k => { k with pending := k.pending.filter (·.1 != id) }

/-- Sends a request for which an activity will wait, and answers its id. -/
def request (c : Client) (l : Nat) (t : Task) (method : String) (params : Json) :
    Client × Except Error Nat :=
  if (c.link l).isClosed then (c, .error .closed)
  else
    let id := (c.link l).lastId + 1
    let c := c.modifyLink l fun k => { k with lastId := id, pending := k.pending ++ [(id, t)] }
    match c.write l (message (some id) method params) with
    | (c, .ok ()) => (c, .ok id)
    | (c, .error e) => (c.forget l id, .error e)

/-- Gives up every pending request. -/
def failPending (c : Client) (l : Nat) (reason : Ending) : Client :=
  let pending := (c.link l).pending
  pending.foldl (fun c (_, t) => c.wake t (.answered (.error (.ended reason))))
    (c.modifyLink l fun k => { k with pending := [] })

end LspGateway.Client
