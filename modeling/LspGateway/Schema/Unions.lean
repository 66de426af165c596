import LspGateway.Schema.Graph

/-! # Schemas without type unions

Callers that expect a single type per schema get one: a list of types becomes
`string` if that is among them, else the first of them. This reaches the
properties of a schema and the items of its arrays, and a schema met again below
itself is cut to a bare object.
-/

namespace LspGateway.Schema

/-- The schema of any object. -/
def bareObject : Tree := .obj [("type", .atom (.str "object"))]

/-- The type that stands for a list of types. -/
def unionType? (types : List Value) : Option Value :=
  if types.contains (.atom (.str "string")) then some (.atom (.str "string")) else types.head?

/-- A member of a schema, its type made single and the schemas below it changed alike. -/
def collapseMember (g : Graph) (below : Nat → Tree) (key : String) (v : Value) :
    Option (String × Tree) :=
  let schema (v : Value) : Tree :=
    match v, g.members? v with
    | .node id, some _ => below id
    | _, _ => v.toTree
  if key = "type" then
    match g.items? v with
    | some types => (unionType? types).map fun t => (key, t.toTree)
    | none => some (key, v.toTree)
  else if key = "properties" then
    match g.members? v with
    | some ms => some (key, .obj (ms.map fun (k, w) => (k, schema w)))
    | none => some (key, v.toTree)
  else if key = "items" then some (key, schema v)
  else some (key, v.toTree)

/-- The schema of a container; `path` holds the containers it is below. Every step
down adds a container to the path, so their number bounds the depth. -/
def collapse (g : Graph) : Nat → List Nat → Nat → Tree
  | 0, _, _ => bareObject
  | fuel + 1, path, id =>
    if path.contains id then bareObject
    else
      match g.cell? id with
      | some (.obj ms) =>
        .obj (ms.filterMap fun (k, v) => collapseMember g (collapse g fuel (id :: path)) k v)
      | _ => .shared id

/-- The schema of a container without type unions. -/
def removeUnions (g : Graph) (id : Nat) : Tree := collapse g (g.cells.size + 1) [] id

/-- A schema that is neither an object nor empty. -/
inductive SchemaFault
  | notObject
  deriving DecidableEq, Repr

/-- The schema of a method's parameters, safe for callers that need one type. A
missing schema and one without a type become the schema of any object. -/
def sanitize (g : Graph) (params : Option Value) : Except SchemaFault Tree :=
  match params with
  | none => .ok bareObject
  | some v =>
    if !g.truthy v then .ok bareObject
    else
      match v, g.members? v with
      | .node id, some ms =>
        match find? ms "type" with
        | some t => if g.truthy t then .ok (removeUnions g id) else .ok bareObject
        | none => .ok bareObject
      | _, _ => .error .notObject

end LspGateway.Schema
