import LspGateway.Json.Printer

/-! # Schemas as graphs

A schema whose references are resolved is no tree: a container may be shared, and
may contain itself. Its containers are numbered cells. What the program builds
itself is a tree, whose leaves may lead into the graph.
-/

namespace LspGateway.Schema

/-- A value without parts. -/
inductive Atom
  | null
  | bool (value : Bool)
  | int (value : Int)
  | float (value : Binary64)
  | str (value : String)
  deriving DecidableEq, Repr, Inhabited

/-- An atom as a value. -/
def Atom.toJson : Atom → Json
  | .null => .null
  | .bool b => .bool b
  | .int i => .int i
  | .float x => .float x
  | .str s => .str s

/-- An atom, or the container with a number. -/
inductive Value
  | atom (a : Atom)
  | node (id : Nat)
  deriving DecidableEq, Repr, Inhabited

/-- A container. -/
inductive Cell
  | arr (items : List Value)
  | obj (members : List (String × Value))
  deriving DecidableEq, Repr, Inhabited

/-- The values a container holds. -/
def Cell.values : Cell → List Value
  | .arr items => items
  | .obj members => members.map (·.2)

/-- Numbered containers. -/
structure Graph where
  cells : Array Cell
  deriving DecidableEq, Repr, Inhabited

/-- A tree that may lead into a graph. -/
inductive Tree
  | atom (a : Atom)
  | arr (items : List Tree)
  | obj (members : List (String × Tree))
  /-- A container of the graph. -/
  | shared (id : Nat)
  deriving Repr, Inhabited

/-- The member of a key. -/
def find? {α : Type} (members : List (String × α)) (key : String) : Option α :=
  (members.find? (·.1 == key)).map (·.2)

/-- A value as a tree. -/
def Value.toTree : Value → Tree
  | .atom a => .atom a
  | .node id => .shared id

namespace Graph

/-- The container with a number. -/
def cell? (g : Graph) (id : Nat) : Option Cell := g.cells[id]?

/-- The members of a value that is an object. -/
def members? (g : Graph) : Value → Option (List (String × Value))
  | .atom _ => none
  | .node id =>
    match g.cell? id with
    | some (.obj ms) => some ms
    | _ => none

/-- The items of a value that is an array. -/
def items? (g : Graph) : Value → Option (List Value)
  | .atom _ => none
  | .node id =>
    match g.cell? id with
    | some (.arr xs) => some xs
    | _ => none

/-- Counts as true: everything but null, false, zero and the empty. -/
def truthy (g : Graph) : Value → Bool
  | .atom a => a.toJson.truthy
  | .node id =>
    match g.cell? id with
    | some c => !c.values.isEmpty
    | none => false

mutual

/-- Adds the containers of a value, the innermost first. -/
def add (g : Graph) : Json → Graph × Value
  | .null => (g, .atom .null)
  | .bool b => (g, .atom (.bool b))
  | .int i => (g, .atom (.int i))
  | .float x => (g, .atom (.float x))
  | .str s => (g, .atom (.str s))
  | .arr xs =>
    let (g, vs) := addItems g xs
    (⟨g.cells.push (.arr vs)⟩, .node g.cells.size)
  | .obj ms =>
    let (g, vs) := addMembers g ms
    (⟨g.cells.push (.obj vs)⟩, .node g.cells.size)

/-- Adds the items of an array one after another. -/
def addItems (g : Graph) : List Json → Graph × List Value
  | [] => (g, [])
  | x :: xs =>
    let (g, v) := add g x
    let (g, vs) := addItems g xs
    (g, v :: vs)

/-- Adds the members of an object one after another. -/
def addMembers (g : Graph) : List (String × Json) → Graph × List (String × Value)
  | [] => (g, [])
  | (k, x) :: ms =>
    let (g, v) := add g x
    let (g, vs) := addMembers g ms
    (g, (k, v) :: vs)

end

/-- The graph of a value, and the value in it. -/
def ofJson (j : Json) : Graph × Value := add ⟨#[]⟩ j

/-- A value inside a message; `path` holds the containers around it, and one that
contains itself is cut short there. -/
def spell (g : Graph) : Nat → List Nat → Value → String
  | _, _, .atom a => a.toJson.literal
  | 0, _, .node _ => "..."
  | fuel + 1, path, .node id =>
    match g.cell? id with
    | none => ""
    | some (.arr xs) =>
      if path.contains id then "[...]"
      else "[" ++ String.intercalate ", " (xs.map (spell g fuel (id :: path))) ++ "]"
    | some (.obj ms) =>
      if path.contains id then "\x7b...\x7d"
      else
        "\x7b" ++ String.intercalate ", " (ms.map fun (k, v) =>
          Text.quoted k ++ ": " ++ spell g fuel (id :: path) v) ++ "\x7d"

/-- A value spelled out in a sentence. -/
def plain (g : Graph) : Value → String
  | .atom a => a.toJson.plain
  | .node id => g.spell (g.cells.size + 1) [] (.node id)

end Graph

namespace Tree

/-- The members of a tree that is an object. -/
def members? (g : Graph) : Tree → Option (List (String × Tree))
  | .obj ms => some ms
  | .shared id => (g.members? (.node id)).map fun ms => ms.map fun (k, v) => (k, v.toTree)
  | _ => none

/-- The items of a tree that is an array. -/
def items? (g : Graph) : Tree → Option (List Tree)
  | .arr xs => some xs
  | .shared id => (g.items? (.node id)).map fun xs => xs.map Value.toTree
  | _ => none

mutual

/-- A tree of its own, without a graph. -/
def ofJson : Json → Tree
  | .null => .atom .null
  | .bool b => .atom (.bool b)
  | .int i => .atom (.int i)
  | .float x => .atom (.float x)
  | .str s => .atom (.str s)
  | .arr xs => .arr (ofItems xs)
  | .obj ms => .obj (ofMembers ms)

/-- Items as trees. -/
def ofItems : List Json → List Tree
  | [] => []
  | x :: xs => ofJson x :: ofItems xs

/-- Members as trees. -/
def ofMembers : List (String × Json) → List (String × Tree)
  | [] => []
  | (k, x) :: ms => (k, ofJson x) :: ofMembers ms

end

end Tree

end LspGateway.Schema
