import LspGateway.Schema.Graph

/-! # Schemas written out

A shared container is written out wherever it occurs. One that contains itself
cannot be written out.
-/

namespace LspGateway.Schema

/-- All of several values, if each is there. -/
def allOf {α : Type} : List (Option α) → Option (List α)
  | [] => some []
  | some a :: rest => (allOf rest).map (a :: ·)
  | none :: _ => none

/-- All members, if each has a value. -/
def allMembers {α : Type} : List (String × Option α) → Option (List (String × α))
  | [] => some []
  | (k, some a) :: rest => (allMembers rest).map ((k, a) :: ·)
  | (_, none) :: _ => none

namespace Graph

/-- A value written out; `path` holds the containers around it. No path without a
repetition is longer than there are containers. -/
def expand (g : Graph) : Nat → List Nat → Value → Option Json
  | _, _, .atom a => some a.toJson
  | 0, _, .node _ => none
  | fuel + 1, path, .node id =>
    if path.contains id then none
    else
      match g.cell? id with
      | none => none
      | some (.arr xs) => (allOf (xs.map (expand g fuel (id :: path)))).map .arr
      | some (.obj ms) =>
        (allMembers (ms.map fun (k, v) => (k, expand g fuel (id :: path) v))).map .obj

end Graph

namespace Tree

mutual

/-- A tree written out. -/
def toJson? (g : Graph) : Tree → Option Json
  | .atom a => some a.toJson
  | .shared id => g.expand (g.cells.size + 1) [] (.node id)
  | .arr xs => (allOf (itemsToJson g xs)).map .arr
  | .obj ms => (allMembers (membersToJson g ms)).map .obj

/-- Items written out. -/
def itemsToJson (g : Graph) : List Tree → List (Option Json)
  | [] => []
  | x :: xs => toJson? g x :: itemsToJson g xs

/-- Members written out. -/
def membersToJson (g : Graph) : List (String × Tree) → List (String × Option Json)
  | [] => []
  | (k, x) :: ms => (k, toJson? g x) :: membersToJson g ms

end

end Tree

end LspGateway.Schema
