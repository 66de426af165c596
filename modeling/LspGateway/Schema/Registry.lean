import LspGateway.Schema.Resource
import LspGateway.Uri.Address
import LspGateway.Uri.Join

/-! # Schemas by name

The schemas that references lead to by their names, with the anchors in them. Only when a
name is not found are the schemas searched for those within them.
-/

namespace LspGateway.Schema

/-- Schemas and anchors by name. What was added last goes first. -/
structure Registry where
  resources : List (String × Resource)
  /-- Anchors by the name of the schema they stand in and their own. -/
  anchors : List ((String × String) × Anchor)
  /-- The names of the schemas that have not been searched. -/
  unsearched : List String
  deriving Repr

namespace Registry

/-- The schema of a name. -/
def resource? (g : Registry) (name : String) : Option Resource :=
  (g.resources.find? fun (n, _) => n == name).map (·.2)

/-- The anchor of a name in the schema of a name. -/
def anchor? (g : Registry) (schema name : String) : Option Anchor :=
  (g.anchors.find? fun (key, _) => key == (schema, name)).map (·.2)

/-- Adds a schema that has not been searched. -/
def add (g : Registry) (name : String) (r : Resource) : Registry :=
  { g with resources := (name, r) :: g.resources, unsearched := name :: g.unsearched }

/-- Adds the anchors of a schema, and its own name as seen from the schema around it. -/
def enter (g : Registry) (around : String) (r : Resource) :
    Except Breakdown (Registry × String) := do
  let (g, name) ←
    match ← r.name? with
    | none => pure (g, around)
    | some own =>
      let name := String.ofList (← ofAddress (Uri.join around.toList own.toList))
      pure ({ g with resources := (name, r) :: g.resources }, name)
  let anchors := (← r.anchors).map fun (own, a) => ((name, own), a)
  pure ({ g with anchors := anchors.reverse ++ g.anchors }, name)

/-- Searches a schema and those within it, the last of them first. The fuel bounds the
schemas within schemas. -/
def search : Nat → Registry → String → Resource → Except Breakdown Registry
  | 0, g, _, _ => .ok g
  | fuel + 1, g, around, r => do
    let (g, name) ← g.enter around r
    let inner ← (← r.subschemas).mapM r.nested
    inner.reverse.foldlM (fun g sub => search fuel g name sub) g

/-- The registry with all schemas searched. -/
def searched (g : Registry) : Except Breakdown Registry := do
  let found ← g.unsearched.foldlM (fun found name =>
    match g.resource? name with
    | some r => search r.contents.depth found name r
    | none => pure found) g
  pure { found with unsearched := [] }

/-- The schema of a name, among those added or within them, or in the name itself. -/
def find? (g : Registry) (name : String) : Except Breakdown (Option (Registry × Resource)) := do
  match g.resource? name with
  | some r => pure (some (g, r))
  | none =>
    let g ← g.searched
    match g.resource? name with
    | some r => pure (some (g, r))
    | none =>
      match Uri.documentAt name.toList with
      | .error _ => pure none
      | .ok document =>
        match Draft.draft2020.ofNested document with
        | .error _ => pure none
        | .ok draft =>
          let r : Resource := ⟨draft, document⟩
          pure (some (g.add name r, r))

/-- The anchor of a name in a schema that has been found. The schema may be known by
another name, its own. -/
def anchor (g : Registry) (schema name : String) : Except Breakdown (Registry × Anchor) := do
  match g.anchor? schema name with
  | some a => pure (g, a)
  | none =>
    let found ← g.searched
    match found.anchor? schema name, g.resource? schema with
    | some a, _ => pure (found, a)
    | none, none => throw (.noDocument schema)
    | none, some r =>
      match ((← r.name?).bind fun own => found.anchor? own name) with
      | some a => pure (found, a)
      | none =>
        if name.toList.contains '/' then throw (.lookup (.notAnAnchor name) false)
        else throw (.lookup (.noAnchor name r.contents) false)

end Registry

end LspGateway.Schema
