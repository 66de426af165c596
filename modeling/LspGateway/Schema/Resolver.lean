import LspGateway.Schema.Reference
import LspGateway.Schema.Registry

/-! # Where references lead

A reference is read as seen from the schema it stands in, whose name may be one of its own
or that of a schema around it. It leads to a schema, to a part of one by the way to it, or
to an anchor. Some anchors move: a reference to one leads to the outermost schema on the
way that has an anchor of that name.
-/

namespace LspGateway.Schema

/-- What references are seen from. -/
structure Resolver where
  /-- The name of the schema. -/
  base : String
  registry : Registry
  /-- The names of the schemas on the way, the last one first. -/
  previous : List String
  deriving Repr

/-- What a reference leads to, and what references in it are seen from. -/
structure Resolved where
  contents : Json
  resolver : Resolver
  deriving Repr

namespace Resolver

/-- References in a schema that stands alone. -/
def ofRoot (registry : Registry) (r : Resource) : Except Breakdown Resolver := do
  let name := (← r.name?).getD ""
  pure ⟨name, registry.add name r, []⟩

/-- References in a schema within the schema, if it has a name of its own. -/
def inNamed? (s : Resolver) (r : Resource) : Except Breakdown (Option Resolver) := do
  match ← r.name? with
  | none => pure none
  | some name =>
    let base ← ofAddress (Uri.join s.base.toList name.toList)
    pure (some { s with base := .ofList base })

/-- References in a schema within the schema. -/
def inside (s : Resolver) (r : Resource) : Except Breakdown Resolver := do
  pure ((← s.inNamed? r).getD s)

/-- References in another schema, after the one they were followed from. -/
def goTo (s : Resolver) (registry : Registry) (base : String) : Resolver where
  base := base
  registry := registry
  previous :=
    if s.base ≠ "" && (s.previous.isEmpty || base ≠ s.base) then s.base :: s.previous
    else s.previous

/-- One step of a pointer: the step, and the part it leads to, if there is one. -/
def stepInto (contents : Json) (segment : String) : Except Breakdown (Option (Step × Json)) :=
  let itemIn (items : List Json) : Except Breakdown (Option (Step × Json)) :=
    match Text.readInt segment with
    | .ok i => .ok ((itemAt? items i).map fun item => (.item i.toNat, item))
    | .error .malformed => .error (.misuse (.noInteger segment))
    | .error (.tooLong count) => .error (.misuse (.tooManyDigits count))
  match contents with
  | .arr items => itemIn items
  | .str s => itemIn (Json.charactersOf s)
  | .obj ms =>
    let name := String.ofList (steps.unescape segment.toList)
    .ok ((Json.Members.get? ms name).map fun part => (.member name, part))
  | j => .error (.misuse (.noParts j.kind))

/-- Follows the steps of a pointer. The steps since the last schema with a name of its own
tell whether the next one stands where a schema may have a name. -/
def follow (document : Resource) (pointer : String) :
    List String → List Step → Resolved → Except Breakdown Resolved
  | [], _, found => .ok found
  | segment :: rest, since, found => do
    match ← stepInto found.contents segment with
    | none => throw (.lookup (.noPart pointer document.contents) false)
    | some (step, part) =>
      let since := since ++ [step]
      let named? ←
        if document.draft.leadsToSchema (part.kind = .obj) since then
          found.resolver.inNamed? ⟨document.draft, part⟩
        else pure none
      match named? with
      | some resolver => follow document pointer rest [] ⟨part, resolver⟩
      | none => follow document pointer rest since ⟨part, found.resolver⟩

/-- The outermost of the moving anchors of a name on a way, the last schema first. -/
def outermost (registry : Registry) (name : String) (found : Resource) :
    List String → Except Breakdown Resource
  | [] => .ok found
  | schema :: rest =>
    match registry.anchor schema name with
    | .ok (_, a) => outermost registry name (if a.moves then a.resource else found) rest
    | .error (.lookup (.noAnchor _ _) _) => outermost registry name found rest
    | .error fault => .error fault

/-- What an anchor stands for. -/
def settle (s : Resolver) (name : String) (a : Anchor) : Except Breakdown Resolved := do
  if a.moves then
    let found ← outermost s.registry name a.resource s.previous
    pure ⟨found.contents, ← s.inside found⟩
  else pure ⟨a.resource.contents, s⟩

/-- The name of a schema and the fragment that a reference is made of. -/
def cut (s : Resolver) (target : String) : Except Breakdown (String × List Char) := do
  match target.toList with
  | '#' :: fragment => pure (s.base, fragment)
  | cs =>
    let joined ← ofAddress (Uri.join s.base.toList cs)
    let (name, fragment) ← ofAddress (Uri.splitFragment joined)
    pure (.ofList name, fragment)

/-- What a reference leads to. -/
def lookup (s : Resolver) (target : String) : Except Breakdown Resolved := do
  let (name, fragment) ← s.cut target
  match ← s.registry.find? name with
  | none => throw (.lookup (.unresolvable target) false)
  | some (registry, document) =>
    match fragment with
    | [] => pure ⟨document.contents, s.goTo registry name⟩
    | '/' :: rest =>
      let segments := (Text.pieces '/' (Uri.decode rest)).map String.ofList
      follow document (.ofList fragment) segments [] ⟨document.contents, s.goTo registry name⟩
    | fragment =>
      let anchorName := String.ofList fragment
      let (registry, a) ← registry.anchor name anchorName
      (s.goTo registry name).settle anchorName a

/-- What a value that is taken for a reference leads to. -/
def lookupValue (s : Resolver) : Json → Except Breakdown Resolved
  | .str target => s.lookup target
  | j => .error (.misuse (.lacks j.kind "startswith"))

/-- Whether a schema lets references to it move outwards. -/
def movesOutwards (schema : Json) : Bool := (schema.get? "$recursiveAnchor").any Json.truthy

/-- Goes outwards as long as the schemas on the way allow for it. -/
def goOutwards (s : Resolver) (found : Resolved) : List String → Except Breakdown Resolved
  | [] => .ok found
  | name :: rest => do
    let next ← s.lookup name
    if movesOutwards next.contents then goOutwards s next rest else pure found

/-- What a recursive reference leads to: the schema it stands in, or one further out. -/
def lookupRecursion (s : Resolver) : Except Breakdown Resolved := do
  let found ← s.lookup "#"
  if movesOutwards found.contents then goOutwards s found s.previous else pure found

end Resolver

end LspGateway.Schema
