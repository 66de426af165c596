import LspGateway.Schema.Context
import LspGateway.Schema.Place

/-! # What a schema covers

The members and items of a value that a schema, or one that it brings in, has looked at.
A schema that brings in others covers what they cover only where the value passes them.
The last two drafts differ in what they take for covered, and the draft of the keyword that
asks decides for all schemas that are brought in.
-/

namespace LspGateway.Schema

/-- How schemas are applied to find out what they cover. -/
structure Coverage (α : Type) where
  context : Context
  inside : Inside
  /-- What a schema covers that stands in the same context. -/
  again : Json → Except Breakdown (List α)
  /-- What a schema covers that a reference leads to. -/
  beyond : Resolved → Except Breakdown (List α)

/-- The value of a member other than null. -/
def settingIn? (schema : Json.Members) (keyword : String) : Option Json :=
  match schema.get? keyword with
  | some .null => none
  | setting => setting

/-- What several schemas cover together. -/
def flatten {α β : Type} (xs : List β) (covered : β → Except Breakdown (List α)) :
    Except Breakdown (List α) := do
  pure (← xs.mapM covered).flatten

/-- What several parts of a schema cover, one after another. -/
def together {α : Type} (parts : List (Unit → Except Breakdown (List α))) :
    Except Breakdown (List α) :=
  flatten parts fun part => part ()

namespace Coverage

variable {α : Type}

/-- What the schemas cover that references lead to. -/
def ofReferences (v : Coverage α) (style : Draft) (schema : Json.Members) :
    Except Breakdown (List α) := do
  let resolver := v.context.resolver
  let direct ← match settingIn? schema "$ref" with
    | some target => do v.beyond (← resolver.lookupValue target)
    | none => pure []
  let moving ←
    if style = .draft2020 then
      match settingIn? schema "$dynamicRef" with
      | some target => do v.beyond (← resolver.lookupValue target)
      | none => pure []
    else if (schema.get? "$recursiveRef").isSome then do v.beyond (← resolver.lookupRecursion)
    else pure []
  pure (direct ++ moving)

/-- What the schemas cover that a condition brings in: its own and the one of the case
that the value is in. -/
def ofCondition (v : Coverage α) (schema : Json.Members) (value : Json) :
    Except Breakdown (List α) :=
  match schema.get? "if" with
  | none => .ok []
  | some condition => do
    if ← v.inside.passes condition value then
      flatten (condition :: (schema.get? "then").toList) v.again
    else flatten (schema.get? "else").toList v.again

/-- What the alternatives cover that the value passes, those that must all hold among
them. -/
def ofAlternatives (v : Coverage α) (schema : Json.Members) (value : Json) :
    Except Breakdown (List α) :=
  flatten (["allOf", "oneOf", "anyOf"].filterMap schema.get?) fun subs => do
    flatten (← ofMisuse subs.asItems) fun sub => do
      if ← v.inside.holds sub value then v.again sub else pure []

/-- What the schemas cover that the members of an object bring with them. -/
def ofDependents (v : Coverage α) (schema ms : Json.Members) : Except Breakdown (List α) :=
  match schema.get? "dependentSchemas" with
  | none => .ok []
  | some setting => do
    let subs ← ofMisuse setting.asMembers
    flatten (subs.filter fun (k, _) => (ms.get? k).isSome) fun (_, sub) => v.again sub

/-- The members whose names match a pattern. -/
def byPattern (schema ms : Json.Members) : Except Breakdown (List String) :=
  match schema.get? "patternProperties" with
  | none => .ok []
  | some patterns =>
    flatten ms fun (k, _) => do
      flatten (← ofMisuse patterns.asItems) fun pattern => do
        pure (if ← matchesPattern pattern k then [k] else [])

/-- The members whose names are among those of another object. -/
def common (named ms : Json.Members) : List String :=
  (ms.map (·.1)).filter fun k => (named.get? k).isSome

/-- The members that the latest draft takes for covered by a schema for all members: those
that pass it. -/
def passing (v : Coverage α) (ms : Json.Members) (sub : Json) : Except Breakdown (List String) :=
  flatten ms fun (k, x) => do
    pure (if ← v.inside.holds sub x then [k] else [])

/-- The members that the draft before takes for covered by a setting: all if it is true,
and those that it names if it is an object. -/
def named (ms : Json.Members) : Json → List String
  | .bool true => ms.map (·.1)
  | .obj subs => common subs ms
  | _ => []

/-- The members that the schemas for members cover. -/
def ofMembers (v : Coverage α) (style : Draft) (schema ms : Json.Members) :
    Except Breakdown (List String) :=
  let further := ["additionalProperties", "unevaluatedProperties"]
  if style = .draft2020 then do
    let own :=
      match schema.get? "properties" with
      | some (.obj subs) => common subs ms
      | _ => []
    pure (own ++ (← flatten (further.filterMap (settingIn? schema)) (v.passing ms)))
  else .ok ((("properties" :: further).filterMap schema.get?).flatMap (named ms))

/-- The members that a schema covers. -/
def members (v : Coverage String) (style : Draft) (schema ms : Json.Members) :
    Except Breakdown (List String) :=
  together [
    fun _ => v.ofReferences style schema,
    fun _ => v.ofMembers style schema ms,
    fun _ => byPattern schema ms,
    fun _ => v.ofDependents schema ms,
    fun _ => v.ofAlternatives schema (.obj ms),
    fun _ => v.ofCondition schema (.obj ms)]

/-- The places of the items that pass one of the schemas for some items. -/
def somewhere (v : Coverage α) (schema : Json.Members) (xs : List Json) :
    Except Breakdown (List Nat) :=
  flatten (["contains", "unevaluatedItems"].filterMap schema.get?) fun sub =>
    flatten xs.zipIdx fun (x, i) => do
      pure (if ← v.inside.passes sub x then [i] else [])

/-- Whether a schema has a schema for all items, as the draft before the latest sees it. -/
def isForAll (schema : Json.Members) : Bool :=
  match schema.get? "items" with
  | some (.obj _) => true
  | some _ => (schema.get? "additionalItems").isSome
  | none => false

/-- The places of the first items, which have schemas of their own under a keyword. -/
def firstPlaces (schema : Json.Members) (keyword : String) : Except Breakdown (List Nat) :=
  match schema.get? keyword with
  | some subs => do pure (List.range (← ofMisuse subs.size))
  | none => .ok []

/-- The places of the items that a schema covers. -/
def items (v : Coverage Nat) (style : Draft) (schema : Json.Members) (xs : List Json) :
    Except Breakdown (List Nat) := do
  let before ← v.ofReferences style schema
  if style = .draft2019 && isForAll schema then pure (List.range xs.length)
  else
    let after ← together [
      fun _ => firstPlaces schema (if style = .draft2020 then "prefixItems" else "items"),
      fun _ => v.ofCondition schema (.arr xs),
      fun _ => v.somewhere schema xs,
      fun _ => v.ofAlternatives schema (.arr xs)]
    pure (before ++ after)

end Coverage

/-- How a schema is applied to find out what it covers, given what others cover. -/
def Context.coverage {α : Type} (c : Context) (check : Checker)
    (covered : Context → Json → Except Breakdown (List α)) : Coverage α where
  context := c
  inside := c.inside check
  again := covered c
  beyond := fun found => do covered (← c.ofResolved found) found.contents

/-- The members of an object that a schema covers. The fuel bounds the schemas that bring
in others. -/
def coveredMembers (check : Checker) (style : Draft) (ms : Json.Members) :
    Nat → Context → Json → Except Breakdown (List String)
  | 0, _, _ => .error .endless
  | fuel + 1, c, schema =>
    match schema with
    | .bool _ => .ok []
    | schema => do
      let keywords ← ofMisuse schema.asObject
      (c.coverage check (coveredMembers check style ms fuel)).members style keywords ms

/-- The places of items that a schema covers. The fuel bounds the schemas that bring in
others. -/
def coveredItems (check : Checker) (style : Draft) (xs : List Json) :
    Nat → Context → Json → Except Breakdown (List Nat)
  | 0, _, _ => .error .endless
  | fuel + 1, c, schema =>
    match schema with
    | .bool _ => .ok []
    | schema => do
      let isForAll ← if style = .draft2020 then ofMisuse (schema.holdsText "items") else pure false
      if isForAll then pure (List.range xs.length)
      else
        let keywords ← ofMisuse schema.asObject
        (c.coverage check (coveredItems check style xs fuel)).items style keywords xs

end LspGateway.Schema
