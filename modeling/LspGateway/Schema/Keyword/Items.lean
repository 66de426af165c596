import LspGateway.Schema.Context
import LspGateway.Schema.Place

/-! # Keywords for the items of arrays

Schemas for the first items of an array one by one, for the items after them, and for
some items wherever they stand.
-/

namespace LspGateway.Schema.Place

/-- Checks items from a place on against one schema. -/
def itemsFrom (inside : Inside) (start : Nat) (xs : List Json) (sub : Json) : Report :=
  .flatMap (xs.zipIdx.drop start) fun (x, i) => inside.descend (some (.item i)) none sub x

/-- Checks the first items, each against a schema of its own. -/
def firstItems (inside : Inside) (xs : List Json) (subs : Json) : Report := .ofExcept do
  let subs ← ofMisuse subs.asItems
  pure (.flatMap (xs.zip subs).zipIdx fun ((x, sub), i) =>
    inside.descend (some (.item i)) (some (.item i)) sub x)

/-- The number of schemas that another keyword has for the first items. -/
def countOf (p : Place) (keyword : String) : Except Breakdown Nat :=
  match p.other? keyword with
  | none => .ok 0
  | some subs => ofMisuse subs.size

/-- Several values as one: a single one stands for itself. -/
def single : List Json → Json
  | [x] => x
  | xs => .arr xs

/-- Checks the items after the first ones, which have schemas of their own. -/
def itemsAfter (p : Place) (inside : Inside) (xs : List Json) : Report := .ofExcept do
  let start ← p.countOf "prefixItems"
  let extra := xs.drop start
  if extra.isEmpty then pure .clean
  else if p.setting = .bool false then
    pure (p.fault ("Expected at most " ++ Text.ofNat start ++
      (if start = 1 then " item" else " items") ++ " but found " ++ Text.ofNat extra.length ++
      " extra: " ++ (single extra).literal))
  else pure (itemsFrom inside start xs p.setting)

/-- Checks the items. Before the last draft a list of schemas is for the first of them. -/
def items (p : Place) (inside : Inside) : Report :=
  match p.value with
  | .arr xs =>
    if p.draft = .draft2020 then p.itemsAfter inside xs
    else
      match p.setting with
      | .arr subs => firstItems inside xs (.arr subs)
      | .obj sub => itemsFrom inside 0 xs (.obj sub)
      | sub =>
        if p.draft.upTo .draft4 then firstItems inside xs sub else itemsFrom inside 0 xs sub
  | _ => .clean

/-- Checks the first items, which have schemas of their own. -/
def prefixItems (p : Place) (inside : Inside) : Report :=
  match p.value with
  | .arr xs => firstItems inside xs p.setting
  | _ => .clean

/-- Checks the items that have no schemas of their own. -/
def additionalItems (p : Place) (inside : Inside) : Report :=
  match p.value, p.other? "items" with
  | .arr _, some (.obj _) => .clean
  | .arr _, none => .clean
  | .arr xs, _ => .ofExcept do
    let start ← p.countOf "items"
    let extra := xs.drop start
    match p.setting with
    | .obj sub => pure (itemsFrom inside start xs (.obj sub))
    | setting =>
      pure (p.faultIf (!setting.truthy && !extra.isEmpty)
        ("Additional items are not allowed (" ++
          namesWereUnexpected (extra.map Json.literal) ++ ")"))
  | _, _ => .clean

/-- Counts the items that pass, up to the first that is too many. -/
def countPassing (inside : Inside) (sub most : Json) (count : Nat) :
    List Json → Except Breakdown (Nat × Bool)
  | [] => .ok (count, false)
  | x :: xs => do
    if ← inside.passes sub x then
      if ← ofMisuse (Json.Relation.more.holds (.int (count + 1)) most) then pure (count + 1, true)
      else countPassing inside sub most (count + 1) xs
    else countPassing inside sub most count xs

/-- Checks the number of items that pass. -/
def containsWithin (p : Place) (inside : Inside) (xs : List Json) : Report := .ofExcept do
  let least := (p.other? "minContains").getD (.int 1)
  let most := (p.other? "maxContains").getD (.int xs.length)
  let faultOf (keyword message : String) : Report := { p with keyword := keyword }.fault message
  let (count, isTooMany) ← countPassing inside p.setting most 0 xs
  if isTooMany then
    pure (faultOf "maxContains"
      ("Too many items match the given schema (expected at most " ++ most.literal ++ ")"))
  else if ← ofMisuse (Json.Relation.less.holds (.int count) least) then
    if count = 0 then pure (p.fault (p.tells "does not contain items matching the given schema"))
    else
      pure (faultOf "minContains" ("Too few items match the given schema (expected at least " ++
        least.literal ++ " but only " ++ Text.ofNat count ++ " matched)"))
  else pure .clean

/-- Counts the items that pass. In the first drafts one is enough, later there are
bounds. -/
def contains (p : Place) (inside : Inside) : Report :=
  match p.value with
  | .arr xs =>
    if p.draft.upTo .draft7 then .ofExcept do
      let isThere ← xs.anyM (inside.passes p.setting)
      pure (p.faultIf (!isThere)
        ("None of " ++ p.value.literal ++ " are valid under the given schema"))
    else p.containsWithin inside xs
  | _ => .clean

/-- Checks that the schema covers all items. -/
def unevaluatedItems (p : Place) (covered : List Json → Except Breakdown (List Nat)) : Report :=
  match p.value with
  | .arr xs => .ofExcept do
    let places ← covered xs
    match xs.zipIdx.filter fun (_, i) => !places.contains i with
    | [] => pure .clean
    | extra =>
      pure (p.fault ("Unevaluated items are not allowed (" ++
        namesWereUnexpected (extra.map fun (x, _) => x.literal) ++ ")"))
  | _ => .clean

end LspGateway.Schema.Place
