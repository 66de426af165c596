import LspGateway.Schema.Context
import LspGateway.Schema.Place

/-! # Keywords that combine schemas

A value may have to pass all of several schemas, one of them, exactly one of them, or none;
and what it has to pass may depend on whether it passes another one.
-/

namespace LspGateway.Schema.Place

/-- Checks the value against each of several schemas. -/
def allOf (p : Place) (inside : Inside) : Report := .ofExcept do
  let subs ← ofMisuse p.setting.asItems
  pure (.flatMap subs.zipIdx fun (sub, i) => inside.descend none (some (.item i)) sub p.value)

/-- What is wrong with a value under each of several schemas up to the first that it
passes, and the schemas from that one on. -/
def alternatives (inside : Inside) (value : Json) :
    List (Json × Nat) → Except Breakdown (List Violation × List Json)
  | [] => .ok ([], [])
  | (sub, i) :: subs => do
    match ← (inside.descend none (some (.item i)) sub value).all with
    | [] => pure ([], sub :: subs.map (·.1))
    | vs =>
      let (more, rest) ← alternatives inside value subs
      pure (vs ++ more, rest)

/-- No alternative holds. -/
def noneHolds (p : Place) (context : List Violation) : Report :=
  .ofViolation (p.violation (p.tells "is not valid under any of the given schemas") context)

/-- Checks that an alternative holds. -/
def anyOf (p : Place) (inside : Inside) : Report := .ofExcept do
  let subs ← ofMisuse p.setting.asItems
  match ← alternatives inside p.value subs.zipIdx with
  | (context, []) => pure (p.noneHolds context)
  | _ => pure .clean

/-- Checks that exactly one alternative holds. -/
def oneOf (p : Place) (inside : Inside) : Report := .ofExcept do
  let subs ← ofMisuse p.setting.asItems
  match ← alternatives inside p.value subs.zipIdx with
  | (context, []) => pure (p.noneHolds context)
  | (_, first :: rest) =>
    match ← rest.filterM fun sub => inside.passes sub p.value with
    | [] => pure .clean
    | more =>
      pure (p.fault (p.tells ("is valid under each of " ++
        String.intercalate ", " ((more ++ [first]).map Json.literal))))

/-- Checks that a schema does not hold. -/
def notSchema (p : Place) (inside : Inside) : Report := .ofExcept do
  pure (p.faultIf (← inside.passes p.setting p.value)
    (p.tells ("should not be valid under " ++ p.setting.literal)))

/-- Checks the case that a condition is in. -/
def condition (p : Place) (inside : Inside) : Report := .ofExcept do
  let case := if ← inside.passes p.setting p.value then "then" else "else"
  match p.other? case with
  | some sub => pure (inside.descend none (some (.member case)) sub p.value)
  | none => pure .clean

/-- A type of the first draft in a list of types: a schema is shown by its name. -/
def shownType (type : Json) : String := ((type.get? "name").getD type).literal

/-- Checks the types of the first draft, which may be schemas, until one of them holds;
what is wrong with the value under the schemas before is known. -/
def typesFrom (p : Place) (inside : Inside) (all : List Json) :
    List (Json × Nat) → List Violation → Except Breakdown Report
  | [], context => .ok (p.wrongType (all.map shownType) context)
  | (.str "any", _) :: _, _ => .ok .clean
  | (.obj sub, i) :: types, context => do
    match ← (inside.descend none (some (.item i)) (.obj sub) p.value).all with
    | [] => pure .clean
    | vs => typesFrom p inside all types (context ++ vs)
  | (type, _) :: types, context => do
    if ← p.isOfType type then pure .clean else typesFrom p inside all types context

/-- Checks that one of the types of the first draft holds. -/
def typesAndSchemas (p : Place) (inside : Inside) : Report := .ofExcept do
  let types ← ofMisuse (listOf p.setting).asItems
  typesFrom p inside types types.zipIdx []

/-- Checks that none of some types holds. -/
def disallow (p : Place) (inside : Inside) : Report := .ofExcept do
  let types ← ofMisuse (listOf p.setting).asItems
  pure (.flatMap types fun type => .ofExcept do
    pure (p.faultIf (← inside.passes (.obj [("type", .arr [type])]) p.value)
      (type.literal ++ " is disallowed for " ++ p.value.literal)))

/-- Checks the schemas that a schema extends. -/
def extended (p : Place) (inside : Inside) : Report :=
  match p.setting with
  | .obj sub => inside.descend none none (.obj sub) p.value
  | _ => p.allOf inside

end LspGateway.Schema.Place
