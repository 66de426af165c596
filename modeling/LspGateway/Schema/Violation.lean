import LspGateway.Schema.Breakdown
import LspGateway.Schema.Step

/-! # Violations

What is wrong with a value, where, and by which part of its schema. Of all violations
one is reported: the one nearest to the top, and among those at one depth the last by
the names on the way to it. If none of several alternatives holds, what is wrong with
the value under one of them may say more.
-/

namespace LspGateway.Schema

/-- Something about a value that its schema forbids. -/
structure Violation where
  /-- The way to the value. -/
  path : List Step
  /-- The way to the keyword that forbids it. -/
  schemaPath : List Step
  /-- The keyword, unless the schema forbids any value. -/
  keyword : Option String
  schema : Json
  value : Json
  /-- The value has the type that the schema wants, so something else is wrong. The
  schema may want a type that there is not. -/
  typeMatches : Except Breakdown Bool
  message : String
  /-- What is wrong under each of several alternatives. -/
  context : List Violation
  deriving Repr

namespace Violation

/-- A keyword that only tells that no alternative holds. -/
def isWeak (v : Violation) : Bool := v.keyword = some "anyOf" || v.keyword = some "oneOf"

/-- The value has the type that the schema wants, as far as there is such a type. -/
def hasType (v : Violation) : Bool :=
  match v.typeMatches with
  | .ok answer => answer
  | .error _ => false

/-- Whether the second of two violations tells more than the first. -/
def tellsLess (v w : Violation) : Bool :=
  if v.path.length ≠ w.path.length then w.path.length < v.path.length
  else if v.path ≠ w.path then isBefore v.path w.path
  else if v.isWeak != w.isWeak then v.isWeak
  else v.hasType && !w.hasType

/-- The first of the violations that tell most. -/
def mostTelling? : List Violation → Option Violation
  | [] => none
  | v :: vs => some (vs.foldl (fun best w => if best.tellsLess w then w else best) v)

/-- The violation that tells least, if it is the only one that tells so little. -/
def leastTelling? : List Violation → Option Violation
  | [] => none
  | v :: vs =>
    let least := vs.foldl (fun least w => if w.tellsLess least then w else least) v
    let equals := (v :: vs).filter fun w => !w.tellsLess least && !least.tellsLess w
    if equals.length = 1 then some least else none

/-- Violations that can be weighed: each schema wants types that there are. -/
def weighed (vs : List Violation) : Except Breakdown (List Violation) :=
  vs.mapM fun v => do
    let _ ← v.typeMatches
    pure v

/-- What is wrong in the alternative that comes closest, if one does. The fuel bounds
the alternatives within alternatives. -/
def closest : Nat → Violation → Except Breakdown Violation
  | 0, v => .ok v
  | fuel + 1, v => do
    match leastTelling? (← weighed v.context) with
    | some w => closest fuel w
    | none => pure v

/-- The same violation of a part, as one of the whole. -/
def within (v : Violation) (path schemaPath : Option Step) : Violation :=
  { v with path := path.toList ++ v.path, schemaPath := schemaPath.toList ++ v.schemaPath }

mutual

/-- The number of alternatives within alternatives. -/
def depth : Violation → Nat
  | ⟨_, _, _, _, _, _, _, context⟩ => depthOfAll context + 1

/-- The greatest depth of several violations. -/
def depthOfAll : List Violation → Nat
  | [] => 0
  | v :: vs => max (depth v) (depthOfAll vs)

end

/-- All about a violation of the rules for schemas. -/
def describe (v : Violation) : String :=
  match v.keyword with
  | none => v.message
  | some keyword =>
    v.message ++ "\n\nFailed validating " ++ Text.quoted keyword ++ " in metaschema" ++
      String.join (v.schemaPath.dropLast.map Step.shown) ++ ":\n" ++ shown v.schema ++
      "\n\nOn schema" ++ String.join (v.path.map Step.shown) ++ ":\n" ++ shown v.value

end Violation

/-- What came of a check: the violations it found, and what broke it off, if anything
did. -/
structure Report where
  violations : List Violation
  breakdown : Option Breakdown
  deriving Repr

namespace Report

/-- Nothing is wrong. -/
def clean : Report := ⟨[], none⟩

instance : Inhabited Report := ⟨clean⟩

/-- The check broke off. -/
def broken (b : Breakdown) : Report := ⟨[], some b⟩

/-- One violation. -/
def ofViolation (v : Violation) : Report := ⟨[v], none⟩

/-- What came of a check that another follows, unless the first broke off. -/
def append (r s : Report) : Report :=
  match r.breakdown with
  | some b => ⟨r.violations, some b⟩
  | none => ⟨r.violations ++ s.violations, s.breakdown⟩

/-- One check after another, up to one that breaks off. -/
def flatMap {α : Type} (xs : List α) (check : α → Report) : Report :=
  match xs with
  | [] => clean
  | x :: xs =>
    let r := check x
    match r.breakdown with
    | some _ => r
    | none => r.append (flatMap xs check)

/-- The report of a check that comes after something else. -/
def ofExcept : Except Breakdown Report → Report
  | .ok r => r
  | .error b => broken b

/-- Whether the value passes. A check that broke off after a violation tells. -/
def passes (r : Report) : Except Breakdown Bool :=
  match r.violations, r.breakdown with
  | _ :: _, _ => .ok false
  | [], some b => .error b
  | [], none => .ok true

/-- All violations, unless the check broke off. -/
def all (r : Report) : Except Breakdown (List Violation) :=
  match r.breakdown with
  | some b => .error b
  | none => .ok r.violations

/-- The same report of a part, as one of the whole. -/
def within (r : Report) (path schemaPath : Option Step) : Report :=
  { r with violations := r.violations.map fun v => v.within path schemaPath }

/-- The first violation, or the breakdown before any. -/
def first? (r : Report) : Except Breakdown (Option Violation) :=
  match r.violations, r.breakdown with
  | v :: _, _ => .ok (some v)
  | [], some b => .error b
  | [], none => .ok none

/-- The violation to tell of, if there is one. All are weighed, so there must not be a
breakdown. -/
def toTell? (r : Report) : Except Breakdown (Option Violation) := do
  let weighed ← Violation.weighed r.violations
  match r.breakdown, Violation.mostTelling? weighed with
  | some b, _ => throw b
  | none, some v => pure (some (← v.closest v.depth))
  | none, none => pure none

end Report

end LspGateway.Schema
