import LspGateway.Schema.Check
import LspGateway.Schema.Expansion
import LspGateway.Schema.Standard.Library

/-! # Refusing values

A value is refused if its schema is none by the rules of its draft, or if the schema
forbids the value. The rules of a draft are a schema themselves. Of what is wrong with
a schema the first is told, of what is wrong with a value what tells most.
-/

namespace LspGateway.Schema

/-- A check against a schema that stands alone. -/
def checkAll (draft : Draft) (formats : Bool) (schema value : Json) : Report := .ofExcept do
  let resolver ← Resolver.ofRoot .standard ⟨draft, schema⟩
  pure (check maxLevels draft ⟨draft, formats, resolver⟩ schema value)

/-- Why a value is refused. -/
inductive Refusal
  /-- The schema is none. -/
  | invalidSchema (violation : Violation)
  | invalidValue (violation : Violation)
  | undecided (breakdown : Breakdown)
  deriving Repr

def Refusal.message : Refusal → String
  | .invalidSchema violation => violation.describe
  | .invalidValue violation => "Input validation error: " ++ violation.message
  | .undecided breakdown => breakdown.message

/-- Why a value is refused by a schema, if it can be told whether it is. -/
def decide? (schema value : Json) : Except Breakdown (Option Refusal) := do
  let draft ← Draft.ofSchema schema .draft2020
  match ← (checkAll draft true draft.schema schema).first? with
  | some violation => pure (some (.invalidSchema violation))
  | none => pure ((← (checkAll draft false schema value).toTell?).map .invalidValue)

/-- Why a value is refused by a schema, if it is. -/
def refusalBy? (schema value : Json) : Option Refusal :=
  match decide? schema value with
  | .ok refusal => refusal
  | .error breakdown => some (.undecided breakdown)

/-- Why a value is refused by a schema of a graph, if it is. A schema that contains
itself is checked without end. -/
def refusal? (g : Graph) (schema : Tree) (value : Json) : Option Refusal :=
  match schema.toJson? g with
  | some schema => refusalBy? schema value
  | none => some (.undecided .endless)

end LspGateway.Schema
