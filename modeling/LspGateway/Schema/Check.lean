import LspGateway.Schema.Covered
import LspGateway.Schema.Keyword.Alternatives
import LspGateway.Schema.Keyword.Items
import LspGateway.Schema.Keyword.Members

/-! # Checking values against schemas

A schema is checked keyword by keyword, in the order in which it has them. Keywords
that bring in other schemas check the value, or its parts, against those.
-/

namespace LspGateway.Schema

/-- What a reference under a keyword leads to. What is wrong with a plain or a moving
reference is told with its name. -/
def Resolver.followKeyword (s : Resolver) (keyword : String) (target : Json) :
    Except Breakdown Resolved :=
  if keyword = "$recursiveRef" then s.lookupRecursion
  else
    match s.lookupValue target with
    | .ok found => .ok found
    | .error fault => .error fault.named

/-- Checks the value against the schema that a reference leads to. -/
def Place.reference (p : Place) (check : Checker) (c : Context) : Report := .ofExcept do
  pure (c.descendInto check (← c.resolver.followKeyword p.keyword p.setting) p.value)

/-- What comes of a keyword. -/
def Place.report (p : Place) (check : Checker) (c : Context) (fuel : Nat) : Report :=
  let inside := c.inside check
  match p.keyword with
  | "$ref" => p.reference check c
  | "$dynamicRef" => p.reference check c
  | "$recursiveRef" => p.reference check c
  | "properties" => p.properties inside
  | "patternProperties" => p.patternProperties inside
  | "additionalProperties" => p.additionalProperties inside
  | "propertyNames" => p.propertyNames inside
  | "dependentSchemas" => p.dependentSchemas inside
  | "dependencies" => p.dependencies inside
  | "items" => p.items inside
  | "prefixItems" => p.prefixItems inside
  | "additionalItems" => p.additionalItems inside
  | "contains" => p.contains inside
  | "allOf" => p.allOf inside
  | "anyOf" => p.anyOf inside
  | "oneOf" => p.oneOf inside
  | "not" => p.notSchema inside
  | "if" => p.condition inside
  | "unevaluatedProperties" =>
    p.unevaluatedProperties inside fun ms =>
      coveredMembers check p.draft ms fuel c (.obj p.schema)
  | "unevaluatedItems" =>
    p.unevaluatedItems fun xs => coveredItems check p.draft xs fuel c (.obj p.schema)
  | "disallow" => p.disallow inside
  | "extends" => p.extended inside
  | keyword =>
    if keyword = "type" && p.draft = .draft3 then p.typesAndSchemas inside else p.plain

/-- The keywords of a schema that count. Up to the seventh draft a reference stands
alone. -/
def applicable (draft : Draft) (schema : Json.Members) : Json.Members :=
  match schema.get? "$ref" with
  | some .null => schema
  | some target => if draft.upTo .draft7 then [("$ref", target)] else schema
  | none => schema

/-- What is wrong with a schema that is no object. -/
def noSchema (draft : Draft) (schema : Json) : Json.Misuse :=
  .lacks schema.kind (if draft.upTo .draft7 then "get" else "items")

/-- The step of a keyword on the way to what it forbids. References and conditions do
not show. -/
def keywordStep (keyword : String) : Option Step :=
  if keyword = "if" || keyword = "$ref" then none else some (.member keyword)

/-- What a schema forbids that forbids any value. -/
def forbiddenValue (value : Json) : Violation where
  path := []
  schemaPath := []
  keyword := none
  schema := .bool false
  value := value
  typeMatches := .ok false
  message := "False schema does not allow " ++ value.literal
  context := []

/-- Checks a value against a schema. The fuel bounds the schemas within schemas and the
references that are followed. -/
def check : Nat → Checker
  | 0, _, _, _, _ => .broken .endless
  | fuel + 1, draft, c, schema, value =>
    match schema with
    | .bool true => .clean
    | .bool false => .ofViolation (forbiddenValue value)
    | .obj ms =>
      let keywords := (applicable draft ms).filter fun (k, _) => c.draft.knows k
      .flatMap keywords fun (keyword, setting) =>
        let p : Place := ⟨c.draft, c.formats, ms, keyword, setting, value⟩
        (p.report (check fuel) c fuel).within none (keywordStep keyword)
    | schema => .broken (.misuse (noSchema draft schema))

/-- The levels that a check goes down at most, from a schema to one within it or one that
it refers to. -/
def maxLevels : Nat := 480

end LspGateway.Schema
