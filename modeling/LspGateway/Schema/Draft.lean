import LspGateway.Schema.Breakdown
import LspGateway.Uri.Parts

/-! # Drafts

The vocabulary of schemas has been drafted several times. A schema may name the draft
that it is written in; the latest is meant if it does not. The drafts differ in the
keywords they know and in what they take for an integer.
-/

namespace LspGateway.Schema

/-- A draft of the vocabulary of schemas. -/
inductive Draft
  | draft3
  | draft4
  | draft6
  | draft7
  | draft2019
  | draft2020
  deriving DecidableEq, Repr

namespace Draft

/-- The drafts from the first to the last. -/
def all : List Draft := [draft3, draft4, draft6, draft7, draft2019, draft2020]

/-- The place of a draft among all. -/
def number : Draft → Nat
  | draft3 => 3
  | draft4 => 4
  | draft6 => 6
  | draft7 => 7
  | draft2019 => 8
  | draft2020 => 9

/-- Whether a draft is one of those up to another. -/
def upTo (d last : Draft) : Bool := d.number ≤ last.number

/-- The name of a draft. -/
def name : Draft → String
  | draft3 => "http://json-schema.org/draft-03/schema"
  | draft4 => "http://json-schema.org/draft-04/schema"
  | draft6 => "http://json-schema.org/draft-06/schema"
  | draft7 => "http://json-schema.org/draft-07/schema"
  | draft2019 => "https://json-schema.org/draft/2019-09/schema"
  | draft2020 => "https://json-schema.org/draft/2020-12/schema"

/-- The drafts that know a keyword, the first and the last of them. -/
def knowing (keyword : String) : Option (Draft × Draft) :=
  if ["$ref", "additionalProperties", "enum", "format", "items", "maxItems", "maxLength",
      "maximum", "minItems", "minLength", "minimum", "pattern", "patternProperties",
      "properties", "type", "uniqueItems"].contains keyword then some (draft3, draft2020)
  else if ["allOf", "anyOf", "oneOf", "not", "required", "multipleOf", "maxProperties",
      "minProperties"].contains keyword then some (draft4, draft2020)
  else if ["const", "contains", "exclusiveMaximum", "exclusiveMinimum",
      "propertyNames"].contains keyword then some (draft6, draft2020)
  else if keyword = "if" then some (draft7, draft2020)
  else if ["dependentRequired", "dependentSchemas", "unevaluatedItems",
      "unevaluatedProperties"].contains keyword then some (draft2019, draft2020)
  else if ["$dynamicRef", "prefixItems"].contains keyword then some (draft2020, draft2020)
  else if keyword = "$recursiveRef" then some (draft2019, draft2019)
  else if keyword = "additionalItems" then some (draft3, draft2019)
  else if keyword = "dependencies" then some (draft3, draft7)
  else if ["disallow", "divisibleBy", "extends"].contains keyword then some (draft3, draft3)
  else none

/-- Whether a draft knows a keyword. -/
def knows (d : Draft) (keyword : String) : Bool :=
  match knowing keyword with
  | some (first, last) => first.upTo d && d.upTo last
  | none => false

/-- Whether a value has the type of the given name; none if there is no such type. In
the first drafts an integer is written as one, later its value counts. -/
def hasType? (d : Draft) (j : Json) (name : String) : Option Bool :=
  match name, j with
  | "object", .obj _ => some true
  | "array", .arr _ => some true
  | "string", .str _ => some true
  | "boolean", .bool _ => some true
  | "null", .null => some true
  | "integer", .int _ => some true
  | "integer", .float x => some (!d.upTo draft4 && x.toInt?.isSome)
  | "number", j => some j.isNumber
  | "any", _ => if d = draft3 then some true else none
  | name, _ =>
    if ["object", "array", "string", "boolean", "null", "integer"].contains name then some false
    else none

/-- Whether a value has a type; none if there is no such type. -/
def isOfType? (d : Draft) (value type : Json) : Except Json.Misuse (Option Bool) := do
  match ← type.asKey with
  | .str name => pure (d.hasType? value name)
  | _ => pure none

/-- Whether a value has a type that its schema names, as far as that counts when
violations are weighed. -/
def matchesType (d : Draft) (schema value : Json) : Except Breakdown Bool :=
  let isOfType (type : Json) : Except Breakdown Bool := do
    match ← ofMisuse (d.isOfType? value type) with
    | some answer => pure answer
    | none => throw (.strangeType type)
  match schema.get? "type" with
  | none => .ok false
  | some (.str name) => isOfType (.str name)
  | some types => do (← ofMisuse types.asItems).anyM isOfType

/-- The draft of a name, or a default. Names are compared as URIs are. -/
def ofName (name : String) (default : Draft) : Except Breakdown Draft := do
  let cs ← ofAddress (Uri.normal name.toList)
  pure ((all.find? fun d => d.name == .ofList cs).getD default)

/-- The draft that a setting names, or a default. -/
def ofSetting (setting : Json) (default : Draft) : Except Breakdown Draft := do
  match ← ofMisuse setting.asKey with
  | .str name => ofName name default
  | j => if j.truthy then throw (.misuse (.lacks j.kind "decode")) else pure default

/-- The draft that a schema is written in, or a default. -/
def ofSchema (schema : Json) (default : Draft) : Except Breakdown Draft := do
  match schema with
  | .bool _ => pure default
  | .obj ms =>
    match Json.Members.get? ms "$schema" with
    | some setting => ofSetting setting default
    | none => pure default
  | j =>
    if ← ofMisuse (j.holdsText "$schema") then throw (.misuse (.notByName j.kind))
    else pure default

end Draft

end LspGateway.Schema
