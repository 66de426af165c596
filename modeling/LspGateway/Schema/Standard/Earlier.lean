import LspGateway.Schema.Standard.Basic

/-! # The earlier drafts

Each has one document, which refers to itself wherever a schema stands.
-/

namespace LspGateway.Schema.Standard

/-- Any schema. -/
def itself : Json := reference "#"

/-- Values of which one is chosen. -/
def choices : Json :=
  schema [("type", .str "array"), ("minItems", .int 1), ("uniqueItems", .bool true)]

/-- Members that are texts. -/
def texts (names : List String) : Json.Members := members names (kind "string")

namespace Draft7

/-- A natural number. -/
def count : Json := reference "#/definitions/nonNegativeInteger"

/-- A natural number that is zero unless it is given. -/
def countFromZero : Json := reference "#/definitions/nonNegativeIntegerDefault0"

/-- What is defined for the schema, in the sixth and the seventh draft alike. -/
def definitions : Json :=
  .obj [
    ("schemaArray", schemaArray itself),
    ("nonNegativeInteger", natural),
    ("nonNegativeIntegerDefault0", schema [
      ("allOf", .arr [count, schema [("default", .int 0)]])]),
    ("simpleTypes", simpleTypes),
    ("stringArray", stringArray)]

/-- The keywords for numbers and texts. -/
def boundKeywords : Json.Members :=
  [("multipleOf", positive)] ++
    members ["maximum", "exclusiveMaximum", "minimum", "exclusiveMinimum"] (kind "number") ++ [
    ("maxLength", count),
    ("minLength", countFromZero),
    ("pattern", formatted "regex")]

/-- The keywords for arrays and objects; `anything` is the schema of any value, and
`patterned` the schemas by patterns of names. -/
def partKeywords (anything patterned : Json) : Json.Members :=
  let schemasByName := withDefault (mapOf itself) (.obj [])
  [("additionalItems", itself),
    ("items", withDefault (anyOf [itself, reference "#/definitions/schemaArray"]) anything),
    ("maxItems", count),
    ("minItems", countFromZero),
    ("uniqueItems", flag),
    ("contains", itself),
    ("maxProperties", count),
    ("minProperties", countFromZero),
    ("required", reference "#/definitions/stringArray"),
    ("additionalProperties", itself),
    ("definitions", schemasByName),
    ("properties", schemasByName),
    ("patternProperties", patterned),
    ("dependencies", mapOf (anyOf [itself, reference "#/definitions/stringArray"])),
    ("propertyNames", itself)]

/-- The keywords that combine schemas. -/
def combinations : Json.Members :=
  members ["allOf", "anyOf", "oneOf"] (reference "#/definitions/schemaArray") ++ [("not", itself)]

/-- The name of the draft. -/
def name : String := "http://json-schema.org/draft-07/schema#"

/-- The schema for schemas. -/
def root : Json :=
  schema [
    ("$schema", .str name),
    ("$id", .str name),
    ("title", .str "Core schema meta-schema"),
    ("definitions", definitions),
    ("type", objectOrBoolean),
    ("properties", .obj ([
      ("$id", formatted "uri-reference"),
      ("$schema", formatted "uri"),
      ("$ref", formatted "uri-reference")] ++
      texts ["$comment", "title", "description"] ++ [
      ("default", .bool true),
      ("readOnly", flag),
      ("writeOnly", flag),
      ("examples", arrayOf (.bool true))] ++ boundKeywords ++
      partKeywords (.bool true) (also (mapOf itself) [
        ("propertyNames", schema [("format", .str "regex")]), ("default", .obj [])]) ++ [
      ("const", .bool true),
      ("enum", arrayOf (.bool true)),
      ("type", typeOrTypes (reference "#/definitions/simpleTypes"))] ++
      texts ["format", "contentMediaType", "contentEncoding"] ++
      members ["if", "then", "else"] itself ++ combinations)),
    ("default", .bool true)]

end Draft7

namespace Draft6
open Draft7

/-- The name of the draft. -/
def name : String := "http://json-schema.org/draft-06/schema#"

/-- The schema for schemas. -/
def root : Json :=
  schema [
    ("$schema", .str name),
    ("$id", .str name),
    ("title", .str "Core schema meta-schema"),
    ("definitions", definitions),
    ("type", objectOrBoolean),
    ("properties", .obj ([
      ("$id", formatted "uri-reference"),
      ("$schema", formatted "uri"),
      ("$ref", formatted "uri-reference")] ++
      texts ["title", "description"] ++ [
      ("default", .obj []),
      ("examples", arrayOf (.obj []))] ++ boundKeywords ++
      partKeywords (.obj []) (withDefault (mapOf itself) (.obj [])) ++ [
      ("const", .obj []),
      ("enum", choices),
      ("type", typeOrTypes (reference "#/definitions/simpleTypes")),
      ("format", kind "string")] ++ combinations)),
    ("default", .obj [])]

end Draft6

namespace Draft4

/-- The name of the draft. -/
def name : String := "http://json-schema.org/draft-04/schema#"

/-- A natural number. -/
def count : Json := reference "#/definitions/positiveInteger"

/-- A natural number that is zero unless it is given. -/
def countFromZero : Json := reference "#/definitions/positiveIntegerDefault0"

/-- A schema, or a truth value. -/
def booleanOrSchema : Json := withDefault (anyOf [kind "boolean", itself]) (.obj [])

/-- Schemas by name. -/
def schemasByName : Json := withDefault (mapOf itself) (.obj [])

/-- What is defined for the schema. -/
def definitions : Json :=
  .obj [
    ("schemaArray", schemaArray itself),
    ("positiveInteger", natural),
    ("positiveIntegerDefault0", schema [("allOf", .arr [count, schema [("default", .int 0)]])]),
    ("simpleTypes", simpleTypes),
    ("stringArray", schema [("type", .str "array"), ("items", kind "string"), ("minItems", .int 1),
      ("uniqueItems", .bool true)])]

/-- The keywords and their schemas. -/
def keywords : Json.Members :=
  texts ["id", "$schema", "title", "description"] ++ [
    ("default", .obj []),
    ("multipleOf", schema [("type", .str "number"), ("minimum", .int 0),
      ("exclusiveMinimum", .bool true)]),
    ("maximum", kind "number"),
    ("exclusiveMaximum", flag),
    ("minimum", kind "number"),
    ("exclusiveMinimum", flag),
    ("maxLength", count),
    ("minLength", countFromZero),
    ("pattern", formatted "regex"),
    ("additionalItems", booleanOrSchema),
    ("items", withDefault (anyOf [itself, reference "#/definitions/schemaArray"]) (.obj [])),
    ("maxItems", count),
    ("minItems", countFromZero),
    ("uniqueItems", flag),
    ("maxProperties", count),
    ("minProperties", countFromZero),
    ("required", reference "#/definitions/stringArray"),
    ("additionalProperties", booleanOrSchema),
    ("definitions", schemasByName),
    ("properties", schemasByName),
    ("patternProperties", schemasByName),
    ("dependencies", mapOf (anyOf [itself, reference "#/definitions/stringArray"])),
    ("enum", choices),
    ("type", typeOrTypes (reference "#/definitions/simpleTypes")),
    ("format", kind "string")] ++ Draft7.combinations

/-- The schema for schemas. -/
def root : Json :=
  schema [
    ("id", .str name),
    ("$schema", .str name),
    ("description", .str "Core schema meta-schema"),
    ("definitions", definitions),
    ("type", .str "object"),
    ("properties", .obj keywords),
    ("dependencies", .obj [
      ("exclusiveMaximum", .arr [.str "maximum"]),
      ("exclusiveMinimum", .arr [.str "minimum"])]),
    ("default", .obj [])]

end Draft4

namespace Draft3

/-- The name of the draft. -/
def name : String := "http://json-schema.org/draft-03/schema#"

/-- One of several types, which may be schemas. -/
def types (names : List Json) : Json := schema [("type", .arr names)]

/-- Schemas by name. -/
def schemasByName (j : Json) : Json := withDefault (mapOf j) (.obj [])

/-- A schema, or a truth value. -/
def schemaOrBoolean : Json := withDefault (types [itself, .str "boolean"]) (.obj [])

/-- A schema, or several. -/
def schemaOrSchemas : Json :=
  also (types [itself, .str "array"]) [("items", itself), ("default", .obj [])]

/-- The names of types, which may be schemas. -/
def typeNames : Json :=
  also (types [.str "string", .str "array"]) [
    ("items", types [.str "string", itself]), ("uniqueItems", .bool true)]

/-- A natural number that is zero unless it is given. -/
def naturalFromZero : Json := withDefault natural (.int 0)

/-- The keywords and their schemas. -/
def keywords : Json.Members :=
  [("type", withDefault typeNames (.str "any")),
    ("properties", schemasByName itself),
    ("patternProperties", schemasByName itself),
    ("additionalProperties", schemaOrBoolean),
    ("items", schemaOrSchemas),
    ("additionalItems", schemaOrBoolean),
    ("required", flag),
    ("dependencies", schema [
      ("type", .str "object"),
      ("additionalProperties", also (types [.str "string", .str "array", itself]) [
        ("items", kind "string")]),
      ("default", .obj [])]),
    ("minimum", kind "number"),
    ("maximum", kind "number"),
    ("exclusiveMinimum", flag),
    ("exclusiveMaximum", flag),
    ("minItems", naturalFromZero),
    ("maxItems", natural),
    ("uniqueItems", flag),
    ("pattern", formatted "regex"),
    ("minLength", naturalFromZero),
    ("maxLength", kind "integer"),
    ("enum", choices),
    ("default", kind "any"),
    ("title", kind "string"),
    ("description", kind "string"),
    ("format", kind "string"),
    ("divisibleBy", schema [("type", .str "number"), ("minimum", .int 0),
      ("exclusiveMinimum", .bool true), ("default", .int 1)]),
    ("disallow", typeNames),
    ("extends", schemaOrSchemas),
    ("id", kind "string"),
    ("$ref", kind "string"),
    ("$schema", formatted "uri")]

/-- The schema for schemas. -/
def root : Json :=
  schema [
    ("$schema", .str name),
    ("id", .str name),
    ("type", .str "object"),
    ("properties", .obj keywords),
    ("dependencies", .obj [
      ("exclusiveMinimum", .str "minimum"), ("exclusiveMaximum", .str "maximum")]),
    ("default", .obj [])]

end Draft3

end LspGateway.Schema.Standard
