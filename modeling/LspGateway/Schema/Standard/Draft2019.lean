import LspGateway.Schema.Standard.Basic

/-! # The draft before the latest

Like the latest draft it consists of vocabularies, whose references to any schema lead
to the document where a check began.
-/

namespace LspGateway.Schema.Standard.Draft2019

/-- The place of the draft's documents. -/
def base : String := "https://json-schema.org/draft/2019-09/"

/-- Any schema. -/
def anySchema : Json := schema [("$recursiveRef", .str "#")]

/-- A document of a vocabulary. -/
def vocabulary (name title : String) (properties rest : Json.Members) : Json :=
  schema ([
    ("$schema", .str (base ++ "schema")),
    ("$id", .str (base ++ "meta/" ++ name)),
    ("$vocabulary", .obj [(base ++ "vocab/" ++ name, .bool true)]),
    ("$recursiveAnchor", .bool true),
    ("title", .str title),
    ("type", objectOrBoolean),
    ("properties", .obj properties)] ++ rest)

/-- Names, references and comments. -/
def core : Json :=
  vocabulary "core" "Core vocabulary meta-schema"
    [("$id", also (formatted "uri-reference") [
        ("$comment", .str "Non-empty fragments not allowed."),
        ("pattern", .str "^[^#]*#?$")]),
      ("$schema", formatted "uri"),
      ("$anchor", schema [("type", .str "string"), ("pattern", .str "^[A-Za-z][-A-Za-z0-9.:_]*$")]),
      ("$ref", formatted "uri-reference"),
      ("$recursiveRef", formatted "uri-reference"),
      ("$recursiveAnchor", flag),
      ("$vocabulary", schema [
        ("type", .str "object"),
        ("propertyNames", formatted "uri"),
        ("additionalProperties", kind "boolean")]),
      ("$comment", kind "string"),
      ("$defs", withDefault (mapOf anySchema) (.obj []))] []

/-- Keywords that bring in other schemas. -/
def applicator : Json :=
  let list := reference "#/$defs/schemaArray"
  vocabulary "applicator" "Applicator vocabulary meta-schema"
    (members ["additionalItems", "unevaluatedItems"] anySchema ++ [
      ("items", anyOf [anySchema, list])] ++
      members ["contains", "additionalProperties", "unevaluatedProperties"] anySchema ++ [
      ("properties", withDefault (mapOf anySchema) (.obj [])),
      ("patternProperties", also (mapOf anySchema) [
        ("propertyNames", schema [("format", .str "regex")]), ("default", .obj [])]),
      ("dependentSchemas", mapOf anySchema)] ++
      members ["propertyNames", "if", "then", "else"] anySchema ++
      members ["allOf", "anyOf", "oneOf"] list ++ [("not", anySchema)])
    [("$defs", .obj [("schemaArray", schemaArray anySchema)])]

/-- Keywords that look at the value alone. -/
def validation : Json :=
  let count := reference "#/$defs/nonNegativeInteger"
  let countFromZero := reference "#/$defs/nonNegativeIntegerDefault0"
  let names := reference "#/$defs/stringArray"
  vocabulary "validation" "Validation vocabulary meta-schema"
    ([("multipleOf", positive)] ++
      members ["maximum", "exclusiveMaximum", "minimum", "exclusiveMinimum"] (kind "number") ++ [
      ("maxLength", count),
      ("minLength", countFromZero),
      ("pattern", formatted "regex"),
      ("maxItems", count),
      ("minItems", countFromZero),
      ("uniqueItems", flag),
      ("maxContains", count),
      ("minContains", withDefault count (.int 1)),
      ("maxProperties", count),
      ("minProperties", countFromZero),
      ("required", names),
      ("dependentRequired", mapOf names),
      ("const", .bool true),
      ("enum", arrayOf (.bool true)),
      ("type", typeOrTypes (reference "#/$defs/simpleTypes"))])
    [("$defs", .obj [
      ("nonNegativeInteger", natural),
      ("nonNegativeIntegerDefault0", withDefault count (.int 0)),
      ("simpleTypes", simpleTypes),
      ("stringArray", stringArray)])]

/-- Keywords that only describe. -/
def metaData : Json :=
  vocabulary "meta-data" "Meta-data vocabulary meta-schema"
    ([("title", kind "string"), ("description", kind "string"), ("default", .bool true)] ++
      members ["deprecated", "readOnly", "writeOnly"] flag ++
      [("examples", arrayOf (.bool true))]) []

/-- The keyword for formats. -/
def format : Json :=
  vocabulary "format" "Format vocabulary meta-schema" [("format", kind "string")] []

/-- Keywords about the content of texts. -/
def content : Json :=
  vocabulary "content" "Content vocabulary meta-schema"
    [("contentMediaType", kind "string"), ("contentEncoding", kind "string"),
      ("contentSchema", anySchema)] []

/-- The documents of the vocabularies, in the order in which a schema is checked. -/
def library : List (String × Json) := [
  ("meta/core", core),
  ("meta/applicator", applicator),
  ("meta/validation", validation),
  ("meta/meta-data", metaData),
  ("meta/format", format),
  ("meta/content", content)]

/-- Keywords of former drafts, which no schema should use for anything else. -/
def formerKeywords : Json.Members := [
  ("definitions", schema [
    ("$comment", .str ("While no longer an official keyword as it is replaced by $defs, this " ++
      "keyword is retained in the meta-schema to prevent incompatible extensions as it remains " ++
      "in common use.")),
    ("type", .str "object"),
    ("additionalProperties", anySchema),
    ("default", .obj [])]),
  ("dependencies", schema [
    ("$comment", .str ("\"dependencies\" is no longer a keyword, but schema authors should avoid " ++
      "redefining it to facilitate a smooth transition to \"dependentSchemas\" and " ++
      "\"dependentRequired\"")),
    ("type", .str "object"),
    ("additionalProperties", anyOf [anySchema, reference "meta/validation#/$defs/stringArray"])])]

/-- The schema for schemas. -/
def root : Json :=
  schema [
    ("$schema", .str (base ++ "schema")),
    ("$id", .str (base ++ "schema")),
    ("$vocabulary", .obj (["core", "applicator", "validation", "meta-data", "format",
      "content"].map fun name => (base ++ "vocab/" ++ name, .bool (name != "format")))),
    ("$recursiveAnchor", .bool true),
    ("title", .str "Core and Validation specifications meta-schema"),
    ("allOf", .arr (library.map fun (name, _) => reference name)),
    ("type", objectOrBoolean),
    ("properties", .obj formerKeywords)]

end LspGateway.Schema.Standard.Draft2019
