import LspGateway.Schema.Standard.Basic

/-! # The latest draft

The schema for schemas is put together from the vocabularies of the draft. They refer to
it as to the document where a check began.
-/

namespace LspGateway.Schema.Standard.Draft2020

/-- The place of the draft's documents. -/
def base : String := "https://json-schema.org/draft/2020-12/"

/-- Any schema. -/
def anySchema : Json := schema [("$dynamicRef", .str "#meta")]

/-- A document of a vocabulary. -/
def vocabulary (name title : String) (properties rest : Json.Members) : Json :=
  schema ([
    ("$schema", .str (base ++ "schema")),
    ("$id", .str (base ++ "meta/" ++ name)),
    ("$vocabulary", .obj [(base ++ "vocab/" ++ name, .bool true)]),
    ("$dynamicAnchor", .str "meta"),
    ("title", .str title),
    ("type", objectOrBoolean),
    ("properties", .obj properties)] ++ rest)

/-- Names, references and comments. -/
def core : Json :=
  let uriReference := reference "#/$defs/uriReferenceString"
  let anchor := reference "#/$defs/anchorString"
  let uri := reference "#/$defs/uriString"
  vocabulary "core" "Core vocabulary meta-schema"
    [("$id", also uriReference [
        ("$comment", .str "Non-empty fragments not allowed."),
        ("pattern", .str "^[^#]*#?$")]),
      ("$schema", uri),
      ("$ref", uriReference),
      ("$anchor", anchor),
      ("$dynamicRef", uriReference),
      ("$dynamicAnchor", anchor),
      ("$vocabulary", schema [
        ("type", .str "object"),
        ("propertyNames", uri),
        ("additionalProperties", kind "boolean")]),
      ("$comment", kind "string"),
      ("$defs", mapOf anySchema)]
    [("$defs", .obj [
      ("anchorString", schema [
        ("type", .str "string"), ("pattern", .str "^[A-Za-z_][-A-Za-z0-9._]*$")]),
      ("uriString", formatted "uri"),
      ("uriReferenceString", formatted "uri-reference")])]

/-- Keywords that bring in other schemas. -/
def applicator : Json :=
  let list := reference "#/$defs/schemaArray"
  vocabulary "applicator" "Applicator vocabulary meta-schema"
    ([("prefixItems", list)] ++ members ["items", "contains", "additionalProperties"] anySchema ++ [
      ("properties", withDefault (mapOf anySchema) (.obj [])),
      ("patternProperties", also (mapOf anySchema) [
        ("propertyNames", schema [("format", .str "regex")]), ("default", .obj [])]),
      ("dependentSchemas", withDefault (mapOf anySchema) (.obj []))] ++
      members ["propertyNames", "if", "then", "else"] anySchema ++
      members ["allOf", "anyOf", "oneOf"] list ++ [("not", anySchema)])
    [("$defs", .obj [("schemaArray", schemaArray anySchema)])]

/-- Keywords for what no other keyword looks at. -/
def unevaluated : Json :=
  vocabulary "unevaluated" "Unevaluated applicator vocabulary meta-schema"
    (members ["unevaluatedItems", "unevaluatedProperties"] anySchema) []

/-- Keywords that look at the value alone. -/
def validation : Json :=
  let count := reference "#/$defs/nonNegativeInteger"
  let countFromZero := reference "#/$defs/nonNegativeIntegerDefault0"
  let names := reference "#/$defs/stringArray"
  vocabulary "validation" "Validation vocabulary meta-schema"
    ([("type", typeOrTypes (reference "#/$defs/simpleTypes")),
      ("const", .bool true),
      ("enum", arrayOf (.bool true)),
      ("multipleOf", positive)] ++
      members ["maximum", "exclusiveMaximum", "minimum", "exclusiveMinimum"] (kind "number") ++ [
      ("maxLength", count),
      ("minLength", countFromZero),
      ("pattern", formatted "regex"),
      ("maxItems", count),
      ("minItems", countFromZero),
      ("uniqueItems", flag),
      ("maxContains", count),
      ("minContains", withDefault count (.int 1)),
      ("maxProperties", count),
      ("minProperties", countFromZero),
      ("required", names),
      ("dependentRequired", mapOf names)])
    [("$defs", .obj [
      ("nonNegativeInteger", natural),
      ("nonNegativeIntegerDefault0", withDefault count (.int 0)),
      ("simpleTypes", simpleTypes),
      ("stringArray", stringArray)])]

/-- Keywords that only describe. -/
def metaData : Json :=
  vocabulary "meta-data" "Meta-data vocabulary meta-schema"
    ([("title", kind "string"), ("description", kind "string"), ("default", .bool true)] ++
      members ["deprecated", "readOnly", "writeOnly"] flag ++
      [("examples", arrayOf (.bool true))]) []

/-- The keyword for formats. -/
def formatAnnotation : Json :=
  vocabulary "format-annotation" "Format vocabulary meta-schema for annotation results"
    [("format", kind "string")] []

/-- The keyword for formats, where they are not only notes. -/
def formatAssertion : Json :=
  vocabulary "format-assertion" "Format vocabulary meta-schema for assertion results"
    [("format", kind "string")] []

/-- Keywords about the content of texts. -/
def content : Json :=
  vocabulary "content" "Content vocabulary meta-schema"
    [("contentEncoding", kind "string"), ("contentMediaType", kind "string"),
      ("contentSchema", anySchema)] []

/-- The documents of the vocabularies, in the order in which a schema is checked. -/
def library : List (String × Json) := [
  ("meta/core", core),
  ("meta/applicator", applicator),
  ("meta/unevaluated", unevaluated),
  ("meta/validation", validation),
  ("meta/meta-data", metaData),
  ("meta/format-annotation", formatAnnotation),
  ("meta/content", content)]

/-- Keywords of former drafts, which no schema should use for anything else. -/
def formerKeywords : Json.Members := [
  ("definitions", schema [
    ("$comment", .str "\"definitions\" has been replaced by \"$defs\"."),
    ("type", .str "object"),
    ("additionalProperties", anySchema),
    ("deprecated", .bool true),
    ("default", .obj [])]),
  ("dependencies", schema [
    ("$comment", .str ("\"dependencies\" has been split and replaced by \"dependentSchemas\" and " ++
      "\"dependentRequired\" in order to serve their differing semantics.")),
    ("type", .str "object"),
    ("additionalProperties", anyOf [anySchema, reference "meta/validation#/$defs/stringArray"]),
    ("deprecated", .bool true),
    ("default", .obj [])]),
  ("$recursiveAnchor", schema [
    ("$comment", .str "\"$recursiveAnchor\" has been replaced by \"$dynamicAnchor\"."),
    ("$ref", .str "meta/core#/$defs/anchorString"),
    ("deprecated", .bool true)]),
  ("$recursiveRef", schema [
    ("$comment", .str "\"$recursiveRef\" has been replaced by \"$dynamicRef\"."),
    ("$ref", .str "meta/core#/$defs/uriReferenceString"),
    ("deprecated", .bool true)])]

/-- The schema for schemas. -/
def root : Json :=
  schema [
    ("$schema", .str (base ++ "schema")),
    ("$id", .str (base ++ "schema")),
    ("$vocabulary", .obj (["core", "applicator", "unevaluated", "validation", "meta-data",
      "format-annotation", "content"].map fun name => (base ++ "vocab/" ++ name, .bool true))),
    ("$dynamicAnchor", .str "meta"),
    ("title", .str "Core and Validation specifications meta-schema"),
    ("allOf", .arr (library.map fun (name, _) => reference name)),
    ("type", objectOrBoolean),
    ("$comment", .str ("This meta-schema also defines keywords that have appeared in previous " ++
      "drafts in order to prevent incompatible extensions as they remain in common use.")),
    ("properties", .obj formerKeywords)]

end LspGateway.Schema.Standard.Draft2020
