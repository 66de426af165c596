import LspGateway.Json.Basic

/-! # Parts of the schemas for schemas

What the schemas that describe schemas are made of.
-/

namespace LspGateway.Schema.Standard

/-- A schema from its keywords. -/
def schema (ms : Json.Members) : Json := .obj ms

/-- A value of the given type. -/
def kind (name : String) : Json := schema [("type", .str name)]

/-- A text of the given format. -/
def formatted (format : String) : Json := schema [("type", .str "string"), ("format", .str format)]

/-- What a reference leads to. -/
def reference (target : String) : Json := schema [("$ref", .str target)]

/-- Further keywords of a schema. -/
def also (j : Json) (more : Json.Members) : Json :=
  match j with
  | .obj ms => .obj (ms ++ more)
  | j => j

/-- A schema with a default. -/
def withDefault (j value : Json) : Json := also j [("default", value)]

/-- One of several schemas. -/
def anyOf (schemas : List Json) : Json := schema [("anyOf", .arr schemas)]

/-- An object whose members all have one schema. -/
def mapOf (values : Json) : Json :=
  schema [("type", .str "object"), ("additionalProperties", values)]

/-- An array whose items all have one schema. -/
def arrayOf (items : Json) : Json := schema [("type", .str "array"), ("items", items)]

/-- An array of schemas. -/
def schemaArray (item : Json) : Json :=
  schema [("type", .str "array"), ("minItems", .int 1), ("items", item)]

/-- An array of texts that differ. -/
def stringArray : Json :=
  schema [("type", .str "array"), ("items", kind "string"), ("uniqueItems", .bool true),
    ("default", .arr [])]

/-- A natural number. -/
def natural : Json := schema [("type", .str "integer"), ("minimum", .int 0)]

/-- The names of the types. -/
def simpleTypes : Json :=
  schema [("enum", .arr [.str "array", .str "boolean", .str "integer", .str "null", .str "number",
    .str "object", .str "string"])]

/-- A type, or several that differ. -/
def typeOrTypes (names : Json) : Json :=
  anyOf [names,
    schema [("type", .str "array"), ("items", names), ("minItems", .int 1),
      ("uniqueItems", .bool true)]]

/-- A number that is more than zero. -/
def positive : Json := schema [("type", .str "number"), ("exclusiveMinimum", .int 0)]

/-- A truth value that is false unless it is given. -/
def flag : Json := schema [("type", .str "boolean"), ("default", .bool false)]

/-- Members with one schema. -/
def members (names : List String) (j : Json) : Json.Members := names.map fun name => (name, j)

/-- The types of a schema. -/
def objectOrBoolean : Json := .arr [.str "object", .str "boolean"]

end LspGateway.Schema.Standard
