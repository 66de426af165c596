import LspGateway.Schema.Draft
import LspGateway.Schema.Step

/-! # Schemas as resources

A schema may have a name of its own, anchors that references lead to, and schemas within
it. Where it keeps them depends on the draft that it is written in.
-/

namespace LspGateway.Schema

namespace Draft

/-- The keywords that are set to a schema. -/
def keywordsOfOne : Draft → List String
  | draft3 => []
  | draft4 => ["not"]
  | draft6 => ["additionalProperties", "additionalItems", "propertyNames", "contains", "not"]
  | draft7 =>
    ["additionalProperties", "if", "propertyNames", "additionalItems", "contains", "then", "else",
      "not"]
  | draft2019 =>
    ["additionalProperties", "if", "contentSchema", "unevaluatedProperties", "propertyNames",
      "additionalItems", "contains", "then", "else", "unevaluatedItems", "not"]
  | draft2020 =>
    ["additionalProperties", "if", "items", "contentSchema", "unevaluatedProperties", "contains",
      "propertyNames", "not", "then", "else", "unevaluatedItems"]

/-- The keywords that are set to several schemas. -/
def keywordsOfMany : Draft → List String
  | draft3 => ["extends"]
  | draft2020 => ["prefixItems", "oneOf", "allOf", "anyOf"]
  | _ => ["oneOf", "allOf", "anyOf"]

/-- The keywords that are set to schemas by name. -/
def keywordsOfNamed (d : Draft) : List String :=
  if d.upTo draft7 then ["definitions", "patternProperties", "properties"]
  else ["definitions", "dependentSchemas", "properties", "patternProperties", "$defs"]

/-- The keywords that may be set to a schema, or to something else. -/
def keywordsOfOneOrNone (d : Draft) : List String :=
  if d.upTo draft4 then ["additionalItems", "additionalProperties"] else []

/-- The keywords that may be set to a schema, or to several. -/
def keywordsOfOneOrMore (d : Draft) : List String :=
  if d.upTo draft7 then ["items", "dependencies"]
  else if d = draft2019 then ["items"]
  else []

/-- Whether the last of some steps leads into a schema within a schema, given whether an
object stands there. Only the steps to members have names. -/
def leadsToSchema (d : Draft) (isObject : Bool) : List Step → Bool
  | [] => true
  | .item _ :: _ => false
  | .member name :: rest =>
    if isObject && d.keywordsOfOneOrMore.contains name then true
    else if d.keywordsOfOne.contains name || d.keywordsOfOneOrNone.contains name then
      leadsToSchema d isObject rest
    else if d.keywordsOfMany.contains name || d.keywordsOfNamed.contains name then
      match rest with
      | [] => false
      | _ :: rest => leadsToSchema d isObject rest
    else false

/-- The draft whose rules for names and anchors a schema follows: the one that it names,
or else that of the schema around it. -/
def ofNested (d : Draft) (schema : Json) : Except Breakdown Draft :=
  match schema.get? "$schema" with
  | none => .ok d
  | some .null => .ok d
  | some (.str name) =>
    let name := String.ofList (Text.dropEndWhile (· == '#') name.toList)
    .ok ((all.find? fun other => other.name == name).getD d)
  | some j => .error (.misuse (.lacks j.kind "rstrip"))

end Draft

/-- A schema, and the draft whose rules its names and anchors follow. -/
structure Resource where
  draft : Draft
  contents : Json
  deriving DecidableEq, Repr

/-- A place in a schema that has a name. -/
structure Anchor where
  resource : Resource
  /-- A reference to it leads to the outermost anchor of its name on the way. -/
  moves : Bool
  deriving DecidableEq, Repr

/-- The member of an object that is taken for one. -/
def memberOf? (schema : Json) (name : String) : Except Breakdown (Option Json) := do
  match Json.Members.get? (← ofMisuse schema.asObject) name with
  | some .null => pure none
  | found => pure found

/-- The member of a value that holds a name, in whatever way. -/
def settingOf? (schema : Json) (name : String) : Except Breakdown (Option Json) := do
  if ← ofMisuse (schema.holdsText name) then
    match schema with
    | .obj ms => pure (Json.Members.get? ms name)
    | j => throw (.misuse (.notByName j.kind))
  else pure none

/-- A text that is taken for one, without the marks of empty fragments at its end. -/
def withoutMarks : Json → Except Breakdown String
  | .str name => .ok (.ofList (Text.dropEndWhile (· == '#') name.toList))
  | j => .error (.misuse (.lacks j.kind "rstrip"))

/-- Whether a value is a text that starts with the mark of a fragment. -/
def isFragment : Json → Except Breakdown Bool
  | .str name => .ok (name.toList.head? = some '#')
  | j => .error (.misuse (.lacks j.kind "startswith"))

namespace Resource

/-- The keyword for the name of a schema. -/
def nameKeyword (r : Resource) : String := if r.draft.upTo .draft4 then "id" else "$id"

/-- The name of the schema, if it has one. In the earlier drafts a reference has none, and
a fragment is an anchor. -/
def name? (r : Resource) : Except Breakdown (Option String) := do
  match r.contents with
  | .bool b =>
    if r.draft.upTo .draft4 then throw (.misuse (.noContainer (Json.bool b).kind)) else pure none
  | schema =>
    let isReference ←
      if r.draft.upTo .draft7 then ofMisuse (schema.holdsText "$ref") else pure false
    if isReference then pure none
    else
      match ← memberOf? schema r.nameKeyword with
      | none => pure none
      | some name =>
        let isAnchor ← if r.draft.upTo .draft7 then isFragment name else pure false
        if isAnchor then pure none else pure (some (← withoutMarks name))

/-- An anchor under a keyword; what is no text names none. -/
def anchorUnder (r : Resource) (keyword : String) (moves : Bool) :
    Except Breakdown (List (String × Anchor)) := do
  match ← memberOf? r.contents keyword with
  | none => pure []
  | some name =>
    match ← ofMisuse name.asKey with
    | .str name => pure [(name, ⟨r, moves⟩)]
    | _ => pure []

/-- The anchors of the schema with their names. In the earlier drafts they stand where its
name does. -/
def anchors (r : Resource) : Except Breakdown (List (String × Anchor)) := do
  match r.contents, r.draft with
  | .bool _, _ => pure []
  | _, .draft2020 =>
    pure ((← r.anchorUnder "$anchor" false) ++ (← r.anchorUnder "$dynamicAnchor" true))
  | _, .draft2019 => r.anchorUnder "$anchor" false
  | schema, _ =>
    match Json.Members.get? (← ofMisuse schema.asObject) r.nameKeyword with
    | none => pure []
    | some name =>
      match ← isFragment name, name with
      | true, .str name => pure [(.ofList (name.toList.drop 1), ⟨r, false⟩)]
      | _, _ => pure []

/-- The schemas under a keyword that may be set to one or more, which are those of names
if the first of them is a schema. -/
def oneOrMore (keyword : String) (setting : Json) : Except Breakdown (List Json) := do
  if keyword = "dependencies" then
    match ← ofMisuse setting.asValues with
    | .obj ms :: rest => pure (.obj ms :: rest)
    | _ => pure []
  else
    match setting with
    | .arr _ => ofMisuse setting.asItems
    | .str _ => ofMisuse setting.asItems
    | setting => pure [setting]

/-- The schemas within the schema. -/
def subschemas (r : Resource) : Except Breakdown (List Json) := do
  match r.contents with
  | .bool _ => pure []
  | schema =>
    let settings (keywords : List String) : Except Breakdown (List Json) :=
      keywords.filterMapM (settingOf? schema)
    let single ← settings r.draft.keywordsOfOne
    let many ← (← settings r.draft.keywordsOfMany).mapM fun j => ofMisuse j.asItems
    let named ← (← settings r.draft.keywordsOfNamed).mapM fun j => ofMisuse j.asValues
    let further ← r.draft.keywordsOfOneOrMore.mapM fun keyword => do
      match ← memberOf? schema keyword with
      | some setting => oneOrMore keyword setting
      | none => pure []
    let other ← r.draft.keywordsOfOneOrNone.filterMapM (memberOf? schema)
    let isObject (j : Json) : Bool := j.kind = .obj
    pure (single ++ many.flatten ++ named.flatten ++ further.flatten ++ other.filter isObject)

/-- A schema within the schema as a resource of its own. -/
def nested (r : Resource) (schema : Json) : Except Breakdown Resource := do
  pure ⟨← r.draft.ofNested schema, schema⟩

end Resource

end LspGateway.Schema
