import LspGateway.Catalog.Requests
import LspGateway.Files
import LspGateway.Json.Misuse
import LspGateway.Json.Parser
import LspGateway.Log
import LspGateway.Schema.Reference
import LspGateway.Schema.Unions

/-! # The catalog of methods

Which requests of the protocol can be exposed as tools, with their documentation
and the schema of their parameters. The documentation comes from one document and
the schemas from another; both are loaded on first use, kept once they are
understood, and loaded again after a failure.
-/

namespace LspGateway

/-- A request that can be exposed. -/
structure Method where
  id : String
  description : String
  schema : Schema.Tree
  deriving Repr, Inhabited

namespace Catalog

/-- Where the metadata comes from. -/
inductive Source
  | bundled
  | directory (path : String)
  deriving DecidableEq, Repr

/-- Why there is no list of methods. -/
inductive Error
  | unopened (path : String) (error : FileError)
  | nulInPath
  | notUtf8 (error : Text.Utf8.DecodeError)
  | notJson (path : String) (error : Json.ParseError)
  /-- The text holds a number or a nesting beyond what is read. -/
  | beyondLimits (error : Json.ParseError)
  | noDefinitions (path : String)
  | unresolved (error : Schema.ReferenceError)
  /-- The metadata does not have the shape it should have. -/
  | misshapen (misuse : Json.Misuse)
  deriving DecidableEq, Repr

def Error.message : Error → String
  | .unopened path e => "Failed to load LSP metadata from " ++ path ++ ": " ++ e.message
  | .nulInPath => ReadError.nulInPath.message
  | .notUtf8 e => e.message
  | .notJson path e => "Failed to load LSP metadata from " ++ path ++ ": " ++ e.message
  | .beyondLimits e => e.message
  | .noDefinitions path => "No definitions in " ++ path
  | .unresolved e => e.message
  | .misshapen m => m.message

/-- The file with the requests and their documentation. -/
def modelName : String := "metaModel.json"

/-- The file with the schemas of all messages. -/
def schemaName : String := "protocol.schema.json"

/-- Requests that are never exposed: the gateway makes the first two itself, and
the others mean nothing outside an editor. -/
def hidden : List String :=
  ["initialize", "shutdown", "client/registerCapability", "client/unregisterCapability"]

/-- The path of a metadata file. -/
def Source.path (name : String) : Source → String
  | .bundled => name
  | .directory path => Path.child (Path.tidy path) name

/-- The JSON value in a metadata file. -/
def readFile (fs : Files) (path : String) : Except Error Json :=
  match fs.read path with
  | .error (.unopened e) => .error (.unopened path e)
  | .error .nulInPath => .error .nulInPath
  | .error (.notUtf8 e) => .error (.notUtf8 e)
  | .ok text =>
    match Json.parse text with
    | .ok j => .ok j
    | .error e => .error (if e.isSyntactic then .notJson path e else .beyondLimits e)

/-- The requests and their documentation. -/
def readModel (fs : Files) : Source → Except Error Json
  | .bundled => .ok bundledModel
  | .directory path => readFile fs (Path.child (Path.tidy path) modelName)

/-- The schemas of all messages. -/
def readSchema (fs : Files) : Source → Except Error Json
  | .bundled => .ok bundledSchema
  | .directory path => readFile fs (Path.child (Path.tidy path) schemaName)

/-- What the catalog knows of the protocol. -/
structure Lookups where
  documentation : Json.Members
  /-- The methods in the order of the metadata. -/
  order : List String
  graph : Schema.Graph
  /-- The definition of each method's messages. -/
  definitions : List (String × Schema.Value)
  deriving Repr

open Json (Misuse)

/-- The kind of a value in a graph. -/
def kindOf (g : Schema.Graph) : Schema.Value → Json.Kind
  | .atom a => a.toJson.kind
  | .node id =>
    match g.cell? id with
    | some (.arr _) => .arr
    | _ => .obj

/-- The member of a value that must be an object. -/
def memberOf (g : Schema.Graph) (v : Schema.Value) (name : String) :
    Except Misuse (Option Schema.Value) :=
  match g.members? v with
  | some ms => .ok (Schema.find? ms name)
  | none => .error (.noMembers (kindOf g v))

/-- The method that a definition names as the only choice, if it names one. -/
def methodOf (g : Schema.Graph) (definition : Schema.Value) : Except Misuse (Option String) := do
  let some properties ← memberOf g definition "properties" | pure none
  let some method ← memberOf g properties "method" | pure none
  let some choices ← memberOf g method "enum" | pure none
  match g.items? choices with
  | some [choice] => pure (some (g.plain choice))
  | _ => pure none

/-- The definitions by the methods they name; the last one for a method counts. -/
def definitionsOf (g : Schema.Graph) :
    List Schema.Value → Except Misuse (List (String × Schema.Value))
  | [] => .ok []
  | d :: ds => do
    let method ← methodOf g d
    let rest ← definitionsOf g ds
    match method with
    | some name =>
      pure (if (Schema.find? rest name).isSome then rest else (name, d) :: rest)
    | none => pure rest

/-- The entries of the metadata's list of requests. -/
def entriesOf : Json → Except Misuse (List Json)
  | .arr xs => .ok xs
  | .obj ms => .ok (ms.map fun (k, _) => .str k)
  | .str s => .ok (s.toList.map fun c => .str (.ofList [c]))
  | j => .error (.noItems j.kind)

/-- The name and the documentation of a request. -/
def describedRequest (entry : Json) : Except Misuse (Json × Json) :=
  match entry with
  | .obj ms =>
    match Json.Members.get? ms "method" with
    | none => .error (.missing "method")
    | some method => do
      let method ← method.asKey
      pure (method, (Json.Members.get? ms "documentation").getD (.str ""))
  | j => .error (.noItems j.kind)

/-- The requests whose name is a text. -/
def named (requests : List (Json × Json)) : List (String × Json) :=
  requests.filterMap fun (method, documentation) => method.str?.map (·, documentation)

/-- A misuse met while the metadata is taken apart. -/
def shaped {α : Type} : Except Misuse α → Except Error α
  | .ok a => .ok a
  | .error m => .error (.misshapen m)

/-- The definitions in a schema, by the methods they name. -/
def definedMethods (path : String) (g : Schema.Graph) (root : Schema.Value) :
    Except Error (List (String × Schema.Value)) := do
  let definitions ← shaped (memberOf g root "definitions")
  let some definitions := definitions | throw (.noDefinitions path)
  if !g.truthy definitions then throw (.noDefinitions path)
  match g.members? definitions with
  | none => throw (.misshapen (.noMembers (kindOf g definitions)))
  | some ms => shaped (definitionsOf g (ms.map (·.2)))

/-- Reads both documents and joins them by method. -/
def readLookups (fs : Files) (source : Source) : Except Error Lookups := do
  let model ← readModel fs source
  let model ← shaped model.asObject
  let requests := (Json.Members.get? model "requests").getD (.arr [])
  let schema ← readSchema fs source
  let (graph, root) ←
    match (Schema.Document.ofJson schema).resolved with
    | .ok r => Except.ok r
    | .error e => throw (.unresolved e)
  let definitions ← definedMethods (source.path schemaName) graph root
  let entries ← shaped (entriesOf requests)
  let described ← shaped (entries.mapM describedRequest)
  let requests := named described
  pure ⟨Json.Members.ofList requests, requests.map (·.1), graph, definitions⟩

/-- The description of a method. -/
def Lookups.describe (l : Lookups) (method : String) : String :=
  "method: " ++ method ++ "\n" ++ ((l.documentation.get? method).getD (.str "")).plain

/-- A method that can be exposed: not hidden, and defined with properties. -/
def Lookups.method? (l : Lookups) (id : String) : Except Error (Option Method) :=
  if hidden.contains id then .ok none
  else
    match Schema.find? l.definitions id with
    | none => .ok none
    | some definition =>
      match (l.graph.members? definition).bind (Schema.find? · "properties") with
      | none => .ok none
      | some properties =>
        if !l.graph.truthy properties then .ok none
        else
          match memberOf l.graph properties "params" with
          | .error m => .error (.misshapen m)
          | .ok params =>
            match Schema.sanitize l.graph params with
            | .ok schema => .ok (some ⟨id, l.describe id, schema⟩)
            | .error .notObject =>
              .error (.misshapen (.noMembers ((params.map (kindOf l.graph)).getD .null)))

/-- The methods among the candidates that can be exposed. -/
def Lookups.methods (l : Lookups) : List String → Except Error (List Method)
  | [] => .ok []
  | id :: ids =>
    match l.method? id with
    | .error e => .error e
    | .ok none => l.methods ids
    | .ok (some m) =>
      match l.methods ids with
      | .error e => .error e
      | .ok ms => .ok (m :: ms)

end Catalog

/-- A catalog with what it has loaded so far. -/
structure Catalog where
  /-- The methods to expose, or all of the metadata's. -/
  allowed : Option (List String)
  source : Catalog.Source
  lookups : Option Catalog.Lookups
  /-- The list of methods, once it is made. -/
  methods : Option (List Method)
  deriving Repr

namespace Catalog

/-- A catalog that has loaded nothing. -/
def create (allowed : Option (List String)) (resources : Option String) : Catalog :=
  let source :=
    match resources with
    | some path => if path = "" then .bundled else .directory path
    | none => .bundled
  ⟨allowed, source, none, none⟩

/-- The lookups, loaded if they are not there yet. -/
def getLookups (c : Catalog) (fs : Files) : Catalog × Except Error Lookups :=
  match c.lookups with
  | some l => (c, .ok l)
  | none =>
    match readLookups fs c.source with
    | .ok l => ({ c with lookups := some l }, .ok l)
    | .error e => (c, .error e)

/-- The description of a method. -/
def describe (c : Catalog) (fs : Files) (method : String) : Catalog × Except Error String :=
  match c.getLookups fs with
  | (c, .ok l) => (c, .ok (l.describe method))
  | (c, .error e) => (c, .error e)

/-- The methods that can be exposed, made on the first success and kept. -/
def getMethods (c : Catalog) (fs : Files) : Catalog × Except Error (List Method) :=
  match c.methods with
  | some ms => (c, .ok ms)
  | none =>
    match c.getLookups fs with
    | (c, .error e) => (c, .error e)
    | (c, .ok l) =>
      match l.methods (c.allowed.getD l.order) with
      | .error e => (c, .error e)
      | .ok ms => ({ c with methods := some ms }, .ok ms)

/-- What is reported when a list of methods is made. -/
def prepared (methods : List Method) : Log.Entry :=
  ⟨.info, .catalog, "Prepared " ++ Text.ofNat methods.length ++ " LSP methods"⟩

/-- The graph that the schemas of the methods lead into. -/
def graph (c : Catalog) : Schema.Graph := (c.lookups.map (·.graph)).getD ⟨#[]⟩

end Catalog

end LspGateway
