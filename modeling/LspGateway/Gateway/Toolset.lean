import LspGateway.Catalog.Basic
import LspGateway.Forwarding
import LspGateway.Routing
import LspGateway.Tool

/-! # The tools of a gateway

Two tools of its own, and one for each method of the catalog. If there are several
servers, every method tool has a property by which the caller picks one.
-/

namespace LspGateway.Gateway

/-- What a tool does. -/
inductive Action
  /-- Describes the configured servers. -/
  | describeServers
  /-- Opens a document that is in no file and answers its URI. -/
  | openContents
  /-- Forwards a method. -/
  | forward (method : String)
  deriving DecidableEq, Repr, Inhabited

/-- The tools of a gateway. -/
abbrev Tools := Registry Action

/-- The property by which a caller picks a server. -/
def serverProperty : String := "lsp"

def describeServersId : String := "lsp_info"
def openContentsId : String := "file_contents_to_uri"

/-- Properties that mean nothing outside an editor. -/
def progressProperties : List String := ["workDoneToken", "partialResultToken"]

/-- A text property with a description. -/
def textProperty (description : String) : Json :=
  .obj [("type", .str "string"), ("description", .str description)]

/-- The tool that describes the servers. -/
def describeServers : Tool Action :=
  ⟨describeServersId,
    "Returns information about the the LSP tools available. This is useful for debugging which " ++
      "programming languages are supported.",
    Schema.bareObject, .describeServers⟩

/-- The tool that opens a document that is in no file. -/
def openContents : Tool Action :=
  ⟨openContentsId,
    "Creates a URI given some file contents to be used in the LSP methods that require a URI. " ++
      "This is only required if the file is not on the filesystem. Otherwise you may pass the " ++
      "file path directly.",
    Schema.Tree.ofJson (.obj [
      ("type", .str "object"),
      ("properties", .obj [
        ("file_contents", textProperty "The contents of the file"),
        ("programming_language", textProperty "The programming language of the file")]),
      ("required", .arr [.str "file_contents"])]),
    .openContents⟩

/-- A server as an option of the server property. -/
def serverOption (server : ServerConfig) : String :=
  "  " ++ server.id ++ " for the programming languages " ++
    String.intercalate ", " server.languages

/-- The schema of the server property. -/
def serverSchema (servers : List ServerConfig) : Json :=
  .obj [("type", .str "string"),
    ("description", .str ("The LSP to use to execute this method. Options are: " ++
      String.intercalate "\n" (servers.map serverOption))),
    ("enum", .arr (servers.map fun s => .str s.id))]

/-- The property of the tools' arguments that names a server; none if there is
nothing to choose. -/
def serverProperty? (roster : Roster) : Option String :=
  if roster.hasSeveral then some serverProperty else none

/-- Why the tools cannot be registered. -/
inductive RegistrationError
  | fault (fault : Fault)
  /-- The schema is no object. -/
  | noSchema (kind : Json.Kind)
  /-- The properties of a schema are no object, so none can be added. -/
  | noProperties
  deriving DecidableEq, Repr

open Schema (Tree)

/-- The kind of value that a tree is. -/
def treeKind (g : Schema.Graph) : Tree → Json.Kind
  | .atom a => a.toJson.kind
  | .arr _ => .arr
  | .obj _ => .obj
  | .shared id => Catalog.kindOf g (.node id)

/-- Writes a member: in its place if the key is there, else at the end. -/
def setMember (ms : List (String × Tree)) (key : String) (t : Tree) : List (String × Tree) :=
  if ms.any (·.1 == key) then ms.map fun (k, old) => if k == key then (k, t) else (k, old)
  else ms ++ [(key, t)]

/-- A schema without the properties that only an editor needs. -/
def dropProgress (g : Schema.Graph) (ms : List (String × Tree)) : List (String × Tree) :=
  match (Schema.find? ms "properties").bind (Tree.members? g) with
  | some properties =>
    setMember ms "properties"
      (.obj (properties.filter fun (k, _) => !progressProperties.contains k))
  | none => ms

/-- A schema with the server property. -/
def addServer (g : Schema.Graph) (servers : List ServerConfig) (ms : List (String × Tree)) :
    Except RegistrationError (List (String × Tree)) :=
  let property := Tree.ofJson (serverSchema servers)
  match Schema.find? ms "properties" with
  | none => .ok (ms ++ [("properties", .obj [(serverProperty, property)])])
  | some t =>
    match t.members? g with
    | some properties =>
      .ok (setMember ms "properties" (.obj (setMember properties serverProperty property)))
    | none => .error .noProperties

/-- The schema of a method's tool. -/
def toolSchema (g : Schema.Graph) (roster : Roster) (schema : Tree) :
    Except RegistrationError Tree :=
  match schema.members? g with
  | none => .error (.noSchema (treeKind g schema))
  | some ms =>
    let ms := dropProgress g ms
    if roster.hasSeveral then
      match addServer g roster.servers ms with
      | .ok ms => .ok (.obj ms)
      | .error e => .error e
    else .ok (.obj ms)

/-- The name of a method's tool. -/
def toolId (method : String) : String :=
  .ofList (method.toList.map fun c => if c = '/' then '_' else c)

/-- Registers a tool; on failure the tools stay as they are. -/
def register (tools : Tools) (tool : Tool Action) : Tools × Except RegistrationError Unit :=
  match tools.register tool with
  | .ok tools => (tools, .ok ())
  | .error fault => (tools, .error (.fault fault))

/-- Registers the tools of methods one after another, up to the first failure. -/
def registerMethods (g : Schema.Graph) (roster : Roster) (tools : Tools) :
    List Method → Tools × Except RegistrationError Unit
  | [] => (tools, .ok ())
  | m :: ms =>
    match toolSchema g roster m.schema with
    | .error e => (tools, .error e)
    | .ok schema =>
      match register tools ⟨toolId m.id, m.description, schema, .forward m.id⟩ with
      | (tools, .error e) => (tools, .error e)
      | (tools, .ok ()) => registerMethods g roster tools ms

/-- Methods in the order of their ids. -/
def sortMethods (ms : List Method) : List Method := ms.mergeSort fun a b => !(b.id < a.id)

/-- Registers every tool of a gateway: its own first, then those of the methods. -/
def registerAll (g : Schema.Graph) (roster : Roster) (methods : List Method) (tools : Tools) :
    Tools × Except RegistrationError Unit :=
  match register tools describeServers with
  | (tools, .error e) => (tools, .error e)
  | (tools, .ok ()) =>
    match register tools openContents with
    | (tools, .error e) => (tools, .error e)
    | (tools, .ok ()) => registerMethods g roster tools (sortMethods methods)

/-- What is reported when all tools are registered. -/
def registeredAll (tools : Tools) : Log.Entry :=
  ⟨.info, .registrar, "Registered " ++ Text.ofNat tools.length ++ " tools"⟩

end LspGateway.Gateway
