import LspGateway.Gateway.Toolset
import LspGateway.Json.Misuse

/-! # Calls of a gateway's tools

What a call sends, to which server, and what it answers. Routing, the reading of
files and the choice of a name for an unnamed document are decided when the call
is made; the sends follow one after another.
-/

namespace LspGateway.Gateway

/-- What a call answers once its sends are done. -/
inductive Answer
  /-- The result of the last request. -/
  | lastResult
  | value (j : Json)
  deriving DecidableEq, Repr

/-- A call as its sends to one server and its answer. -/
structure Plan where
  server : Nat
  sends : List Send
  answer : Answer
  deriving DecidableEq, Repr

/-- Why a call is refused. -/
inductive CallError
  | fault (fault : Fault)
  | forwarding (error : Forwarding.Error)
  /-- The arguments are no object. -/
  | misuse (fault : Json.Misuse)
  deriving DecidableEq, Repr

def CallError.message : CallError → String
  | .fault f => f.message
  | .forwarding e => e.message
  | .misuse m => m.message

/-- What a caller may know of a server's state. -/
structure ServerStatus where
  started : Bool
  capabilities : Json
  deriving DecidableEq, Repr

/-- The description of one server. -/
def describeServer (server : ServerConfig) (status : ServerStatus) : Json :=
  .obj [("id", .str server.id), ("languages", .arr (server.languages.map .str)),
    ("extensions", .arr (server.extensions.map .str)),
    ("started", if status.started then .bool true
      else .str ("Not started. LSP will start automatically when needed, such as when " ++
        "analyzing a file with extensions " ++ String.intercalate ", " server.extensions ++ ".")),
    ("capabilities", if status.started then status.capabilities
      else .str "LSP not started. Capabilities will be available when started.")]

/-- The description of all servers, as indented JSON. -/
def describeAll (servers : List ServerConfig) (status : List ServerStatus) : String :=
  (Json.arr (List.zipWith describeServer servers status)).pretty

/-- The URI of a document held in memory: its number and the id of its server. -/
def memoryUri (number : Nat) (server : String) : String :=
  Uri.memoryScheme ++ Text.hex 16 number ++ "." ++ server

/-- The server for a document in a language. -/
def serverForLanguage (roster : Roster) (args : Json.Members) : Nat :=
  match args.get? "programming_language" with
  | some (.str language) =>
    if language = "" then roster.default else (roster.findByLanguage language).getD roster.default
  | _ => roster.default

/-- The languages a server is configured for. -/
def languagesOf (roster : Roster) (server : Nat) : List String :=
  (roster.servers[server]?.map (·.languages)).getD []

/-- The call of a tool, and the number of documents held in memory after it. -/
def plan (fs : Files) (roster : Roster) (status : List ServerStatus) (documents : Nat)
    (action : Action) (args : Json.Members) : Nat × Except CallError Plan :=
  match action with
  | .describeServers =>
    (documents, .ok ⟨roster.default, [], .value (.str (describeAll roster.servers status))⟩)
  | .openContents =>
    match args.get? "file_contents" with
    | some (.str contents) =>
      let server := serverForLanguage roster args
      let uri := memoryUri (documents + 1) (roster.idOf server)
      (documents + 1,
        .ok ⟨server, [Forwarding.opening (languagesOf roster server) uri contents],
          .value (.str uri)⟩)
    | _ =>
      (documents,
        .error (.fault (.invalidArguments openContentsId "'file_contents' must be a string")))
  | .forward method =>
    let property := serverProperty? roster
    let server := Routing.select roster args property
    let rest :=
      match property with
      | some name => args.erase name
      | none => args
    match Forwarding.sends fs (languagesOf roster server) method rest with
    | .ok sends => (documents, .ok ⟨server, sends, .lastResult⟩)
    | .error e => (documents, .error (.forwarding e))

/-- The call of a tool with any value for its arguments; only a tool that looks at
them needs an object. -/
def planFor (fs : Files) (roster : Roster) (status : List ServerStatus) (documents : Nat)
    (action : Action) (args : Json) : Nat × Except CallError Plan :=
  match action, args.asObject with
  | .describeServers, _ => plan fs roster status documents action []
  | _, .ok ms => plan fs roster status documents action ms
  | _, .error fault => (documents, .error (.misuse fault))

end LspGateway.Gateway
