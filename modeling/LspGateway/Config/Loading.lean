import LspGateway.Config.Comments
import LspGateway.Config.Validation
import LspGateway.Files
import LspGateway.Json.Parser
import LspGateway.Log

/-! # Loading a configuration

Where the configuration file is looked for, how it is read, and which directory
the language servers work in.
-/

namespace LspGateway.Config

/-- Why there is no configuration. -/
inductive LoadError
  /-- There is no configuration file in the working directory. -/
  | notFound (directory : String)
  | unopened (path : String) (error : FileError)
  | nulInPath
  | notUtf8 (error : Text.Utf8.DecodeError)
  | notJson (path : String) (error : Json.ParseError)
  /-- The text holds a number or a nesting beyond what is read. -/
  | beyondLimits (error : Json.ParseError)
  | notObject (path : String)
  | invalid (path : String) (issues : List Issue)
  deriving DecidableEq, Repr

/-- The variable that names the configuration file. -/
def pathVariable : String := "LSP_MCP_CONFIG"

/-- The variable that names the working directory. -/
def directoryVariable : String := "WORKING_DIR"

/-- The names looked for in the working directory, in this order. -/
def defaultNames : List String := ["lsp-mcp.jsonc", "lsp-mcp.json"]

def LoadError.message : LoadError → String
  | .notFound directory =>
    "No config file found. Pass a path, set " ++ pathVariable ++ ", or create lsp-mcp.jsonc in " ++
      directory
  | .unopened path e => "Failed to read config from " ++ path ++ ": " ++ e.message
  | .nulInPath => ReadError.nulInPath.message
  | .notUtf8 e => e.message
  | .notJson path e => "Invalid JSON in config " ++ path ++ ": " ++ e.message
  | .beyondLimits e => e.message
  | .notObject path => "Config " ++ path ++ " must contain a JSON object"
  | .invalid path issues => "Invalid config in " ++ path ++ ": " ++ summary "Config" issues

/-- The object in a configuration file. -/
def loadFile (fs : Files) (path : String) : Except LoadError Json.Members :=
  match fs.read path with
  | .error (.unopened e) => .error (.unopened path e)
  | .error .nulInPath => .error .nulInPath
  | .error (.notUtf8 e) => .error (.notUtf8 e)
  | .ok content =>
    match Json.parse (stripComments content) with
    | .error e => if e.isSyntactic then .error (.notJson path e) else .error (.beyondLimits e)
    | .ok (.obj ms) => .ok ms
    | .ok _ => .error (.notObject path)

/-- What is reported of a configuration that was loaded. -/
def loaded (path : String) (config : Config) : Log.Entry :=
  ⟨.info, .loader, "Loaded config from " ++ path ++ " (" ++ Text.ofNat config.servers.length ++
    " LSPs)"⟩

/-- The configuration in a file. -/
def load (fs : Files) (path : String) : Except LoadError Config :=
  match loadFile fs path with
  | .error e => .error e
  | .ok ms =>
    match ofMembers ms with
    | .ok config => .ok config
    | .error issues => .error (.invalid path issues)

/-- The working directory: the environment's, or the one paths start at. -/
def workingDirectory (fs : Files) (env : Environment) : String :=
  (env.get? directoryVariable).getD fs.cwd

/-- The configuration file: the first argument, else the one the environment
names, else the first of the usual names that exists in the working directory. -/
def locate (fs : Files) (env : Environment) (args : List String) : Except LoadError String :=
  let fallback :=
    let directory := Path.tidy (workingDirectory fs env)
    match (defaultNames.map (Path.child directory)).find? fs.exists? with
    | some path => .ok path
    | none => .error (.notFound directory)
  match args with
  | arg :: _ => .ok (Path.tidy arg)
  | [] =>
    match env.get? pathVariable with
    | some path => if path = "" then fallback else .ok (Path.tidy path)
    | none => fallback

/-- The directory the servers work in, as an absolute path. -/
def workspaceRoot (fs : Files) (env : Environment) (configured : Option String) : String :=
  let root :=
    match configured with
    | some root => if root = "" then workingDirectory fs env else root
    | none => workingDirectory fs env
  Path.absolute fs.cwd root

end LspGateway.Config
