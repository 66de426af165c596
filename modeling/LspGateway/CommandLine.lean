import LspGateway.Gateway.Conversation

/-! # The command line

`lsp-gateway [CONFIG]` loads a configuration, serves its tools to one caller, and
disposes of every server when the caller leaves or the program is told to stop. A
configuration that cannot be used is reported, and ends the program with an error.
-/

namespace LspGateway.CommandLine

/-- How a run ends. -/
inductive Ending
  /-- The caller leaves. -/
  | inputEnds
  /-- A signal asks the program to stop. -/
  | signal
  /-- The program is interrupted before it has served anything. -/
  | interrupt
  deriving DecidableEq, Repr

/-- Why a run breaks off: not because of the configuration as such, but because of
a file that should not have been there, or of what is in it. -/
inductive Crash
  | load (error : Config.LoadError)
  | start (error : Gateway.StartError)
  /-- A response cannot be written. -/
  | unwritable
  deriving DecidableEq, Repr

/-- What a run leaves behind. -/
structure Result where
  exitCode : Nat
  responses : List Json
  course : List (Nat × Client.Event)
  clients : List Client
  logs : List Log.Entry
  deriving Repr

/-- The error is about the configuration and can be told to whoever wrote it. -/
def isConfigurationError : Config.LoadError → Bool
  | .nulInPath | .notUtf8 _ | .beyondLimits _ => false
  | .notFound _ | .unopened _ _ | .notJson _ _ | .notObject _ | .invalid _ _ => true

/-- What can be told of a failed start to whoever wrote the configuration. -/
def configurationFault? : Gateway.StartError → Option String
  | .catalog e =>
    match e with
    | .unopened _ _ | .notJson _ _ | .noDefinitions _ => some e.message
    | .nulInPath | .notUtf8 _ | .beyondLimits _ | .unresolved _ | .misshapen _ => none
  | .registration (.fault f) => some f.message
  | .registration _ => none

/-- An entry of the program itself. -/
def reported (level : Log.Level) (text : String) : Log.Entry := ⟨level, .main, text⟩

/-- A run that ends with a report about the configuration. -/
def failed (logs : List Log.Entry) (text : String) : Result :=
  ⟨1, [], [], [], logs ++ [reported .error text]⟩

/-- The configuration and where it was found. -/
def loadConfig (fs : Files) (env : Environment) (args : List String) :
    Except Config.LoadError (String × Config) :=
  match Config.locate fs env args with
  | .error e => .error e
  | .ok path =>
    match Config.load fs path with
    | .error e => .error e
    | .ok config => .ok (path, config)

/-- What is reported at the end of a run. -/
def farewell : Ending → List Log.Entry
  | .inputEnds => []
  | .signal => [reported .info "Shutdown requested"]
  | .interrupt => [reported .info "Interrupted"]

/-- What is reported when serving begins. -/
def serving (s : Service) : Log.Entry :=
  ⟨.info, .app, "Serving " ++ Text.ofNat s.tools.length ++ " tools over stdio"⟩

/-- A run once its configuration has been looked at. -/
inductive Opening
  /-- It serves a caller. -/
  | serving (conversation : Conversation) (logs : List Log.Entry)
  /-- It has ended. -/
  | ended (result : Result)
  deriving Repr

/-- Starts a run. -/
def start (fs : Files) (env : Environment) (args : List String) (policies : String → List Policy) :
    Except Crash Opening :=
  match loadConfig fs env args with
  | .error e =>
    if isConfigurationError e then .ok (.ended (failed [] e.message)) else .error (.load e)
  | .ok (path, config) =>
    let logs := [Config.loaded path config]
    match Service.create fs env config policies with
    | .error fault => .ok (.ended (failed logs fault.message))
    | .ok s =>
      match s.start fs with
      | (s, .ok ()) => .ok (.serving (Conversation.ofService (s.note (serving s))) logs)
      | (s, .error e) =>
        match configurationFault? e with
        | some text => .ok (.ended (failed (logs ++ s.report.2.logs) text))
        | none => .error (.start e)

/-- Ends a run that has served. -/
def finish (c : Conversation) (logs : List Log.Entry) (ending : Ending) : Result :=
  let c := c.close
  ⟨0, c.responses, c.course, c.service.clients, logs ++ c.logs ++ farewell ending⟩

/-- Runs the program. -/
def run (fs : Files) (env : Environment) (args : List String) (policies : String → List Policy)
    (messages : List Json) (ending : Ending) : Except Crash Result :=
  match start fs env args policies with
  | .error crash => .error crash
  | .ok (.ended r) => .ok r
  | .ok (.serving c logs) =>
    let c := c.receiveAll fs (if ending = .interrupt then [] else messages)
    if c.broken then .error .unwritable else .ok (finish c logs ending)

def Crash.message : Crash → String
  | .load e => e.message
  | .start (.catalog e) => e.message
  | .start (.registration (.fault f)) => f.message
  | .start (.registration (.noSchema kind)) => (Json.Misuse.noMembers kind).message
  | .start (.registration .noProperties) => "The properties of a schema are no object"
  | .unwritable => "unhandled errors in a TaskGroup (1 sub-exception)"

end LspGateway.CommandLine
