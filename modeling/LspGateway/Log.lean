import LspGateway.Files
import LspGateway.Text.Case

/-! # The log

What the program reports about its own work, who reports it, and how much of it
is shown. The log goes to standard error, because standard output carries the
protocol.
-/

namespace LspGateway.Log

/-- How much an entry matters. -/
inductive Level
  | debug
  | info
  | warning
  | error
  deriving DecidableEq, Repr

/-- The part of the program that reports. -/
inductive Source
  | server
  | manager
  | catalog
  | registrar
  | tools
  | loader
  | app
  | main
  deriving DecidableEq, Repr

/-- One line of the log. -/
structure Entry where
  level : Level
  source : Source
  text : String
  deriving DecidableEq, Repr

/-- The weight of a level; an entry is shown if it weighs at least as much as the
threshold. -/
def Level.weight : Level → Nat
  | .debug => 10
  | .info => 20
  | .warning => 30
  | .error => 40

/-- The name of a level in the log. -/
def Level.name : Level → String
  | .debug => "DEBUG"
  | .info => "INFO"
  | .warning => "WARNING"
  | .error => "ERROR"

/-- The name of a source in the log. -/
def Source.name : Source → String
  | .server => "bridge.lsp"
  | .manager => "bridge.manager"
  | .catalog => "bridge.methods"
  | .registrar => "bridge.registrar"
  | .tools => "bridge.tools"
  | .loader => "config.loader"
  | .app => "server.app"
  | .main => "main"

/-- An entry without its time. -/
def Entry.render (e : Entry) : String := e.level.name ++ " " ++ e.source.name ++ ": " ++ e.text

/-- Whether an entry is shown to someone who reads the program's normal log. -/
def Entry.isShown (e : Entry) : Bool := Level.info.weight ≤ e.level.weight

/-- How the log is written. -/
structure Settings where
  threshold : Nat
  layout : String
  dateLayout : String
  toStandardError : Bool
  outputs : Nat
  /-- The threshold for the protocol library, which reports every request. -/
  protocolThreshold : Nat
  deriving DecidableEq, Repr

/-- Why a threshold is refused: its name belongs to something that is none. -/
inductive ThresholdFault
  | isText (text : String)
  | isTable
  deriving DecidableEq, Repr

def ThresholdFault.message : ThresholdFault → String
  | .isText text => "Unknown level: " ++ Text.quoted text
  | .isTable => "Level not an integer or a valid string"

def simpleLayout : String := "%(asctime)s | %(levelname)-8s | %(name)s | %(message)s"

def detailedLayout : String :=
  "%(asctime)s | %(levelname)-8s | %(name)s:%(funcName)s:%(lineno)d | %(message)s"

/-- The threshold a name stands for; an unknown name stands for the usual one. -/
def threshold (name : String) : Except ThresholdFault Nat :=
  match Text.asciiUpper name with
  | "NOTSET" => .ok 0
  | "DEBUG" => .ok 10
  | "INFO" => .ok 20
  | "WARN" => .ok 30
  | "WARNING" => .ok 30
  | "ERROR" => .ok 40
  | "CRITICAL" => .ok 50
  | "FATAL" => .ok 50
  | "BASIC_FORMAT" => .error (.isText "%(levelname)s:%(name)s:%(message)s")
  | "_STYLES" => .error .isTable
  | _ => .ok 20

/-- The variable that names the threshold if nothing else does. -/
def thresholdVariable : String := "LOG_LEVEL"

/-- The settings for a threshold given by name, or by the environment. -/
def settings (level : Option String) (env : Environment) : Except ThresholdFault Settings :=
  let name :=
    match level with
    | some name => if name = "" then (env.get? thresholdVariable).getD "INFO" else name
    | none => (env.get? thresholdVariable).getD "INFO"
  match threshold name with
  | .error fault => .error fault
  | .ok t =>
    .ok ⟨t, if t = Level.debug.weight then detailedLayout else simpleLayout, "%Y-%m-%d %H:%M:%S",
      true, 1, Level.warning.weight⟩

end LspGateway.Log
