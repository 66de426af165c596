import LspGateway.Fault
import LspGateway.Json.Printer
import LspGateway.Log
import LspGateway.Schema.Graph

/-! # Tools

Operations that can be called from outside by name, kept in the order in which
they were registered. What a tool does is left open: a registry holds handlers of
any type.
-/

namespace LspGateway

/-- An operation with a name, a description and a schema of its arguments. -/
structure Tool (α : Type) where
  id : String
  description : String
  schema : Schema.Tree
  handler : α
  deriving Repr, Inhabited

/-- Tools in the order of their registration. -/
abbrev Registry (α : Type) := List (Tool α)

namespace Registry

variable {α : Type}

/-- The tool of a name. -/
def get? (r : Registry α) (id : String) : Option (Tool α) := r.find? (·.id == id)

/-- Adds a tool under a name that is not taken. -/
def register (r : Registry α) (tool : Tool α) : Except Fault (Registry α) :=
  if (r.get? tool.id).isSome then .error (.configuration ("Duplicate tool id: " ++ tool.id))
  else .ok (r ++ [tool])

/-- The tool to call. -/
def find (r : Registry α) (id : String) : Except Fault (Tool α) :=
  match r.get? id with
  | some tool => .ok tool
  | none => .error (.notFound "Tool" id)

/-- The tool to call with arguments, which must be there even if they are empty. -/
def findFor (r : Registry α) (id : String) (args : Option Json) : Except Fault (Tool α × Json) :=
  match args with
  | none => .error (.missingArguments id)
  | some args =>
    match r.find id with
    | .ok tool => .ok (tool, args)
    | .error fault => .error fault

/-- What is reported when a tool is added. -/
def registered (id : String) : Log.Entry := ⟨.debug, .tools, "Registered tool " ++ id⟩

/-- What is reported when a call begins. -/
def calling (id : String) : Log.Entry := ⟨.debug, .tools, "Calling tool " ++ id⟩

/-- What is reported when a call ends, with its duration in seconds. -/
def completed (id : String) (duration : Binary64) : Log.Entry :=
  ⟨.debug, .tools, "Tool " ++ id ++ " completed in " ++
    (duration.mul (.ofDecimal false 1000 0)).fixed 1 ++ "ms"⟩

end Registry

/-- The text of a tool's result: a text itself, anything else as indented JSON. -/
def resultText : Json → String
  | .str s => s
  | j => j.pretty

end LspGateway
