/-! # Faults of the gateway

What can be wrong with a configuration or with a call, whatever the protocol that
reports it.
-/

namespace LspGateway

/-- What is wrong. -/
inductive Fault
  /-- Something that was asked for does not exist. -/
  | notFound (resource identifier : String)
  /-- The gateway cannot run with its configuration. -/
  | configuration (text : String)
  /-- A tool was called without an object of arguments. -/
  | missingArguments (tool : String)
  /-- An argument is absent or of the wrong kind. -/
  | invalidArguments (tool reason : String)
  deriving DecidableEq, Repr

def Fault.message : Fault → String
  | .notFound resource identifier => resource ++ " not found: " ++ identifier
  | .configuration text => text
  | .missingArguments tool => "No arguments provided for tool: " ++ tool
  | .invalidArguments tool reason => "Invalid arguments for tool " ++ tool ++ ": " ++ reason

end LspGateway
