import LspGateway.Json.Comparison
import LspGateway.Json.Display
import LspGateway.Pattern.Fault
import LspGateway.Uri.Host

/-! # Checks that break off

A check does not come to its end if a schema sets a keyword to something that the keyword
cannot work with, if a reference leads nowhere, or if the schema leads to itself.
-/

namespace LspGateway.Schema

/-- The width of values on display. -/
def displayWidth : Nat := 72

/-- A value on display, every line of it indented. -/
def shown (j : Json) : String := "    " ++ Json.indented 4 (j.display displayWidth)

/-- Why a reference leads nowhere. -/
inductive LookupFault
  | unresolvable (target : String)
  /-- A pointer leads to no part of its document. -/
  | noPart (pointer : String) (document : Json)
  | noAnchor (name : String) (document : Json)
  /-- The fragment is neither a pointer nor the name of an anchor. -/
  | notAnAnchor (name : String)
  deriving DecidableEq, Repr

/-- The name of the fault, where messages tell it. -/
def LookupFault.name : LookupFault → String
  | .unresolvable _ => "Unresolvable"
  | .noPart _ _ => "PointerToNowhere"
  | .noAnchor _ _ => "NoSuchAnchor"
  | .notAnAnchor _ => "InvalidAnchor"

/-- What is said of a pointer to a member without a name. -/
def emptyStepHint : String :=
  ". The pointer '/' is a valid JSON Pointer but it points to an empty string property ''. " ++
    "If you intended to point to the entire resource, you should use '#'."

def LookupFault.message : LookupFault → String
  | .unresolvable target => target
  | .noPart pointer document =>
    Text.quoted pointer ++ " does not exist within " ++ document.literal ++
      (if pointer = "/" then emptyStepHint else "")
  | .noAnchor name document => Text.quoted name ++ " does not exist within " ++ document.literal
  | .notAnAnchor name =>
    "'#" ++ name ++ "' is not a valid anchor, neither as a plain name anchor nor as a JSON " ++
      "Pointer. You may have intended to use '#/" ++ name ++
      "', as the slash is required *before each segment* of a JSON pointer."

/-- Why a check cannot be brought to its end. -/
inductive Breakdown
  | misuse (fault : Json.Misuse)
  | quotient (fault : Json.QuotientFault)
  /-- The schema asks for a type that its draft does not have. -/
  | unknownType (type schema value : Json)
  /-- The type is met when violations are weighed. -/
  | strangeType (type : Json)
  | pattern (text : String) (fault : Pattern.Fault)
  | address (fault : Uri.HostFault)
  /-- The name of the fault may be told before it. -/
  | lookup (fault : LookupFault) (isNamed : Bool)
  /-- A document is gone that a reference came from. -/
  | noDocument (name : String)
  /-- A schema leads to itself without end. -/
  | endless
  deriving DecidableEq, Repr

def Breakdown.message : Breakdown → String
  | .misuse fault => fault.message
  | .quotient fault => fault.message
  | .unknownType type schema value =>
    "Unknown type " ++ type.literal ++ " for validator with schema:\n" ++ shown schema ++
      "\n\nWhile checking instance:\n" ++ shown value
  | .strangeType type => "Type " ++ type.literal ++ " is unknown to this type checker"
  | .pattern text fault => fault.message text
  | .address fault => fault.message
  | .lookup fault isNamed => (if isNamed then fault.name ++ ": " else "") ++ fault.message
  | .noDocument name => Text.quoted name
  | .endless => "maximum recursion depth exceeded"

/-- The same breakdown, with the name of what was wrong with a reference. -/
def Breakdown.named : Breakdown → Breakdown
  | .lookup fault _ => .lookup fault true
  | b => b

/-- A result that may be missing because a value is of the wrong kind. -/
def ofMisuse {α : Type} : Except Json.Misuse α → Except Breakdown α
  | .ok a => .ok a
  | .error fault => .error (.misuse fault)

/-- A result that may be missing because an address is malformed. -/
def ofAddress {α : Type} : Except Uri.HostFault α → Except Breakdown α
  | .ok a => .ok a
  | .error fault => .error (.address fault)

end LspGateway.Schema
