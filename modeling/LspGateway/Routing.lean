import LspGateway.Json.Basic
import LspGateway.Roster

/-! # Routing

Which server handles a call: the one it names by id or language, else the one
for the extension of its document, else the first.
-/

namespace LspGateway.Routing
open LspGateway.Text

/-- The document a call is about. -/
def documentUri? (args : Json.Members) : Option String := do
  let document ← args.get? "textDocument"
  let uri ← document.get? "uri"
  uri.str?

/-- What follows the last dot, if anything does. -/
def extension? (uri : String) : Option String :=
  match splitLast '.' uri.toList with
  | none => none
  | some (_, []) => none
  | some (_, ext) => some (.ofList ext)

/-- The server that a call names in the given member. -/
def named? (r : Roster) (args : Json.Members) (property : String) : Option Nat :=
  match args.get? property with
  | some (.str name) =>
    if name = "" then none
    else
      match r.findById name with
      | some server => some server
      | none => r.findByLanguage name
  | _ => none

/-- The server for the extension of the document. -/
def inferred? (r : Roster) (args : Json.Members) : Option Nat :=
  match documentUri? args with
  | none => none
  | some uri =>
    match extension? uri with
    | none => none
    | some ext => r.findByExtension ext

/-- The server a call goes to. -/
def select (r : Roster) (args : Json.Members) (property : Option String) : Nat :=
  let explicit :=
    match property with
    | none => none
    | some name => if name = "" then none else named? r args name
  match explicit with
  | some server => server
  | none => (inferred? r args).getD r.default

end LspGateway.Routing
