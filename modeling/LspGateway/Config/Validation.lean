import LspGateway.Config.Basic
import LspGateway.Json.Basic
import LspGateway.Text.Digits

/-! # Reading a configuration from JSON

Every fault is reported, not only the first: a field's faults carry the path that
leads to it, and faults come field by field.
-/

namespace LspGateway.Config
open LspGateway.Text

/-- One step of the path to a faulty element. -/
inductive Place
  | field (name : String)
  | index (n : Nat)
  deriving DecidableEq, Repr

/-- What is wrong with an element. -/
inductive IssueKind
  | missing
  | notString
  | notList
  | notServer
  | noServers
  | blank
  deriving DecidableEq, Repr

/-- A faulty element of a configuration. -/
structure Issue where
  path : List Place
  kind : IssueKind
  deriving DecidableEq, Repr

/-- A value read from JSON, or all its faults. -/
abbrev Reading (α : Type) := Except (List Issue) α

/-- An element's faults seen from the value that holds it. -/
def Reading.under {α : Type} (place : Place) : Reading α → Reading α
  | .ok a => .ok a
  | .error issues => .error (issues.map fun i => ⟨place :: i.path, i.kind⟩)

/-- Both readings, or the faults of both. -/
def Reading.both {α β : Type} : Reading α → Reading β → Reading (α × β)
  | .ok a, .ok b => .ok (a, b)
  | .ok _, .error js => .error js
  | .error is, .ok _ => .error is
  | .error is, .error js => .error (is ++ js)

/-- A reading that fails on the value itself. -/
def fault {α : Type} (kind : IssueKind) : Reading α := .error [⟨[], kind⟩]

/-- Reads a text. -/
def readString : Json → Reading String
  | .str s => .ok s
  | _ => fault .notString

/-- A string that is more than blanks. -/
def readName (j : Json) : Reading String :=
  match readString j with
  | .ok s => if allBlank s then fault .blank else .ok s
  | .error issues => .error issues

/-- The items from place `n` on. -/
def readItems {α : Type} (read : Json → Reading α) (n : Nat) : List Json → Reading (List α)
  | [] => .ok []
  | j :: js =>
    match (Reading.under (.index n) (read j)).both (readItems read (n + 1) js) with
    | .ok (a, as) => .ok (a :: as)
    | .error issues => .error issues

/-- Reads a list. -/
def readList {α : Type} (read : Json → Reading α) : Json → Reading (List α)
  | .arr js => readItems read 0 js
  | _ => fault .notList

/-- A value that may be null. -/
def readOptional {α : Type} (read : Json → Reading α) : Json → Reading (Option α)
  | .null => .ok none
  | j =>
    match read j with
    | .ok a => .ok (some a)
    | .error issues => .error issues

/-- A member that must be there. -/
def required {α : Type} (ms : Json.Members) (name : String) (read : Json → Reading α) : Reading α :=
  match ms.get? name with
  | some j => Reading.under (.field name) (read j)
  | none => .error [⟨[.field name], .missing⟩]

/-- A member with a value for its absence. -/
def withDefault {α : Type} (ms : Json.Members) (name : String) (absent : α)
    (read : Json → Reading α) : Reading α :=
  match ms.get? name with
  | some j => Reading.under (.field name) (read j)
  | none => .ok absent

/-- The extensions of a server, each without its leading dots. -/
def readExtensions (j : Json) : Reading (List String) :=
  match readList readString j with
  | .ok xs => .ok (xs.map stripDots)
  | .error issues => .error issues

/-- A server from the members of an object. -/
def serverOfMembers (ms : Json.Members) : Reading ServerConfig :=
  let fields :=
    (required ms "id" readName).both <|
    (withDefault ms "languages" [] (readList readString)).both <|
    (withDefault ms "extensions" [] readExtensions).both <|
    (required ms "command" readName).both <|
    withDefault ms "args" [] (readList readString)
  match fields with
  | .ok (id, languages, extensions, command, args) =>
    .ok ⟨id, languages, extensions, command, args⟩
  | .error issues => .error issues

/-- Reads a server. -/
def readServer : Json → Reading ServerConfig
  | .obj ms => serverOfMembers ms
  | _ => fault .notServer

/-- The servers; there must be one. -/
def readServers (j : Json) : Reading (List ServerConfig) :=
  match readList readServer j with
  | .ok [] => fault .noServers
  | .ok servers => .ok servers
  | .error issues => .error issues

/-- A configuration from the members of an object. -/
def ofMembers (ms : Json.Members) : Reading Config :=
  let fields :=
    (required ms "lsps" readServers).both <|
    (withDefault ms "methods" none (readOptional (readList readString))).both <|
    (withDefault ms "workspace" none (readOptional readString)).both <|
    withDefault ms "resources_dir" none (readOptional readString)
  match fields with
  | .ok (servers, methods, workspace, resources) => .ok ⟨servers, methods, workspace, resources⟩
  | .error issues => .error issues

/-- The name of a kind of issue. -/
def IssueKind.name : IssueKind → String
  | .missing => "missing"
  | .notString => "string_type"
  | .notList => "list_type"
  | .notServer => "model_type"
  | .noServers => "too_short"
  | .blank => "value_error"

/-- The text of a kind of issue. -/
def IssueKind.message : IssueKind → String
  | .missing => "Field required"
  | .notString => "Input should be a valid string"
  | .notList => "Input should be a valid list"
  | .notServer => "Input should be a valid dictionary or instance of LSPServerConfig"
  | .noServers => "List should have at least 1 item after validation, not 0"
  | .blank => "Value error, must not be empty"

/-- How many faults there are. -/
def summary (title : String) (issues : List Issue) : String :=
  ofNat issues.length ++ " validation error" ++ (if issues.length = 1 then "" else "s") ++
    " for " ++ title

end LspGateway.Config
