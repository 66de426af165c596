import LspGateway.Config.Basic
import LspGateway.Text.Blank
import LspGateway.Text.Case

/-! # The roster of servers

The configured servers in order, with the indices that find one by id, by
language or by file extension. Case does not count, nor do dots in front of an
extension, and among several claims to one key the first wins.
-/

namespace LspGateway
open LspGateway.Text

/-- Servers by key, each named by its place in the roster. -/
abbrev Index := List (String × Nat)

namespace Index

/-- The server that holds a key. -/
def get? (ix : Index) (key : String) : Option Nat := (ix.find? (·.1 == key)).map (·.2)

/-- Gives a key to a server unless another holds it. -/
def claim (ix : Index) (key : String) (server : Nat) : Index :=
  if (ix.get? key).isSome then ix else ix ++ [(key, server)]

/-- Gives several keys to a server. -/
def claimAll (ix : Index) (keys : List String) (server : Nat) : Index :=
  keys.foldl (fun ix key => ix.claim key server) ix

end Index

/-- The servers and their indices. -/
structure Roster where
  servers : List ServerConfig
  byId : Index
  byLanguage : Index
  byExtension : Index
  deriving Repr

namespace Roster

/-- Why servers form no roster. -/
inductive Fault
  | empty
  | duplicateId (id : String)
  deriving DecidableEq, Repr

def Fault.message : Fault → String
  | .empty => "At least one LSP must be configured"
  | .duplicateId id => "Duplicate LSP id: " ++ id

/-- The form in which extensions are compared. -/
def extensionKey (extension : String) : String := lower (stripDots extension)

/-- Enters one server under its id, its languages and its extensions. -/
def enter (r : Roster) (server : ServerConfig) : Except Fault Roster :=
  let key := lower server.id
  if (r.byId.get? key).isSome then .error (.duplicateId server.id)
  else
    let n := r.servers.length
    .ok ⟨r.servers ++ [server], r.byId.claim key n,
      r.byLanguage.claimAll (server.languages.map lower) n,
      r.byExtension.claimAll (server.extensions.map extensionKey) n⟩

/-- Enters servers one after another. -/
def enterAll (r : Roster) : List ServerConfig → Except Fault Roster
  | [] => .ok r
  | server :: rest =>
    match r.enter server with
    | .error fault => .error fault
    | .ok r => enterAll r rest

/-- The roster of the given servers. Once all extensions are entered, an id that
no extension equals serves as an extension too. -/
def ofServers (servers : List ServerConfig) : Except Fault Roster :=
  match servers with
  | [] => .error .empty
  | _ =>
    match enterAll ⟨[], [], [], []⟩ servers with
    | .error fault => .error fault
    | .ok r =>
      .ok { r with
        byExtension := r.byId.foldl (fun ix (key, server) => ix.claim key server) r.byExtension }

/-- The server with an id. -/
def findById (r : Roster) (id : String) : Option Nat := r.byId.get? (lower id)

/-- The first server for a language. -/
def findByLanguage (r : Roster) (language : String) : Option Nat :=
  r.byLanguage.get? (lower language)

/-- The first server for a file extension. -/
def findByExtension (r : Roster) (extension : String) : Option Nat :=
  r.byExtension.get? (extensionKey extension)

/-- The first server. -/
def default (_ : Roster) : Nat := 0

/-- There is more than one server to choose from. -/
def hasSeveral (r : Roster) : Bool := 1 < r.servers.length

/-- The id of a server. -/
def idOf (r : Roster) (server : Nat) : String := (r.servers[server]?.map (·.id)).getD ""

end Roster

end LspGateway
