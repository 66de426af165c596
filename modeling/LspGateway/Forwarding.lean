import LspGateway.Files
import LspGateway.Json.Basic
import LspGateway.Language
import LspGateway.Uri.File

/-! # Forwarding

A call becomes a request to a language server. If it is about a document in a
file, the file is read first and the server is told its contents, so that the
request finds the document open.
-/

namespace LspGateway

/-- Something sent to a language server. Null parameters are not sent. -/
inductive Send
  | notify (method : String) (params : Json)
  | request (method : String) (params : Json)
  deriving DecidableEq, Repr

namespace Forwarding

/-- Why a call is not forwarded. -/
inductive Error
  | badUri (fault : Uri.HostFault)
  | badPath (fault : Uri.PathFault)
  | unopened (path : String) (error : FileError)
  | nulInPath
  | notUtf8 (error : Text.Utf8.DecodeError)
  deriving DecidableEq, Repr

def Error.message : Error → String
  | .badUri fault => fault.message
  | .badPath fault => fault.message
  | .unopened path e => "Failed to read file " ++ path ++ ": " ++ e.message
  | .nulInPath => ReadError.nulInPath.message
  | .notUtf8 e => e.message

/-- The text of a document. -/
def readDocument (fs : Files) (path : String) : Except Error String :=
  match fs.read path with
  | .ok cs => .ok (.ofList cs)
  | .error (.unopened e) => .error (.unopened path e)
  | .error .nulInPath => .error .nulInPath
  | .error (.notUtf8 e) => .error (.notUtf8 e)

/-- The method that tells a server of an open document. -/
def openMethod : String := "textDocument/didOpen"

/-- Tells a server for the given languages the contents of a document. -/
def opening (languages : List String) (uri contents : String) : Send :=
  .notify openMethod (.obj [("textDocument", .obj [
    ("uri", .str uri), ("languageId", .str (Language.ofDocument languages uri)),
    ("version", .int 1), ("text", .str contents)])])

/-- The document in a file that a call is about, with the members that name it. -/
def fileDocument? (args : Json.Members) : Option (Json.Members × String) :=
  match args.get? "textDocument" with
  | some (.obj document) =>
    match Json.Members.get? document "uri" with
    | some (.str uri) => if uri = "" || Uri.isMemory uri then none else some (document, uri)
    | _ => none
  | _ => none

/-- What is sent for a call of a method. -/
def sends (fs : Files) (languages : List String) (method : String) (args : Json.Members) :
    Except Error (List Send) :=
  match fileDocument? args with
  | none => .ok [.request method (.obj args)]
  | some (document, uri) =>
    match Uri.toPath fs.cwd uri with
    | .error fault => .error (.badUri fault)
    | .ok path =>
      match Uri.ofPath path with
      | .error fault => .error (.badPath fault)
      | .ok canonical =>
        match readDocument fs path with
        | .error e => .error e
        | .ok contents =>
          let named := Json.obj (Json.Members.set document "uri" (.str canonical))
          .ok [opening languages canonical contents,
            .request method (.obj (args.set "textDocument" named))]

end Forwarding

end LspGateway
