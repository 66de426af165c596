import LspGateway.Json.Parser
import LspGateway.Text.Base64
import LspGateway.Text.Case
import LspGateway.Uri.File
import LspGateway.Uri.Parts

/-! # Addresses of documents

A document may be asked for by the address it can be had from. An address may hold its
document itself; no document is ever fetched from outside, so all there is to say of
other addresses is why they lead to none.
-/

namespace LspGateway.Uri
open LspGateway.Text

/-- Why there is no document at an address. -/
inductive AddressFault
  /-- The address does not say how the document can be had. -/
  | noScheme (address : String)
  | unknownScheme (scheme : String)
  | noHost
  | noFileHost
  | noFile (path : String)
  | nulInPath
  | unreachable
  /-- The address holds a document, but does not say where it begins. -/
  | noData
  | notBase64 (fault : Base64.Fault)
  | notUtf8 (error : Utf8.DecodeError)
  | notJson (error : Json.ParseError)
  deriving DecidableEq, Repr

/-- A failed request in a message. -/
def requestFailed (reason : String) : String := "URLError: <urlopen error " ++ reason ++ ">"

/-- The kind of error that a text is no document for. -/
def documentErrorKind (e : Json.ParseError) : String :=
  match e.fault with
  | .tooDeep _ => "RecursionError: "
  | .tooManyDigits _ => "ValueError: "
  | _ => "JSONDecodeError: "

def AddressFault.message : AddressFault → String
  | .noScheme address => "ValueError: unknown url type: " ++ quoted address
  | .unknownScheme scheme => requestFailed ("unknown url type: " ++ scheme)
  | .noHost => requestFailed "no host given"
  | .noFileHost => requestFailed "ftp error: no host given"
  | .noFile path => requestFailed ("[Errno 2] No such file or directory: " ++ quoted path)
  | .nulInPath => "ValueError: embedded null byte"
  | .unreachable => requestFailed "[Errno -3] Temporary failure in name resolution"
  | .noData => "ValueError: not enough values to unpack (expected 2, got 1)"
  | .notBase64 fault => "Error: " ++ fault.message
  | .notUtf8 e => "UnicodeDecodeError: " ++ e.message
  | .notJson e => documentErrorKind e ++ e.message

/-- A text without the blanks at its ends. -/
def stripped (cs : List Char) : List Char := dropEndWhile isBlank (cs.dropWhile isBlank)

/-- An address without the brackets and the mark that may stand around it. -/
def unwrap (cs : List Char) : List Char :=
  let cs := stripped cs
  let cs :=
    match cs with
    | '<' :: rest => if cs.getLast? = some '>' then stripped rest.dropLast else cs
    | _ => cs
  if startsWith "URL:".toList cs then stripped (cs.drop 4) else cs

/-- The host after two slashes, and the path. -/
def hostAndPath (cs : List Char) : List Char × List Char :=
  match cs with
  | '/' :: '/' :: rest =>
    let path := rest.dropWhile (!endsHost ·)
    (rest.takeWhile (!endsHost ·),
      if path.isEmpty || path.head? = some '/' then path else '/' :: path)
  | _ => ([], cs)

/-- The document that follows the colon of an address. -/
def heldDocument (cs : List Char) : Except AddressFault Json :=
  match splitFirst ',' cs with
  | none => .error .noData
  | some (kind, data) => do
    let bytes := percentBytes data
    let bytes ←
      if startsWith ";base64".toList.reverse kind.reverse then
        match Base64.decode bytes with
        | .ok bytes => pure bytes
        | .error fault => throw (.notBase64 fault)
      else pure bytes
    match Utf8.decode bytes with
    | .error e => throw (.notUtf8 e)
    | .ok text =>
      match Json.parse text with
      | .ok j => pure j
      | .error e => throw (.notJson e)

/-- The document at an address. -/
def documentAt (cs : List Char) : Except AddressFault Json :=
  let address := unwrap cs
  let scheme := address.takeWhile fun c => c != '/' && c != ':'
  match address.drop scheme.length with
  | ':' :: rest =>
    if scheme.isEmpty then .error (.noScheme (.ofList address))
    else
      let (host, path) := hostAndPath rest
      match lower (.ofList scheme) with
      | "http" | "https" => .error (if host.isEmpty then .noHost else .unreachable)
      | "ftp" => .error (if host.isEmpty then .noFileHost else .unreachable)
      | "file" =>
        let path := decode path
        .error (if path.contains (Char.ofNat 0) then .nulInPath else .noFile (.ofList path))
      | "data" => heldDocument rest
      | other => .error (.unknownScheme other)
  | _ => .error (.noScheme (.ofList address))

end LspGateway.Uri
