import LspGateway.Path
import LspGateway.Text.Utf8
import LspGateway.Uri.Parts

/-! # File URIs

An absolute path and the `file://` URI that names it. In the URI every byte
outside a small set of ASCII characters is written as a percent sign and two
hexadecimal digits; reading undoes this, and takes a text that is no such URI as
a path.
-/

namespace LspGateway.Uri
open LspGateway.Text

/-- How a file URI begins. -/
def fileScheme : String := "file://"

/-- How the URI of a document held in memory begins. -/
def memoryScheme : String := "mem://"

/-- Stands for itself in a URI. -/
def isPlain (c : Char) : Bool :=
  c.toNat < 128 && (c.isAlphanum || c = '_' || c = '.' || c = '-' || c = '~' || c = '/')

/-- A capital hexadecimal digit. -/
def hexCapital (n : Nat) : Char := if n < 10 then Char.ofNat (48 + n) else Char.ofNat (55 + n)

/-- A byte as a percent sign and two digits. -/
def percentByte (b : UInt8) : List Char :=
  ['%', hexCapital (b.toNat / 16), hexCapital (b.toNat % 16)]

/-- One character in a URI. -/
def encodeChar (c : Char) : List Char :=
  if isPlain c then [c] else (Utf8.encodeChar c).flatMap percentByte

/-- A text in a URI. -/
def encode (cs : List Char) : List Char := cs.flatMap encodeChar

/-- The bytes of a text in which a percent sign and two digits are a byte. -/
def percentBytes : List Char → List UInt8
  | [] => []
  | '%' :: a :: b :: cs =>
    match hexDigit? a, hexDigit? b with
    | some x, some y => (16 * x + y).toUInt8 :: percentBytes cs
    | _, _ => '%'.toNat.toUInt8 :: percentBytes (a :: b :: cs)
  | c :: cs => Utf8.encodeChar c ++ percentBytes cs

/-- Decodes a text; `run` holds the ASCII characters just passed, last one first. -/
def decodeAux (run : List Char) : List Char → List Char
  | [] => Utf8.decodeLossy (percentBytes run.reverse)
  | c :: cs =>
    if c.toNat < 128 then decodeAux (c :: run) cs
    else Utf8.decodeLossy (percentBytes run.reverse) ++ c :: decodeAux [] cs

/-- The text written in a URI; each run of ASCII characters is read for itself. -/
def decode (cs : List Char) : List Char := decodeAux [] cs

/-- Why a path has no URI. -/
inductive PathFault
  | relative
  deriving DecidableEq, Repr

def PathFault.message : PathFault → String
  | .relative => "relative path can't be expressed as a file URI"

/-- The URI of an absolute path. -/
def ofPath (path : String) : Except PathFault String :=
  let cs := Path.tidyChars path.toList
  if Path.anchor cs = [] then .error .relative
  else .ok (fileScheme ++ .ofList (encode cs))

/-- The absolute path that a file URI names; any other text is a path itself. -/
def toPath (cwd uri : String) : Except HostFault String :=
  let cs := uri.toList
  if startsWith fileScheme.toList cs then
    match Parts.ofChars cs with
    | .error fault => .error fault
    | .ok p => .ok (.ofList (Path.absoluteChars cwd.toList (decode p.path)))
  else .ok (Path.absolute cwd uri)

/-- Names a document held in memory. -/
def isMemory (uri : String) : Bool := startsWith memoryScheme.toList uri.toList

end LspGateway.Uri
