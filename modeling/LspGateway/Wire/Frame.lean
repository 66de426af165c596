import LspGateway.Json.Printer
import LspGateway.Text.Utf8

/-! # Frames

A message on its way to a language server: a header with the length of the body
in bytes, an empty line, and the body, which is compact JSON.
-/

namespace LspGateway.Wire

/-- The header of a body with the given number of bytes. -/
def header (length : Nat) : List Char :=
  "Content-Length: ".toList ++ (Text.digits 10 length ++ "\r\n\r\n".toList)

/-- The text of a frame. A body is ASCII, so its bytes are as many as its
characters. -/
def frame (message : Json) : List Char :=
  let body := message.write
  header body.length ++ body

/-- The bytes of a text of one-byte characters. -/
def bytes (cs : List Char) : List UInt8 := cs.map fun c => c.toNat.toUInt8

/-- The bytes of a frame. -/
def encode (message : Json) : List UInt8 := bytes (frame message)

/-- The bytes of a frame around any body. -/
def enclose (body : List UInt8) : List UInt8 := bytes (header body.length) ++ body

/-- The bytes of messages written one after another. -/
def encodeAll (messages : List Json) : List UInt8 := messages.flatMap encode

end LspGateway.Wire
