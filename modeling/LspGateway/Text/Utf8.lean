import LspGateway.Text.Digits

/-! # UTF-8

Characters as bytes and back. Bytes are first cut into pieces, each a whole
character or a run that no character starts with; strict reading stops at the
first bad run, lenient reading puts one replacement character for each.
-/

namespace LspGateway.Text.Utf8

/-- The bytes of one character. -/
def encodeChar (c : Char) : List UInt8 :=
  let n := c.toNat
  if n < 0x80 then [n.toUInt8]
  else if n < 0x800 then [(0xC0 + n / 64).toUInt8, (0x80 + n % 64).toUInt8]
  else if n < 0x10000 then
    [(0xE0 + n / 4096).toUInt8, (0x80 + n / 64 % 64).toUInt8, (0x80 + n % 64).toUInt8]
  else
    [(0xF0 + n / 262144).toUInt8, (0x80 + n / 4096 % 64).toUInt8,
      (0x80 + n / 64 % 64).toUInt8, (0x80 + n % 64).toUInt8]

/-- The bytes of a text. -/
def encode (s : String) : List UInt8 := s.toList.flatMap encodeChar

/-- What is wrong with a run of bytes. -/
inductive Fault
  | startByte
  | continuationByte
  | truncated
  deriving DecidableEq, Repr

/-- A whole character, or a run of bytes that no character starts with. -/
inductive Piece
  | char (c : Char)
  | bad (fault : Fault) (bytes : List UInt8)
  deriving DecidableEq, Repr

/-- How many bytes follow a lead byte, and the bounds of the first of them. -/
def follow? (b : Nat) : Option (Nat × Nat × Nat) :=
  if 0xC2 ≤ b && b ≤ 0xDF then some (1, 0x80, 0xBF)
  else if b == 0xE0 then some (2, 0xA0, 0xBF)
  else if b == 0xED then some (2, 0x80, 0x9F)
  else if 0xE1 ≤ b && b ≤ 0xEF then some (2, 0x80, 0xBF)
  else if b == 0xF0 then some (3, 0x90, 0xBF)
  else if 0xF1 ≤ b && b ≤ 0xF3 then some (3, 0x80, 0xBF)
  else if b == 0xF4 then some (3, 0x80, 0x8F)
  else none

/-- A byte that only goes on with a character. -/
def isTail (b : UInt8) : Bool := 0x80 ≤ b.toNat && b.toNat ≤ 0xBF

/-- What such a byte adds to the character. -/
def tailBits (b : UInt8) : Nat := b.toNat % 64

/-- The bytes cut into characters and bad runs. -/
def pieces : List UInt8 → List Piece
  | [] => []
  | b :: bs =>
    if b.toNat < 0x80 then .char (Char.ofNat b.toNat) :: pieces bs
    else
      match follow? b.toNat with
      | none => .bad .startByte [b] :: pieces bs
      | some (n, lo, hi) =>
        match bs with
        | [] => [.bad .truncated [b]]
        | b₁ :: bs₁ =>
          if b₁.toNat < lo || hi < b₁.toNat then
            .bad .continuationByte [b] :: pieces (b₁ :: bs₁)
          else if n == 1 then
            .char (Char.ofNat (b.toNat % 32 * 64 + tailBits b₁)) :: pieces bs₁
          else
            match bs₁ with
            | [] => [.bad .truncated [b, b₁]]
            | b₂ :: bs₂ =>
              if !isTail b₂ then .bad .continuationByte [b, b₁] :: pieces (b₂ :: bs₂)
              else if n == 2 then
                .char (Char.ofNat ((b.toNat % 16 * 64 + tailBits b₁) * 64 + tailBits b₂)) ::
                  pieces bs₂
              else
                match bs₂ with
                | [] => [.bad .truncated [b, b₁, b₂]]
                | b₃ :: bs₃ =>
                  if !isTail b₃ then
                    .bad .continuationByte [b, b₁, b₂] :: pieces (b₃ :: bs₃)
                  else
                    .char (Char.ofNat (((b.toNat % 8 * 64 + tailBits b₁) * 64 +
                      tailBits b₂) * 64 + tailBits b₃)) :: pieces bs₃

/-- The first bad run of a byte string: its place, its bytes and its fault. -/
structure DecodeError where
  fault : Fault
  start : Nat
  bytes : List UInt8
  deriving DecidableEq, Repr

def Fault.message : Fault → String
  | .startByte => "invalid start byte"
  | .continuationByte => "invalid continuation byte"
  | .truncated => "unexpected end of data"

def DecodeError.message (e : DecodeError) : String :=
  match e.bytes with
  | [b] =>
    "'utf-8' codec can't decode byte 0x" ++ hex 2 b.toNat ++ " in position " ++
      ofNat e.start ++ ": " ++ e.fault.message
  | bs =>
    "'utf-8' codec can't decode bytes in position " ++ ofNat e.start ++ "-" ++
      ofNat (e.start + bs.length - 1) ++ ": " ++ e.fault.message

/-- The characters of pieces that start at byte `pos`, up to the first bad run. -/
def join (pos : Nat) : List Piece → Except DecodeError (List Char)
  | [] => .ok []
  | .char c :: ps =>
    match join (pos + (encodeChar c).length) ps with
    | .ok cs => .ok (c :: cs)
    | .error e => .error e
  | .bad fault bytes :: _ => .error ⟨fault, pos, bytes⟩

/-- The text of a byte string that is UTF-8 throughout. -/
def decode (bs : List UInt8) : Except DecodeError (List Char) := join 0 (pieces bs)

/-- The text of any byte string, with a replacement character for each bad run. -/
def decodeLossy (bs : List UInt8) : List Char :=
  (pieces bs).map fun
    | .char c => c
    | .bad _ _ => Char.ofNat 0xFFFD

end LspGateway.Text.Utf8
