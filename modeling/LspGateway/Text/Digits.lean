import LspGateway.Text.Blank

/-! # Numbers in text

Natural numbers written in decimal or hexadecimal, and the reading of an
integer that a person or a program wrote: blanks around it, a sign, digits of
any script, and single underscores between digits. Each script's ten digits stand in a
row, so the code point of its zero is enough.
-/

namespace LspGateway.Text.DigitTable

/-- The code points of the zeros, in ascending order. -/
def zeros : List Nat := [
  0x30, 0x660, 0x6F0, 0x7C0, 0x966, 0x9E6, 0xA66, 0xAE6, 0xB66, 0xBE6,
  0xC66, 0xCE6, 0xD66, 0xDE6, 0xE50, 0xED0, 0xF20, 0x1040, 0x1090, 0x17E0,
  0x1810, 0x1946, 0x19D0, 0x1A80, 0x1A90, 0x1B50, 0x1BB0, 0x1C40, 0x1C50, 0xA620,
  0xA8D0, 0xA900, 0xA9D0, 0xA9F0, 0xAA50, 0xABF0, 0xFF10, 0x104A0, 0x10D30, 0x11066,
  0x110F0, 0x11136, 0x111D0, 0x112F0, 0x11450, 0x114D0, 0x11650, 0x116C0, 0x11730, 0x118E0,
  0x11950, 0x11C50, 0x11D50, 0x11DA0, 0x16A60, 0x16AC0, 0x16B50, 0x1D7CE, 0x1D7D8, 0x1D7E2,
  0x1D7EC, 0x1D7F6, 0x1E140, 0x1E2F0, 0x1E950, 0x1FBF0]

end LspGateway.Text.DigitTable

namespace LspGateway.Text

/-- The digit of a value below sixteen. -/
def digitChar (n : Nat) : Char :=
  if n < 10 then Char.ofNat (48 + n) else Char.ofNat (87 + n)

/-- The digits of `n` in the given base, most significant first; one digit more
of `fuel` than the number has is enough. -/
def digitsAux (base : Nat) : Nat → Nat → List Char → List Char
  | 0, _, acc => acc
  | fuel + 1, n, acc =>
    if n < base then digitChar n :: acc
    else digitsAux base fuel (n / base) (digitChar (n % base) :: acc)

/-- The digits of `n` in the given base. -/
def digits (base n : Nat) : List Char := digitsAux base (Nat.log2 n + 1) n []

/-- The number in decimal. -/
def ofNat (n : Nat) : String := .ofList (digits 10 n)

/-- The integer in decimal, with a minus sign if it is negative. -/
def ofInt : Int → String
  | .ofNat n => ofNat n
  | .negSucc n => "-" ++ ofNat (n + 1)

/-- The number in hexadecimal with at least `width` digits. -/
def hex (width n : Nat) : String :=
  let ds := digits 16 n
  .ofList (List.replicate (width - ds.length) '0' ++ ds)

/-- The value of an ASCII decimal digit. -/
def digit? (c : Char) : Option Nat :=
  if '0' ≤ c && c ≤ '9' then some (c.toNat - 48) else none

/-- The value of a hexadecimal digit. -/
def hexDigit? (c : Char) : Option Nat :=
  if '0' ≤ c && c ≤ '9' then some (c.toNat - 48)
  else if 'a' ≤ c && c ≤ 'f' then some (c.toNat - 87)
  else if 'A' ≤ c && c ≤ 'F' then some (c.toNat - 55)
  else none

/-- The value of a decimal digit of any script. -/
def anyDigit? (c : Char) : Option Nat :=
  if c.toNat < 128 then digit? c
  else (DigitTable.zeros.find? fun z => z ≤ c.toNat && c.toNat ≤ z + 9).map (c.toNat - ·)

/-- Why a text is not read as an integer. -/
inductive IntegerFault
  | malformed
  | tooLong (count : Nat)
  deriving DecidableEq, Repr

/-- An integer has at most this many digits. -/
def maxDigits : Nat := 4300

/-- The digits of a text that starts with one and separates them by single
underscores only. -/
def digitRun : List Char → Option (List Nat)
  | [] => none
  | c :: cs =>
    match anyDigit? c with
    | none => none
    | some d =>
      match cs with
      | [] => some [d]
      | '_' :: rest => (digitRun rest).map (d :: ·)
      | next :: rest => (digitRun (next :: rest)).map (d :: ·)

/-- The number with these digits. -/
def ofDigits (ds : List Nat) : Nat := ds.foldl (fun n d => 10 * n + d) 0

/-- Blanks that may stand around a number: all but the separators among the control
characters. -/
def isPadding (c : Char) : Bool := isBlank c && !(28 ≤ c.toNat && c.toNat ≤ 31)

/-- A digit, or an underscore that may stand between digits. -/
def isDigitPart (c : Char) : Bool := c = '_' || (anyDigit? c).isSome

/-- Reads an integer with blanks around it, an optional sign, digits of any
script and single underscores between digits. Too many digits are reported whatever
follows them. -/
def readInt (s : String) : Except IntegerFault Int :=
  let cs := s.toList.dropWhile isPadding
  let (negative, body) :=
    match cs with
    | '-' :: rest => (true, rest)
    | '+' :: rest => (false, rest)
    | _ => (false, cs)
  match digitRun (body.takeWhile isDigitPart) with
  | none => .error .malformed
  | some ds =>
    if maxDigits < ds.length then .error (.tooLong ds.length)
    else if (body.dropWhile isDigitPart).all isPadding then
      let n := ofDigits ds
      .ok (if negative then -(n : Int) else n)
    else .error .malformed

end LspGateway.Text
