import LspGateway.Text.Digits

/-! # Base 64

Bytes written as characters of an alphabet of sixty-four, four for every three bytes.
Padding ends the last group; any other character stands for nothing.
-/

namespace LspGateway.Text.Base64

/-- The value of a character of the alphabet. -/
def value? (b : UInt8) : Option Nat :=
  let n := b.toNat
  if 65 ≤ n && n ≤ 90 then some (n - 65)
  else if 97 ≤ n && n ≤ 122 then some (n - 71)
  else if 48 ≤ n && n ≤ 57 then some (n + 4)
  else if n = 43 then some 62
  else if n = 47 then some 63
  else none

/-- The mark of padding. -/
def padding : UInt8 := 61

/-- Why a text has no bytes. -/
inductive Fault
  /-- A group of one character; the number of characters is told. -/
  | single (count : Nat)
  | padding
  deriving DecidableEq, Repr

def Fault.message : Fault → String
  | .single count =>
    "Invalid base64-encoded string: number of data characters (" ++ ofNat count ++
      ") cannot be 1 more than a multiple of 4"
  | .padding => "Incorrect padding"

/-- The bytes of the characters of a group; the bits beyond the last byte are dropped. -/
def bytesOf : List Nat → List UInt8
  | [a, b] => [(a * 4 + b / 16).toUInt8]
  | [a, b, c] => [(a * 4 + b / 16).toUInt8, (b % 16 * 16 + c / 4).toUInt8]
  | [a, b, c, d] =>
    [(a * 4 + b / 16).toUInt8, (b % 16 * 16 + c / 4).toUInt8, (c % 4 * 64 + d).toUInt8]
  | _ => []

/-- Reads groups: `group` holds the values of the unfinished one, `pads` counts the
padding since its last character, and `done` the finished groups. -/
def decodeFrom (group : List Nat) (pads done : Nat) : List UInt8 → Except Fault (List UInt8)
  | [] =>
    match group with
    | [] => .ok []
    | [_] => .error (.single (4 * done + 1))
    | _ => .error .padding
  | b :: bs =>
    if b = padding then
      if group.length < 2 then decodeFrom group pads done bs
      else if 4 ≤ group.length + pads + 1 then .ok (bytesOf group)
      else decodeFrom group (pads + 1) done bs
    else
      match value? b with
      | none => decodeFrom group pads done bs
      | some v =>
        let group := group ++ [v]
        if group.length = 4 then
          match decodeFrom [] 0 (done + 1) bs with
          | .ok rest => .ok (bytesOf group ++ rest)
          | .error fault => .error fault
        else decodeFrom group 0 done bs

/-- The bytes that a text stands for. -/
def decode (bs : List UInt8) : Except Fault (List UInt8) := decodeFrom [] 0 0 bs

end LspGateway.Text.Base64
