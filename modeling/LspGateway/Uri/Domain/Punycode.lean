import LspGateway.Text.Blank

/-! # Domains in ASCII

A part of a domain may be written in ASCII: first its ASCII characters, then, after the
last hyphen, numbers that tell which other characters come where. A number is written in
letters and digits; how many of them it takes depends on the numbers before.
-/

namespace LspGateway.Uri.Domain
open LspGateway.Text

/-- The value of a small letter or a digit. -/
def digitValue? (c : Char) : Option Nat :=
  if 'a' ≤ c && c ≤ 'z' then some (c.toNat - 97)
  else if '0' ≤ c && c ≤ '9' then some (c.toNat - 48 + 26)
  else none

/-- The number of values that a digit has. -/
def digitCount : Nat := 36

/-- The value from which on a digit at a place is not the last of its number. -/
def threshold (place bias : Nat) : Nat :=
  if place ≤ bias then 1 else min 26 (place - bias)

/-- Divides a distance until it is small, and counts how often. The fuel bounds the
divisions. -/
def shrink : Nat → Nat → Nat → Nat × Nat
  | 0, distance, count => (distance, count)
  | fuel + 1, distance, count =>
    if 455 < distance then shrink fuel (distance / 35) (count + 1) else (distance, count)

/-- The bias after a distance, given the number of characters and whether it is the
first. -/
def biasAfter (distance count : Nat) (isFirst : Bool) : Nat :=
  let distance := if isFirst then distance / 700 else distance / 2
  let (distance, rounds) := shrink 64 (distance + distance / count) 0
  rounds * digitCount + digitCount * distance / (distance + 38)

/-- The number at the start of a text, and what follows it. -/
def readNumber? (bias place weight sum : Nat) : List Char → Option (Nat × List Char)
  | [] => none
  | c :: cs => do
    let digit ← digitValue? c
    let sum := sum + digit * weight
    let limit := threshold place bias
    if digit < limit then pure (sum, cs)
    else readNumber? bias (place + digitCount) (weight * (digitCount - limit)) sum cs

/-- What is known while characters are put into their places. -/
structure Insertion where
  code : Nat
  place : Nat
  bias : Nat
  isFirst : Bool
  codes : List Nat
  deriving Repr

/-- Puts the character that a number tells of into its place. -/
def Insertion.insert? (s : Insertion) (distance : Nat) : Option Insertion :=
  let count := s.codes.length + 1
  let place := s.place + distance
  let code := s.code + place / count
  if (Nat.isValidChar code : Prop) then
    some ⟨code, place % count + 1, biasAfter distance count s.isFirst, false,
      s.codes.insertIdx (place % count) code⟩
  else none

/-- Reads numbers to the end of a text. The fuel bounds their number. -/
def insertAll : Nat → Insertion → List Char → Option (List Nat)
  | _, s, [] => some s.codes
  | 0, _, _ => none
  | fuel + 1, s, cs => do
    let (distance, rest) ← readNumber? s.bias digitCount 1 0 cs
    insertAll fuel (← s.insert? distance) rest

/-- The characters that are written in ASCII. -/
def decode? (cs : List Char) : Option (List Nat) :=
  let (before, numbers) :=
    match splitLast '-' cs with
    | some ([], _) => ([], cs)
    | some (before, numbers) => (before, numbers)
    | none => ([], cs)
  insertAll numbers.length ⟨128, 0, 72, true, before.map Char.toNat⟩ numbers

end LspGateway.Uri.Domain
