import LspGateway.Text.Ranges
import LspGateway.Uri.Domain.DirectionTable

/-! # Directions in a domain

Where something in a domain is written from right to left, no part of it may mix the
directions: it starts with a letter of one direction, holds nothing of the other, and ends
with a letter or a digit.
-/

namespace LspGateway.Uri.Domain
open LspGateway.Text

/-- The direction that a character is written in, or what it is beside letters. -/
inductive Direction
  | left
  | right
  | arabic
  | arabicDigit
  | digit
  | sign
  | separator
  | amount
  | other
  | boundary
  | mark
  deriving DecidableEq, Repr

namespace Direction

/-- The directions of the code points that are not written from left to right. -/
def table : RangeMap Direction := .ofList [
  (right, DirectionTable.right),
  (arabic, DirectionTable.arabic),
  (arabicDigit, DirectionTable.arabicDigit),
  (digit, DirectionTable.digit),
  (sign, DirectionTable.sign),
  (separator, DirectionTable.separator),
  (amount, DirectionTable.amount),
  (other, DirectionTable.other),
  (boundary, DirectionTable.boundary),
  (mark, DirectionTable.mark)]

/-- The direction of a code point. -/
def ofCode (n : Nat) : Direction := (table.find? n).getD left

/-- Written from right to left. -/
def isRightToLeft : Direction → Bool
  | right => true
  | arabic => true
  | arabicDigit => true
  | _ => false

/-- The directions of a part of a domain agree with each other. -/
def agree (ds : List Direction) : Bool :=
  let last := (ds.reverse.dropWhile (· = mark)).head?
  match ds.head? with
  | none => true
  | some left =>
    ds.all (fun d => !d.isRightToLeft) && (last = some left || last = some digit)
  | some first =>
    (first = right || first = arabic) && ds.all (· ≠ left) &&
      last.any (fun d => d.isRightToLeft || d = digit) &&
      !(ds.contains digit && ds.contains arabicDigit)

end Direction

/-- The parts of a domain, if nothing in it is written from right to left, or the
directions in each part agree. -/
def directionsAgree (parts : List (List Nat)) : Bool :=
  let directions := parts.map fun part => part.map Direction.ofCode
  !directions.any (fun ds => ds.any Direction.isRightToLeft) || directions.all Direction.agree

end LspGateway.Uri.Domain
