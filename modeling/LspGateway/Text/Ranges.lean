import LspGateway.Text.Digits

/-! # Ranges of code points

Sets of characters as ranges in ascending order, written in hexadecimal with a hyphen
between the first and the last code point of each.
-/

namespace LspGateway.Text

/-- Ranges of code points, in ascending order. -/
structure Ranges where
  bounds : Array (Nat × Nat)
  deriving Repr

namespace Ranges

/-- The number that hexadecimal digits stand for. -/
def number (cs : List Char) : Nat := (cs.filterMap hexDigit?).foldl (fun n d => 16 * n + d) 0

/-- The pieces of a text between blanks and line ends. -/
def words (s : String) : List (List Char) :=
  ((pieces '\n' s.toList).flatMap (pieces ' ')).filter (!·.isEmpty)

/-- The range of a word: one code point, or two with a hyphen between them. -/
def range (cs : List Char) : Nat × Nat :=
  match splitFirst '-' cs with
  | some (low, high) => (number low, number high)
  | none => (number cs, number cs)

/-- The ranges of a text. -/
def ofText (s : String) : Ranges := ⟨((words s).map range).toArray⟩

/-- The place of the last pair of an array that starts at most at a number, looked for
from `low` to before `high`. -/
def place? {α : Type} (key : α → Nat) (xs : Array α) (n low high : Nat) : Option α :=
  if low < high then
    let middle := (low + high) / 2
    match xs[middle]? with
    | some x => if key x ≤ n then (place? key xs n (middle + 1) high).or (some x)
      else place? key xs n low middle
    | none => none
  else none
termination_by high - low
decreasing_by all_goals omega

/-- Whether a code point lies in one of the ranges. -/
def contains (r : Ranges) (n : Nat) : Bool :=
  match place? (·.1) r.bounds n 0 r.bounds.size with
  | some (_, last) => n ≤ last
  | none => false

end Ranges

/-- Values of ranges of code points, in ascending order. -/
structure RangeMap (α : Type) where
  entries : Array (Nat × Nat × α)
  deriving Repr

namespace RangeMap

variable {α : Type}

/-- The values of the ranges of several texts. -/
def ofList (texts : List (α × String)) : RangeMap α :=
  let entries := texts.flatMap fun (a, s) =>
    (Ranges.words s).map fun word => ((Ranges.range word).1, (Ranges.range word).2, a)
  ⟨(entries.mergeSort fun x y => x.1 ≤ y.1).toArray⟩

/-- The value of the range that a code point lies in. -/
def find? (m : RangeMap α) (n : Nat) : Option α :=
  match Ranges.place? (·.1) m.entries n 0 m.entries.size with
  | some (_, last, a) => if n ≤ last then some a else none
  | none => none

end RangeMap

end LspGateway.Text
