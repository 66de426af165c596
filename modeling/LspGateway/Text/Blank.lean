/-! # Blank characters

The characters that may surround a header, an identifier or a number without
belonging to it: the spaces and separators of every script, and the controls
that end a line or a field.
-/

namespace LspGateway.Text

/-- A space, a separator, or a control that ends a line or a field. -/
def isBlank (c : Char) : Bool :=
  let n := c.toNat
  (9 ≤ n && n ≤ 13) || (28 ≤ n && n ≤ 32) || n == 0x85 || n == 0xA0 || n == 0x1680 ||
    (0x2000 ≤ n && n ≤ 0x200A) || n == 0x2028 || n == 0x2029 || n == 0x202F ||
    n == 0x205F || n == 0x3000

theorem isBlank_of_isWhitespace {c : Char} (h : c.isWhitespace = true) : isBlank c = true := by
  simp only [Char.isWhitespace, Bool.or_eq_true, decide_eq_true_eq] at h
  rcases h with ((rfl | rfl) | rfl) | rfl <;> decide

/-- Drops the characters satisfying `p` from the end. -/
def dropEndWhile (p : Char → Bool) (cs : List Char) : List Char :=
  (cs.reverse.dropWhile p).reverse

/-- The text without the blanks at its two ends. -/
def strip (s : String) : String :=
  .ofList (dropEndWhile isBlank (s.toList.dropWhile isBlank))

/-- The text without the blanks at its end. -/
def stripEnd (s : String) : String :=
  .ofList (dropEndWhile isBlank s.toList)

/-- The text without the dots at its start. -/
def stripDots (s : String) : String :=
  .ofList (s.toList.dropWhile (· == '.'))

/-- Blank from end to end, the empty text included. -/
def allBlank (s : String) : Bool := s.toList.all isBlank

/-- The parts on the two sides of the first separator, if there is one. -/
def splitFirst (sep : Char) : List Char → Option (List Char × List Char)
  | [] => none
  | c :: cs =>
    if c = sep then some ([], cs)
    else (splitFirst sep cs).map fun (a, b) => (c :: a, b)

/-- The parts on the two sides of the last separator, if there is one. -/
def splitLast (sep : Char) (cs : List Char) : Option (List Char × List Char) :=
  (splitFirst sep cs.reverse).map fun (a, b) => (b.reverse, a.reverse)

/-- The pieces between separators, the empty ones included. -/
def pieces (sep : Char) : List Char → List (List Char)
  | [] => [[]]
  | c :: cs =>
    if c = sep then [] :: pieces sep cs
    else
      match pieces sep cs with
      | [] => [[c]]
      | p :: ps => (c :: p) :: ps

/-- Whether the first list is the beginning of the second. -/
def startsWith : List Char → List Char → Bool
  | [], _ => true
  | _ :: _, [] => false
  | a :: as, b :: bs => a == b && startsWith as bs

end LspGateway.Text
