import LspGateway.Text.NormalTable

/-! # The normal form of a text

A letter with marks may be one character or several, and marks may be written in any order
if they do not touch each other. The normal form has as few characters as possible, in the
one order. It is found by taking the characters apart, putting the marks in order and
putting together again what can be.
-/

namespace LspGateway.Text.Normal

/-- What a code point is made of, and whether the parts are put together again. -/
structure Making where
  whole : Nat
  parts : List Nat
  isReversible : Bool
  deriving Repr

/-- What a word of the table tells of a code point. -/
def Making.ofWord (word : List Char) : Making :=
  let (isMarked, word) :=
    match word with
    | '!' :: rest => (true, rest)
    | word => (false, word)
  let (whole, parts) := (splitFirst '=' word).getD (word, [])
  let parts := (pieces '.' parts).map Ranges.number
  ⟨Ranges.number whole, parts, !isMarked && parts.length = 2⟩

/-- What code points are made of, in ascending order. -/
def makings : Array Making := ((Ranges.words NormalTable.parts).map Making.ofWord).toArray

/-- A pair of code points as one number. -/
def pairKey (a b : Nat) : Nat := a * 0x200000 + b

/-- The pairs that are put together, in ascending order, with what they make. -/
def pairs : Array (Nat × Nat) :=
  let found := makings.toList.filterMap fun m =>
    match m.isReversible, m.parts with
    | true, [a, b] => some (pairKey a b, m.whole)
    | _, _ => none
  (found.mergeSort fun x y => x.1 ≤ y.1).toArray

/-- The classes of marks. -/
def classes : RangeMap Nat := .ofList NormalTable.classes

/-- The class of a code point; what is no mark has none. -/
def classOf (n : Nat) : Nat := (classes.find? n).getD 0

/-- The first of the syllables that are made of two or three letters each. -/
def firstSyllable : Nat := 0xAC00

/-- The first of the letters that a syllable begins with, and the number of them. -/
def firstLead : Nat × Nat := (0x1100, 19)

/-- The first of the letters that follow in a syllable, and the number of them. -/
def firstVowel : Nat × Nat := (0x1161, 21)

/-- The code point before the letters that may end a syllable, and their number and one
more for none. -/
def beforeFinal : Nat × Nat := (0x11A7, 28)

/-- The number of all syllables. -/
def syllableCount : Nat := firstLead.2 * firstVowel.2 * beforeFinal.2

/-- The letters of a syllable. -/
def lettersOf (n : Nat) : List Nat :=
  let place := n - firstSyllable
  let final := place % beforeFinal.2
  let lead := firstLead.1 + place / (firstVowel.2 * beforeFinal.2)
  let vowel := firstVowel.1 + place / beforeFinal.2 % firstVowel.2
  lead :: vowel :: if final = 0 then [] else [beforeFinal.1 + final]

/-- Whether a code point is a syllable of letters. -/
def isSyllable (n : Nat) : Bool := firstSyllable ≤ n && n < firstSyllable + syllableCount

/-- What a code point is made of, taken apart to the end. The fuel bounds the parts within
parts. -/
def apart : Nat → Nat → List Nat
  | 0, n => [n]
  | fuel + 1, n =>
    if isSyllable n then lettersOf n
    else
      match Ranges.place? Making.whole makings n 0 makings.size with
      | some m => if m.whole = n then m.parts.flatMap (apart fuel) else [n]
      | none => [n]

/-- Puts a mark into its place among those before it, the last one first. -/
def insertMark (n : Nat) : List Nat → List Nat
  | [] => [n]
  | m :: before =>
    if classOf n ≠ 0 && classOf n < classOf m then m :: insertMark n before else n :: m :: before

/-- Puts the marks upon each letter in order. -/
def inOrder (ns : List Nat) : List Nat :=
  (ns.foldl (fun before n => insertMark n before) []).reverse

/-- Whether a code point is one of so many from a first one on. -/
def isFrom (letters : Nat × Nat) (n : Nat) : Bool := letters.1 ≤ n && n < letters.1 + letters.2

/-- What two code points make together. -/
def together? (a b : Nat) : Option Nat :=
  if isFrom firstLead a && isFrom firstVowel b then
    let lead := a - firstLead.1
    let vowel := b - firstVowel.1
    some (firstSyllable + (lead * firstVowel.2 + vowel) * beforeFinal.2)
  else if isSyllable a && (a - firstSyllable) % beforeFinal.2 = 0 && isFrom beforeFinal b &&
      b ≠ beforeFinal.1 then
    some (a + (b - beforeFinal.1))
  else
    match Ranges.place? (·.1) pairs (pairKey a b) 0 pairs.size with
    | some (key, whole) => if key = pairKey a b then some whole else none
    | none => none

/-- Puts a letter together with the marks that follow it, unless one in between is in the
way; `marks` holds those left over, the last one first. -/
def compose (letter : Nat) (marks : List Nat) : List Nat → List Nat
  | [] => letter :: marks.reverse
  | n :: rest =>
    let isFree := marks.head?.all fun m => classOf m < classOf n
    match if isFree then together? letter n else none with
    | some whole => compose whole marks rest
    | none =>
      if classOf n = 0 then letter :: marks.reverse ++ compose n [] rest
      else compose letter (n :: marks) rest

/-- The normal form of a text of code points. -/
def ofCodes (ns : List Nat) : List Nat :=
  let ordered := inOrder (ns.flatMap (apart 4))
  let isMark (n : Nat) : Bool := classOf n ≠ 0
  ordered.takeWhile isMark ++
    match ordered.dropWhile isMark with
    | [] => []
    | n :: rest => compose n [] rest

end LspGateway.Text.Normal
