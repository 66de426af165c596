import LspGateway.Text.Digits
import LspGateway.Text.NameTable.Alphabets
import LspGateway.Text.NameTable.EastAsian
import LspGateway.Text.NameTable.Others
import LspGateway.Text.NameTable.Supplement
import LspGateway.Text.NameTable.Symbols

/-! # Names of characters

Every character has a name of words in capitals, and some have others beside it. The
names of syllables are spelled from their sounds and those of ideographs end in their
code points; all other names stand in tables.

A table has entries between commas or at line ends. An entry is a name: how many words
it shares with the name before it, in one digit, and its other words. It names the code
point after the one before, unless a code point goes before it, after an at sign.
-/

namespace LspGateway.Text.CharacterName

/-- The words of a text. -/
def wordsOf (cs : List Char) : List (List Char) := pieces ' ' cs

/-- The number that hexadecimal digits stand for. -/
def ofHex (cs : List Char) : Nat := (cs.filterMap hexDigit?).foldl (fun n d => 16 * n + d) 0

/-- The words of an entry after the words of the one before. -/
def wordsAfter (words : List (List Char)) : List Char → List (List Char)
  | shared :: rest => words.take ((hexDigit? shared).getD 0) ++ wordsOf rest
  | [] => words

/-- The code point of a name among entries, which go on after the words of a name with
the given code point. -/
def findIn (name words : List (List Char)) (code : Nat) : List (List Char) → Option Nat
  | [] => none
  | ('@' :: digits) :: rest => findIn name words (ofHex digits) rest
  | text :: rest =>
    let words := wordsAfter words text
    if words == name then some code else findIn name words (code + 1) rest

/-- The code point of a name in the text of a table. -/
def lookIn (name : List (List Char)) (table : String) : Option Nat :=
  findIn name [] 0 ((pieces '\n' table.toList).flatMap (pieces ','))

/-- The first sounds of syllables. -/
def initials : List String :=
  ["G", "GG", "N", "D", "DD", "R", "M", "B", "BB", "S", "SS", "", "J", "JJ", "C", "K", "T", "P",
    "H"]

/-- The vowels of syllables. -/
def vowels : List String :=
  ["A", "AE", "YA", "YAE", "EO", "E", "YEO", "YE", "O", "WA", "WAE", "OE", "YO", "U", "WEO", "WE",
    "WI", "YU", "EU", "YI", "I"]

/-- The last sounds of syllables. -/
def finals : List String :=
  ["", "G", "GG", "GS", "N", "NJ", "NH", "D", "L", "LG", "LM", "LB", "LS", "LT", "LP", "LH", "M",
    "B", "BS", "S", "SS", "NG", "J", "C", "K", "T", "P", "H"]

/-- The longest sound at the start of a text: its place among the sounds, and the rest. -/
def sound? (sounds : List String) (cs : List Char) : Option (Nat × List Char) :=
  let found := sounds.zipIdx.filter fun (s, _) => startsWith s.toList cs
  let longest := found.foldl (fun best (s, i) =>
    match best with
    | some (t, _) => if t.length < s.length then some (s, i) else best
    | none => some (s, i)) (none : Option (String × Nat))
  longest.map fun (s, i) => (i, cs.drop s.length)

/-- The code point of a syllable that is spelled by its sounds. -/
def syllable? (cs : List Char) : Option Nat := do
  let (i, cs) ← sound? initials cs
  let (v, cs) ← sound? vowels cs
  let (f, cs) ← sound? finals cs
  if cs.isEmpty then pure (0xAC00 + (i * 21 + v) * 28 + f) else none

/-- The ranges of the unified ideographs. -/
def ideographs : List (Nat × Nat) := [
  (0x3400, 0x4DBF), (0x4E00, 0x9FFF), (0x20000, 0x2A6DF), (0x2A700, 0x2B738), (0x2B740, 0x2B81D),
  (0x2B820, 0x2CEA1), (0x2CEB0, 0x2EBE0), (0x30000, 0x3134A)]

/-- Other characters whose names end in their code points. -/
def numbered : List (String × List (Nat × Nat)) := [
  ("CJK COMPATIBILITY IDEOGRAPH-", [(0xF900, 0xFA6D), (0xFA70, 0xFAD9), (0x2F800, 0x2FA1D)]),
  ("KHITAN SMALL SCRIPT CHARACTER-", [(0x18B00, 0x18CD5)]),
  ("NUSHU CHARACTER-", [(0x1B170, 0x1B2FB)])]

/-- The code point that a text of four or five hexadecimal capitals is, if it lies in
one of some ranges. -/
def numberIn? (ranges : List (Nat × Nat)) (cs : List Char) : Option Nat :=
  let n := ofHex cs
  let isCapital (c : Char) : Bool := (hexDigit? c).isSome && !('a' ≤ c && c ≤ 'f')
  let isNamed := ranges.any fun (a, b) => a ≤ n && n ≤ b
  if (cs.length = 4 || cs.length = 5) && cs.all isCapital && isNamed then some n else none

/-- What follows the start of a text. -/
def after? (start : String) (cs : List Char) : Option (List Char) :=
  if startsWith start.toList cs then some (cs.drop start.length) else none

/-- The code point of a name whose case does not matter. -/
def listed? (cs : List Char) : Option Nat :=
  let capitals := cs.map Char.toUpper
  let byNumber := numbered.findSome? fun (start, ranges) =>
    ((after? start capitals).filter (·.head? ≠ some '0')).bind (numberIn? ranges)
  let name := wordsOf capitals
  byNumber.or <| [NameTable.others, NameTable.alphabets, NameTable.symbols, NameTable.eastAsian,
    NameTable.supplement].findSome? (lookIn name)

/-- The code point of the character with a name. Syllables and ideographs are named in
capitals only. -/
def code? (cs : List Char) : Option Nat :=
  match after? "HANGUL SYLLABLE " cs, after? "CJK UNIFIED IDEOGRAPH-" cs with
  | some sounds, _ => syllable? sounds
  | none, some digits => numberIn? ideographs digits
  | none, none => listed? cs

end LspGateway.Text.CharacterName
