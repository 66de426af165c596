import LspGateway.Pattern.Reader
import LspGateway.Text.CharacterName

/-! # Escapes

What a backslash and the characters after it stand for: a character by its number or its
name, a kind of characters, a place, or what a group took.
-/

namespace LspGateway.Pattern
open LspGateway.Text

/-- The code point of a letter after a backslash that stands for a control. -/
def controlEscape? (c : Char) : Option Nat :=
  match c with
  | 'a' => some 7
  | 'b' => some 8
  | 'f' => some 12
  | 'n' => some 10
  | 'r' => some 13
  | 't' => some 9
  | 'v' => some 11
  | '\\' => some 92
  | _ => none

/-- The kind of characters of a letter after a backslash, and whether all others are
meant. -/
def kindEscape? (c : Char) : Option (Kind × Bool) :=
  match c with
  | 'd' => some (.digit, false)
  | 'D' => some (.digit, true)
  | 's' => some (.space, false)
  | 'S' => some (.space, true)
  | 'w' => some (.word, false)
  | 'W' => some (.word, true)
  | _ => none

/-- The place of a letter after a backslash. -/
def placeEscape? (ascii : Bool) (c : Char) : Option Place :=
  match c with
  | 'A' => some .textStart
  | 'Z' => some .textEnd
  | 'b' => some (.wordBoundary false ascii)
  | 'B' => some (.wordBoundary true ascii)
  | _ => none

/-- A hexadecimal digit. -/
def isHex (c : Char) : Bool := (hexDigit? c).isSome

/-- An octal digit. -/
def isOctal (c : Char) : Bool := '0' ≤ c && c ≤ '7'

/-- The number of octal digits. -/
def ofOctal (cs : List Char) : Nat := (cs.filterMap digit?).foldl (fun n d => 8 * n + d) 0

/-- The greatest number that octal digits may have. -/
def greatestOctal : Nat := 255

/-- The number of code points. -/
def codePoints : Nat := 0x110000

namespace Reading

/-- A broken rule about an escape, whose text is told. -/
def failEscape {α : Type} (trouble : String → Trouble) (cs : List Char) : Reading α :=
  fail (trouble (.ofList ('\\' :: cs))) (cs.length + 1)

/-- The code point of so many hexadecimal digits after a letter. -/
def hexEscape (c : Char) (count : Nat) : Reading Nat := do
  let ds ← upTo isHex count
  let n := (ds.filterMap hexDigit?).foldl (fun n d => 16 * n + d) 0
  if ds.length ≠ count then failEscape .incompleteEscape (c :: ds)
  else if codePoints ≤ n then failEscape .badEscape (c :: ds)
  else pure n

/-- The code point of the character that is named between braces. -/
def nameEscape : Reading Nat := do
  if !(← accept '\x7b') then fail (.missing .nameBrace) 0
  else
    let cs ← name '\x7d' .characterName
    match CharacterName.code? cs with
    | some n => pure n
    | none => fail (.undefinedName (.ofList cs)) (cs.length + 4)

/-- The code point of a letter that is followed by a number or a name, or of a mark that
stands for itself. -/
def otherEscape (c : Char) : Reading Nat :=
  match c with
  | 'x' => hexEscape 'x' 2
  | 'u' => hexEscape 'u' 4
  | 'U' => hexEscape 'U' 8
  | 'N' => nameEscape
  | _ => if c.isAlphanum then failEscape .badEscape [c] else pure c.toNat

/-- The code point of octal digits. -/
def octalEscape (cs : List Char) : Reading Nat :=
  if greatestOctal < ofOctal cs then failEscape .octalTooLarge cs else pure (ofOctal cs)

/-- The member of a set that a backslash and a character stand for. -/
def setEscape (c : Char) : Reading Member := do
  match controlEscape? c, kindEscape? c with
  | some n, _ => pure (.one n)
  | none, some (kind, negated) => pure (.kind kind negated)
  | none, none =>
    if isOctal c then pure (.one (← octalEscape (c :: (← upTo isOctal 2))))
    else pure (.one (← otherEscape c))

/-- A reference to a group, whose digits are told. -/
def groupEscape (mode : Mode) (cs : List Char) : Reading Pattern := do
  let number := ofDigits (cs.filterMap digit?)
  if (← get).groups < number then fail (.invalidReference number) cs.length
  else if (← closedWidth? number).isNone then fail .openGroup (cs.length + 1)
  else
    checkCondition number
    pure (.recall number mode.letters)

/-- What a digit after a backslash stands for: a code point in octal, or a group. -/
def digitEscape (mode : Mode) (c : Char) : Reading Pattern := do
  if c = '0' then
    pure (.one false mode.letters (ofOctal (← upTo isOctal 2)))
  else if ← digitFollows then
    let second ← mark
    let octals := isOctal c && second.all isOctal
    match ← next with
    | [third] =>
      if octals && isOctal third then
        let _ ← mark
        pure (.one false mode.letters (← octalEscape (c :: second ++ [third])))
      else groupEscape mode (c :: second)
    | _ => groupEscape mode (c :: second)
  else groupEscape mode [c]

/-- What a backslash and a character stand for. -/
def escape (mode : Mode) (c : Char) : Reading Pattern := do
  match placeEscape? mode.ascii c, kindEscape? c, controlEscape? c with
  | some spot, _, _ => pure (.place spot)
  | none, some (kind, negated), _ => pure (.set false mode.letters [.kind kind negated])
  | none, none, some n => pure (.one false mode.letters n)
  | none, none, none =>
    if (digit? c).isSome then digitEscape mode c
    else pure (.one false mode.letters (← otherEscape c))

end Reading

end LspGateway.Pattern
