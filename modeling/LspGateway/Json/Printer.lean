import LspGateway.Json.Basic
import LspGateway.Text.Quoted

/-! # Writing JSON

The compact text sent over the wire, the indented text shown to a person, and
the form a value takes inside a message. The first two are ASCII: any other
character is escaped by its UTF-16 units.
-/

namespace LspGateway.Json

/-- Numbers on the wire: positional from 0.0001 below 10^16. -/
def wireNumber : Binary64.Style := ⟨-3, 16, 2, "Infinity", "NaN"⟩

/-- Numbers inside messages. -/
def plainNumber : Binary64.Style := ⟨-3, 16, 2, "inf", "nan"⟩

private def unitEscape (n : Nat) : List Char := '\\' :: 'u' :: (Text.hex 4 n).toList

/-- One character inside a string. -/
def escapeChar (c : Char) : List Char :=
  if c = '"' then ['\\', '"']
  else if c = '\\' then ['\\', '\\']
  else if c = '\n' then ['\\', 'n']
  else if c = '\r' then ['\\', 'r']
  else if c = '\t' then ['\\', 't']
  else if c.toNat = 8 then ['\\', 'b']
  else if c.toNat = 12 then ['\\', 'f']
  else if 32 ≤ c.toNat && c.toNat < 127 then [c]
  else if c.toNat < 0x10000 then unitEscape c.toNat
  else
    let n := c.toNat - 0x10000
    unitEscape (0xD800 + n / 0x400) ++ unitEscape (0xDC00 + n % 0x400)

/-- A string between double quotes. -/
def writeString (s : String) : List Char :=
  '"' :: (s.toList.flatMap escapeChar ++ ['"'])

/-- A value without parts. -/
def writeAtom : Json → List Char
  | .null => "null".toList
  | .bool true => "true".toList
  | .bool false => "false".toList
  | .int i => (Text.ofInt i).toList
  | .float x => (x.render wireNumber).toList
  | .str s => writeString s
  | .arr _ => []
  | .obj _ => []

mutual

/-- The compact text of a value. -/
def write : Json → List Char
  | .arr [] => ['[', ']']
  | .arr (x :: xs) => '[' :: (write x ++ writeItems xs)
  | .obj [] => ['\x7b', '\x7d']
  | .obj ((k, v) :: ms) =>
    '\x7b' :: (writeString k ++ (':' :: ' ' :: (write v ++ writeMembers ms)))
  | .null => writeAtom .null
  | .bool b => writeAtom (.bool b)
  | .int i => writeAtom (.int i)
  | .float x => writeAtom (.float x)
  | .str s => writeAtom (.str s)

/-- The items after the first, and the closing bracket. -/
def writeItems : List Json → List Char
  | [] => [']']
  | x :: xs => ',' :: ' ' :: (write x ++ writeItems xs)

/-- The members after the first, and the closing brace. -/
def writeMembers : List (String × Json) → List Char
  | [] => ['\x7d']
  | (k, v) :: ms =>
    ',' :: ' ' :: (writeString k ++ (':' :: ' ' :: (write v ++ writeMembers ms)))

end

/-- A line break followed by the indentation of a level. -/
def newline (level : Nat) : List Char := '\n' :: List.replicate (2 * level) ' '

mutual

/-- The indented text of a value whose line is at the given level. -/
def layout (level : Nat) : Json → List Char
  | .arr [] => ['[', ']']
  | .arr (x :: xs) =>
    '[' :: (newline (level + 1) ++ (layout (level + 1) x ++ layoutItems level xs))
  | .obj [] => ['\x7b', '\x7d']
  | .obj ((k, v) :: ms) =>
    '\x7b' :: (newline (level + 1) ++ (writeString k ++ (':' :: ' ' ::
      (layout (level + 1) v ++ layoutMembers level ms))))
  | .null => writeAtom .null
  | .bool b => writeAtom (.bool b)
  | .int i => writeAtom (.int i)
  | .float x => writeAtom (.float x)
  | .str s => writeAtom (.str s)

/-- The items after the first, and the closing bracket on a line of its own. -/
def layoutItems (level : Nat) : List Json → List Char
  | [] => newline level ++ [']']
  | x :: xs => ',' :: (newline (level + 1) ++ (layout (level + 1) x ++ layoutItems level xs))

/-- The members after the first, and the closing brace on a line of its own. -/
def layoutMembers (level : Nat) : List (String × Json) → List Char
  | [] => newline level ++ ['\x7d']
  | (k, v) :: ms =>
    ',' :: (newline (level + 1) ++ (writeString k ++ (':' :: ' ' ::
      (layout (level + 1) v ++ layoutMembers level ms))))

end

/-- The compact text of a value. -/
def compact (j : Json) : String := .ofList (write j)

/-- The indented text of a value, two blanks for each level. -/
def pretty (j : Json) : String := .ofList (layout 0 j)

mutual

/-- A value inside a message. -/
def literal : Json → String
  | .null => "None"
  | .bool true => "True"
  | .bool false => "False"
  | .int i => Text.ofInt i
  | .float x => x.render plainNumber
  | .str s => Text.quoted s
  | .arr [] => "[]"
  | .arr (x :: xs) => "[" ++ literal x ++ literalItems xs
  | .obj [] => "\x7b\x7d"
  | .obj ((k, v) :: ms) => "\x7b" ++ Text.quoted k ++ ": " ++ literal v ++ literalMembers ms

/-- The items after the first. -/
def literalItems : List Json → String
  | [] => "]"
  | x :: xs => ", " ++ literal x ++ literalItems xs

/-- The members after the first. -/
def literalMembers : List (String × Json) → String
  | [] => "\x7d"
  | (k, v) :: ms => ", " ++ Text.quoted k ++ ": " ++ literal v ++ literalMembers ms

end

/-- A value spelled out in a sentence: a string as it is, anything else as a
literal. -/
def plain : Json → String
  | .str s => s
  | .null => literal .null
  | .bool b => literal (.bool b)
  | .int i => literal (.int i)
  | .float x => literal (.float x)
  | .arr xs => literal (.arr xs)
  | .obj ms => literal (.obj ms)

end LspGateway.Json
