import LspGateway.Text.Quoted

/-! # Why a text is no pattern

Every rule of the notation that a text may break, and the sentence that tells of it with
the place in the text.
-/

namespace LspGateway.Pattern
open LspGateway.Text

/-- What was expected where a text ends or goes on otherwise. -/
inductive Expected
  | groupName
  | characterName
  /-- The mark that ends a name. -/
  | endOfName (mark : Char)
  | nameBrace
  | endOfGroup
  | endOfComment
  | flag
  | colon
  | endOfFlags
  deriving DecidableEq, Repr

/-- What was expected, as a sentence names it. -/
def Expected.phrase : Expected → String
  | .groupName => "group name"
  | .characterName => "character name"
  | .endOfName mark => .ofList [mark] ++ ", unterminated name"
  | .nameBrace => "\x7b"
  | .endOfGroup => "), unterminated subpattern"
  | .endOfComment => "), unterminated comment"
  | .flag => "flag"
  | .colon => ":"
  | .endOfFlags => "-, : or )"

/-- What is wrong with the flags at the head of a group. -/
inductive FlagTrouble
  | ofBytes
  | incompatible
  | globalOn
  | globalOff
  | typeOff
  | onAndOff
  deriving DecidableEq, Repr

def FlagTrouble.phrase : FlagTrouble → String
  | .ofBytes => "cannot use 'L' flag with a str pattern"
  | .incompatible => "flags 'a', 'u' and 'L' are incompatible"
  | .globalOn => "cannot turn on global flag"
  | .globalOff => "cannot turn off global flag"
  | .typeOff => "cannot turn off flags 'a', 'u' and 'L'"
  | .onAndOff => "flag turned on and off"

/-- A rule that is broken. -/
inductive Trouble
  | escapeAtEnd
  | badEscape (text : String)
  | incompleteEscape (text : String)
  | octalTooLarge (text : String)
  | missing (what : Expected)
  | undefinedName (name : String)
  | unterminatedSet
  | badRange (text : String)
  | openGroup
  | groupOfSameCondition
  | invalidReference (number : Nat)
  | badGroupName (name : String)
  | unknownGroupName (name : String)
  | badGroupNumber
  | nameTaken (name : String) (number other : Nat)
  | repeatBounds
  | nothingToRepeat
  | multipleRepeat
  | endOfPattern
  | unknownExtension (text : String)
  | tooManyBranches
  | lateFlags
  | unknownFlag
  | badFlags (trouble : FlagTrouble)
  | unbalanced
  /-- What a condition looks at must always have the same width. -/
  | variableWidth
  | tooWide
  /-- Repetitions are not supported where the flag for templates is on. -/
  | template (appetite : String)
  | tooManyRepetitions
  | bothAlphabets
  /-- A number of more digits than are read. -/
  | tooManyDigits (count : Nat)
  | tooDeep
  deriving DecidableEq, Repr

def Trouble.phrase : Trouble → String
  | .escapeAtEnd => "bad escape (end of pattern)"
  | .badEscape text => "bad escape " ++ text
  | .incompleteEscape text => "incomplete escape " ++ text
  | .octalTooLarge text => "octal escape value " ++ text ++ " outside of range 0-0o377"
  | .missing what => "missing " ++ what.phrase
  | .undefinedName name => "undefined character name " ++ quoted name
  | .unterminatedSet => "unterminated character set"
  | .badRange text => "bad character range " ++ text
  | .openGroup => "cannot refer to an open group"
  | .groupOfSameCondition => "cannot refer to group defined in the same lookbehind subpattern"
  | .invalidReference number => "invalid group reference " ++ ofNat number
  | .badGroupName name => "bad character in group name " ++ quoted name
  | .unknownGroupName name => "unknown group name " ++ quoted name
  | .badGroupNumber => "bad group number"
  | .nameTaken name number other =>
    "redefinition of group name " ++ quoted name ++ " as group " ++ ofNat number ++
      "; was group " ++ ofNat other
  | .repeatBounds => "min repeat greater than max repeat"
  | .nothingToRepeat => "nothing to repeat"
  | .multipleRepeat => "multiple repeat"
  | .endOfPattern => "unexpected end of pattern"
  | .unknownExtension text => "unknown extension ?" ++ text
  | .tooManyBranches => "conditional backref with more than two branches"
  | .lateFlags => "global flags not at the start of the expression"
  | .unknownFlag => "unknown flag"
  | .badFlags trouble => "bad inline flags: " ++ trouble.phrase
  | .unbalanced => "unbalanced parenthesis"
  | .variableWidth => "look-behind requires fixed-width pattern"
  | .tooWide => "looks too much behind"
  | .template appetite => "internal: unsupported template operator " ++ appetite
  | .tooManyRepetitions => "the repetition number is too large"
  | .bothAlphabets => "ASCII and UNICODE flags are incompatible"
  | .tooManyDigits count =>
    "Exceeds the limit (" ++ ofNat maxDigits ++
      " digits) for integer string conversion: value has " ++ ofNat count ++
      " digits; use sys.set_int_max_str_digits() to increase the limit"
  | .tooDeep => "maximum recursion depth exceeded"

/-- Whether the rule is one of the notation, and not one of what can be done with it. -/
def Trouble.isOfNotation : Trouble → Bool
  | .tooManyRepetitions => false
  | .bothAlphabets => false
  | .tooManyDigits _ => false
  | .tooDeep => false
  | _ => true

/-- A broken rule, and the place where it is, if there is one. -/
structure Fault where
  trouble : Trouble
  place : Option Nat
  deriving DecidableEq, Repr

/-- The place in a text of several lines. -/
def lineAndColumn (text : List Char) (place : Nat) : String :=
  let before := text.take place
  let line := (before.filter (· = '\n')).length + 1
  let column := (before.reverse.takeWhile (· != '\n')).length + 1
  " (line " ++ ofNat line ++ ", column " ++ ofNat column ++ ")"

/-- What is wrong with a text, in a sentence. -/
def Fault.message (text : String) (f : Fault) : String :=
  match f.place with
  | none => f.trouble.phrase
  | some place =>
    f.trouble.phrase ++ " at position " ++ ofNat place ++
      (if text.toList.contains '\n' then lineAndColumn text.toList place else "")

end LspGateway.Pattern
