import LspGateway.Json.Basic
import LspGateway.Text.Quoted

/-! # Values of the wrong kind

What a program meets when it takes a value for an object, a list, a text, a number or
a key and it is none. Texts and objects serve as lists of their characters and keys,
and truth values as the numbers zero and one.
-/

namespace LspGateway.Json

/-- What is done with two values. -/
inductive Relation
  | less
  | atMost
  | more
  | atLeast
  deriving DecidableEq, Repr

/-- The sign of a relation. -/
def Relation.sign : Relation → String
  | .less => "<"
  | .atMost => "<="
  | .more => ">"
  | .atLeast => ">="

/-- How a value fails to be what it was taken for. -/
inductive Misuse
  /-- Only objects have members. -/
  | noMembers (kind : Kind)
  /-- Only texts and numbers serve as keys. -/
  | noKey (kind : Kind)
  /-- The value has no items, or they are not found by name. -/
  | noItems (kind : Kind)
  /-- The object lacks the member. -/
  | missing (name : String)
  /-- Values of the kind do not have what is asked for. -/
  | lacks (kind : Kind) (name : String)
  /-- The value has no items among which something is looked for. -/
  | noContainer (kind : Kind)
  | noLength (kind : Kind)
  /-- The value has no parts. -/
  | noParts (kind : Kind)
  /-- The parts of a text or a list are not found by name. -/
  | notByName (kind : Kind)
  /-- Only texts are looked for in a text. -/
  | notInText (kind : Kind)
  | noOrder (relation : Relation) (first second : Kind)
  | noRemainder (first second : Kind)
  /-- What is no list cannot be joined. -/
  | noJoin
  /-- An item of a list that is joined is no text. -/
  | noText (place : Nat) (kind : Kind)
  | noPattern
  /-- A text does not start with an integer. -/
  | noInteger (text : String)
  | tooManyDigits (count : Nat)
  deriving DecidableEq, Repr

/-- The value between quotes with what it was taken for. -/
def Kind.isNo (kind : Kind) (what : String) : String := "'" ++ kind.name ++ "' object " ++ what

def Misuse.message : Misuse → String
  | .noMembers kind => kind.isNo "has no attribute 'get'"
  | .noKey kind => "unhashable type: '" ++ kind.name ++ "'"
  | .noItems kind => kind.isNo "is not iterable"
  | .missing name => "'" ++ name ++ "'"
  | .lacks kind name => kind.isNo ("has no attribute '" ++ name ++ "'")
  | .noContainer kind => "argument of type '" ++ kind.name ++ "' is not iterable"
  | .noLength kind => "object of type '" ++ kind.name ++ "' has no len()"
  | .noParts kind => kind.isNo "is not subscriptable"
  | .notByName .str => "string indices must be integers, not 'str'"
  | .notByName _ => "list indices must be integers or slices, not str"
  | .notInText kind => "'in <string>' requires string as left operand, not " ++ kind.name
  | .noOrder relation a b =>
    "'" ++ relation.sign ++ "' not supported between instances of '" ++ a.name ++ "' and '" ++
      b.name ++ "'"
  | .noRemainder a b =>
    "unsupported operand type(s) for %: '" ++ a.name ++ "' and '" ++ b.name ++ "'"
  | .noJoin => "can only join an iterable"
  | .noText place kind =>
    "sequence item " ++ Text.ofNat place ++ ": expected str instance, " ++ kind.name ++ " found"
  | .noPattern => "first argument must be string or compiled pattern"
  | .noInteger text => "invalid literal for int() with base 10: " ++ Text.quoted text
  | .tooManyDigits count =>
    "Exceeds the limit (" ++ Text.ofNat Text.maxDigits ++
      " digits) for integer string conversion: value has " ++ Text.ofNat count ++
      " digits; use sys.set_int_max_str_digits() to increase the limit"

/-- The members of an object. -/
def asObject : Json → Except Misuse Members
  | .obj ms => .ok ms
  | j => .error (.noMembers j.kind)

/-- A value that serves as a key. -/
def asKey : Json → Except Misuse Json
  | .arr xs => .error (.noKey (Json.arr xs).kind)
  | .obj ms => .error (.noKey (Json.obj ms).kind)
  | j => .ok j

/-- The members of an object one after another. -/
def asMembers : Json → Except Misuse Members
  | .obj ms => .ok ms
  | j => .error (.lacks j.kind "items")

/-- The values of an object. -/
def asValues : Json → Except Misuse (List Json)
  | .obj ms => .ok (ms.map (·.2))
  | j => .error (.lacks j.kind "values")

/-- The characters of a text as texts. -/
def charactersOf (s : String) : List Json := s.toList.map fun c => .str (.ofList [c])

/-- A value as a list: its items, its keys or its characters. -/
def asItems : Json → Except Misuse (List Json)
  | .arr xs => .ok xs
  | .obj ms => .ok (ms.map fun (k, _) => .str k)
  | .str s => .ok (charactersOf s)
  | j => .error (.noItems j.kind)

/-- The number of items, keys or characters. -/
def size : Json → Except Misuse Nat
  | .arr xs => .ok xs.length
  | .obj ms => .ok ms.length
  | .str s => .ok s.length
  | j => .error (.noLength j.kind)

/-- Whether a text is found somewhere in another. -/
def hasPart (part : List Char) : List Char → Bool
  | [] => part.isEmpty
  | c :: cs => Text.startsWith part (c :: cs) || hasPart part cs

/-- Whether a text is an item, a key or a part of the value. -/
def holdsText (name : String) : Json → Except Misuse Bool
  | .arr xs => .ok (xs.contains (.str name))
  | .obj ms => .ok (Members.get? ms name).isSome
  | .str s => .ok (hasPart name.toList s.toList)
  | j => .error (.noContainer j.kind)

/-- Whether a value is a key of an object. -/
def isKeyOf (ms : Members) : Json → Except Misuse Bool
  | .str name => .ok (Members.get? ms name).isSome
  | j => do
    let _ ← j.asKey
    pure false

/-- A truth value as a number; any other value is itself. -/
def countingTruth : Json → Json
  | .bool b => .int (if b then 1 else 0)
  | j => j

/-- The texts of a list with a sign between them. -/
def joinedBy (sign : String) (j : Json) : Except Misuse String :=
  match j.asItems with
  | .error _ => .error .noJoin
  | .ok xs => do
    let texts ← xs.zipIdx.mapM fun (x, i) =>
      match x with
      | .str s => .ok s
      | x => .error (.noText i x.kind)
    pure (String.intercalate sign texts)

end LspGateway.Json
