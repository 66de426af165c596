import LspGateway.Json.Basic
import LspGateway.Uri.Absolute

/-! # Shapes of values

What a protocol says of the values in its messages. A shape is lenient where a
value can only be meant in one way: a whole number may be written as a fraction,
and a truth value as a number or a word. Members that a shape does not name are
never looked at.
-/

namespace LspGateway.Json

mutual

/-- A set of values. -/
inductive Shape
  | anything
  | text
  /-- One of some texts. -/
  | word (choices : List String)
  /-- The text of an absolute URI. -/
  | uri
  | integer
  /-- An integer that is written as one. -/
  | exactInteger
  | truthValue
  | orNull (shape : Shape)
  | either (first second : Shape)
  | listOf (shape : Shape)
  /-- An object whose members all have one shape. -/
  | mapOf (shape : Shape)
  | record (fields : Fields)

/-- The members that an object must or may have. -/
inductive Fields
  | none
  | required (name : String) (shape : Shape) (rest : Fields)
  | optional (name : String) (shape : Shape) (rest : Fields)

end

/-- The members of both. -/
def Fields.append : Fields → Fields → Fields
  | .none, fs => fs
  | .required name shape rest, fs => .required name shape (rest.append fs)
  | .optional name shape rest, fs => .optional name shape (rest.append fs)

/-- A number that can only be meant as an integer. -/
def isWhole : Json → Bool
  | .int _ => true
  | .bool _ => true
  | .float x => x.toInt?.any fun i => i.natAbs < Binary64.twoTo 63
  | _ => false

/-- The words for the two truth values, small and capital letters being the same. -/
def truthWords : List String :=
  ["0", "f", "n", "no", "off", "false", "1", "t", "y", "on", "yes", "true"]

/-- A value that can only be meant as a truth value. -/
def isTruthValue : Json → Bool
  | .bool _ => true
  | .int i => i = 0 || i = 1
  | .float x => x.toInt? = some 0 || x.toInt? = some 1
  | .str s => truthWords.contains (.ofList (s.toList.map Char.toLower))
  | _ => false

mutual

/-- Whether a value has a shape. -/
def Shape.accepts : Shape → Json → Bool
  | .anything, _ => true
  | .text, j => j.str?.isSome
  | .word choices, j => j.str?.any choices.contains
  | .uri, j => j.str?.any fun s => Uri.isAbsolute s.toList
  | .integer, j => isWhole j
  | .exactInteger, j =>
    match j with
    | .int _ => true
    | _ => false
  | .truthValue, j => isTruthValue j
  | .orNull shape, j => j = .null || shape.accepts j
  | .either first second, j => first.accepts j || second.accepts j
  | .listOf shape, j =>
    match j with
    | .arr xs => xs.all fun x => shape.accepts x
    | _ => false
  | .mapOf shape, j =>
    match j with
    | .obj ms => ms.all fun (_, x) => shape.accepts x
    | _ => false
  | .record fields, j =>
    match j with
    | .obj ms => fields.accept ms
    | _ => false

/-- Whether an object has the members it must have, and those it may have are of
their shapes. -/
def Fields.accept : Fields → Members → Bool
  | .none, _ => true
  | .required name shape rest, ms => ((ms.get? name).any fun j => shape.accepts j) && rest.accept ms
  | .optional name shape rest, ms => ((ms.get? name).all fun j => shape.accepts j) && rest.accept ms

end

/-- A record without members to look at. -/
def Shape.object : Shape := .record .none

mutual

/-- The value without numbers beyond the format's range: they become null. -/
def withoutInfinities : Json → Json
  | .float x => if x.ratio?.isSome then .float x else .null
  | .arr xs => .arr (itemsWithoutInfinities xs)
  | .obj ms => .obj (membersWithoutInfinities ms)
  | .null => .null
  | .bool b => .bool b
  | .int i => .int i
  | .str s => .str s

/-- The items without numbers beyond the format's range. -/
def itemsWithoutInfinities : List Json → List Json
  | [] => []
  | x :: xs => withoutInfinities x :: itemsWithoutInfinities xs

/-- The members without numbers beyond the format's range. -/
def membersWithoutInfinities : List (String × Json) → List (String × Json)
  | [] => []
  | (k, x) :: ms => (k, withoutInfinities x) :: membersWithoutInfinities ms

end

end LspGateway.Json
