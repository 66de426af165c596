import LspGateway.Pattern.Matching
import LspGateway.Pattern.Parser
import LspGateway.Schema.Draft
import LspGateway.Schema.Violation

/-! # Keywords and values

Where a keyword of a schema meets a value. Most keywords look at the value and at their
own setting, and say what is wrong in a sentence.
-/

namespace LspGateway.Schema

/-- A keyword of a schema, and the value that it is applied to. -/
structure Place where
  draft : Draft
  /-- Formats are not only notes. -/
  formats : Bool
  schema : Json.Members
  keyword : String
  setting : Json
  value : Json
  deriving Repr

/-- Whether a text holds what a pattern describes. -/
def matchesText (pattern text : String) : Except Breakdown Bool :=
  match Pattern.ofText pattern with
  | .ok p => .ok (p.occursIn text)
  | .error fault => .error (.pattern pattern fault)

/-- Whether a text holds what a value describes that is taken for a pattern. -/
def matchesPattern (pattern : Json) (text : String) : Except Breakdown Bool := do
  match ← ofMisuse pattern.asKey with
  | .str pattern => matchesText pattern text
  | _ => throw (.misuse .noPattern)

/-- A text as a list of one. -/
def listOf : Json → Json
  | .str s => .arr [.str s]
  | j => j

/-- Names in a list with the verb that follows them. -/
def namesWere (names : List String) (what : String) : String :=
  String.intercalate ", " names ++ (if names.length = 1 then " was " else " were ") ++ what

/-- Names in a list that nobody expected. -/
def namesWereUnexpected (names : List String) : String := namesWere names "unexpected"

/-- Texts in order. -/
def sorted (names : List String) : List String := names.mergeSort (· ≤ ·)

namespace Place

/-- A violation of the keyword. -/
def violation (p : Place) (message : String) (context : List Violation) : Violation where
  path := []
  schemaPath := []
  keyword := some p.keyword
  schema := .obj p.schema
  value := p.value
  typeMatches := p.draft.matchesType (.obj p.schema) p.value
  message := message
  context := context

/-- The report of one violation. -/
def fault (p : Place) (message : String) : Report := .ofViolation (p.violation message [])

/-- The report of a violation, if there is one. -/
def faultIf (p : Place) (isWrong : Bool) (message : String) : Report :=
  if isWrong then p.fault message else .clean

/-- The report of a violation unless something cannot be told. -/
def faultIfSo (p : Place) (isWrong : Except Json.Misuse Bool) (message : String) : Report :=
  .ofExcept do pure (p.faultIf (← ofMisuse isWrong) message)

/-- Another keyword of the schema. -/
def other? (p : Place) (keyword : String) : Option Json := Json.Members.get? p.schema keyword

/-- Whether another keyword of the schema counts as true. -/
def isSet (p : Place) (keyword : String) : Bool := (p.other? keyword).any Json.truthy

/-- A sentence about the value. -/
def tells (p : Place) (text : String) : String := p.value.literal ++ " " ++ text

/-- A sentence about a relation between the value and its bound. -/
def tellsOfBound (p : Place) (relation : String) : String :=
  p.tells ("is " ++ relation ++ " of " ++ p.setting.literal)

/-- What stands in the way of a bound, in words. -/
def boundPhrase : Json.Relation → String
  | .less => "less than the minimum"
  | .atMost => "less than or equal to the minimum"
  | .more => "greater than the maximum"
  | .atLeast => "greater than or equal to the maximum"

/-- The relation to its bound that a number must not have. In the first drafts a bound is
itself excluded by another keyword. -/
def forbidden (p : Place) : Json.Relation :=
  let excludes (keyword : String) : Bool := p.draft.upTo .draft4 && p.isSet keyword
  match p.keyword with
  | "minimum" => if excludes "exclusiveMinimum" then .atMost else .less
  | "maximum" => if excludes "exclusiveMaximum" then .atLeast else .more
  | "exclusiveMinimum" => .atMost
  | _ => .atLeast

/-- Checks a number against a bound. -/
def bound (p : Place) : Report :=
  if p.value.isNumber then
    p.faultIfSo (p.forbidden.holds p.value p.setting) (p.tellsOfBound (boundPhrase p.forbidden))
  else .clean

/-- Checks that a number is a multiple of another. -/
def multipleOf (p : Place) : Report :=
  if p.value.isNumber then
    match p.value.isMultiple p.setting with
    | .ok isMultiple =>
      p.faultIf (!isMultiple) (p.tells ("is not a multiple of " ++ p.setting.literal))
    | .error fault => .broken (.quotient fault)
  else .clean

/-- The size of the value that a keyword bounds: the characters of a text, the items of
an array or the members of an object. -/
def size? (p : Place) : Option Nat :=
  match p.keyword, p.value with
  | "minLength", .str s => some s.length
  | "maxLength", .str s => some s.length
  | "minItems", .arr xs => some xs.length
  | "maxItems", .arr xs => some xs.length
  | "minProperties", .obj ms => some ms.length
  | "maxProperties", .obj ms => some ms.length
  | _, _ => none

/-- Checks the size of a value. -/
def size (p : Place) : Report :=
  match p.size? with
  | none => .clean
  | some n =>
    let tooFew (text : String) : Report :=
      p.faultIfSo (Json.Relation.less.holds (.int n) p.setting)
        (p.tells (if p.setting.equals (.int 1) then "should be non-empty" else text))
    let tooMany (text : String) : Report :=
      p.faultIfSo (Json.Relation.more.holds (.int n) p.setting)
        (p.tells (if p.setting.equals (.int 0) then "is expected to be empty" else text))
    match p.keyword with
    | "minProperties" => tooFew "does not have enough properties"
    | "maxProperties" => tooMany "has too many properties"
    | "minLength" => tooFew "is too short"
    | "minItems" => tooFew "is too short"
    | _ => tooMany "is too long"

/-- Whether the value has a type that there must be. -/
def isOfType (p : Place) (type : Json) : Except Breakdown Bool := do
  match ← ofMisuse (p.draft.isOfType? p.value type) with
  | some answer => pure answer
  | none => throw (.unknownType type (.obj p.schema) p.value)

/-- The value has none of several types. -/
def wrongType (p : Place) (types : List String) (context : List Violation) : Report :=
  .ofViolation (p.violation (p.tells ("is not of type " ++ String.intercalate ", " types)) context)

/-- Checks the type of a value. -/
def type (p : Place) : Report := .ofExcept do
  let types ← ofMisuse (listOf p.setting).asItems
  if ← types.anyM p.isOfType then pure .clean
  else pure (p.wrongType (types.map Json.literal) [])

/-- Checks that a value is among others. -/
def enum (p : Place) : Report := .ofExcept do
  let choices ← ofMisuse p.setting.asItems
  pure (p.faultIf (!choices.any (Json.same p.value))
    (p.tells ("is not one of " ++ p.setting.literal)))

/-- Checks that a value is another. -/
def constant (p : Place) : Report :=
  p.faultIf (!p.value.same p.setting) (p.setting.literal ++ " was expected")

/-- Checks that a text holds something. -/
def pattern (p : Place) : Report :=
  match p.value with
  | .str s => .ofExcept do
    let isFound ← matchesPattern p.setting s
    pure (p.faultIf (!isFound) (p.tells ("does not match " ++ p.setting.literal)))
  | _ => .clean

/-- Checks that a text has a format. That of patterns is known; a text may be in the
notation for patterns and still describe none. -/
def format (p : Place) : Report :=
  match p.formats, p.setting, p.value with
  | true, .str "regex", .str s =>
    match Pattern.ofText s with
    | .ok _ => .clean
    | .error fault =>
      if fault.trouble.isOfNotation then p.fault (p.tells ("is not a " ++ p.setting.literal))
      else .broken (.pattern s fault)
  | _, _, _ => .clean

/-- Checks that the items of an array differ. -/
def uniqueItems (p : Place) : Report :=
  match p.value with
  | .arr xs =>
    p.faultIf (p.setting.truthy && !Json.allDistinct xs) (p.tells "has non-unique elements")
  | _ => .clean

/-- Checks that an object has each of several members. -/
def eachMember (p : Place) (ms : Json.Members) (names : List Json) (what : String) : Report :=
  .flatMap names fun name => .ofExcept do
    let isThere ← ofMisuse (Json.isKeyOf ms name)
    pure (p.faultIf (!isThere) (name.literal ++ what))

/-- Checks that an object has the members it needs. -/
def required (p : Place) : Report :=
  match p.value with
  | .obj ms => .ofExcept do
    pure (p.eachMember ms (← ofMisuse p.setting.asItems) " is a required property")
  | _ => .clean

/-- Checks that an object has the members that another one depends on. -/
def needs (p : Place) (ms : Json.Members) (name : String) (needed : List Json) : Report :=
  p.eachMember ms needed (" is a dependency of " ++ Text.quoted name)

/-- Checks each setting under the name of a member that the object has. -/
def eachPresent (p : Place) (ms : Json.Members) (check : String → Json → Report) : Report :=
  .ofExcept do
    let settings ← ofMisuse p.setting.asMembers
    pure (.flatMap (settings.filter fun (k, _) => (ms.get? k).isSome) fun (k, sub) => check k sub)

/-- Checks that an object has the members that others depend on. -/
def dependentRequired (p : Place) : Report :=
  match p.value with
  | .obj ms => p.eachPresent ms fun name needed => .ofExcept do
    pure (p.needs ms name (← ofMisuse needed.asItems))
  | _ => .clean

/-- What comes of a keyword that does not look inside the value. -/
def plain (p : Place) : Report :=
  match p.keyword with
  | "type" => p.type
  | "enum" => p.enum
  | "const" => p.constant
  | "multipleOf" => p.multipleOf
  | "divisibleBy" => p.multipleOf
  | "minimum" => p.bound
  | "maximum" => p.bound
  | "exclusiveMinimum" => p.bound
  | "exclusiveMaximum" => p.bound
  | "pattern" => p.pattern
  | "format" => p.format
  | "uniqueItems" => p.uniqueItems
  | "required" => p.required
  | "dependentRequired" => p.dependentRequired
  | _ => p.size

end Place

end LspGateway.Schema
