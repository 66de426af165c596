import LspGateway.Pattern.Basic
import LspGateway.Pattern.Fault
import LspGateway.Text.Identifier

/-! # Reading the text of a pattern

A text is read mark by mark. A mark is a character, or a backslash with the character
after it, so a backslash at the end is met as soon as what goes before it was read. What
is known of the groups so far goes along with what is left of the text.
-/

namespace LspGateway.Pattern
open LspGateway.Text

/-- How letters, lines and blanks are taken. -/
structure Mode where
  /-- Small and capital letters are the same. -/
  folded : Bool
  /-- The ends of lines count as ends of the text. -/
  lines : Bool
  /-- The point stands for a line break too. -/
  dotAll : Bool
  /-- Blanks and comments stand for nothing. -/
  verbose : Bool
  /-- Digits, blanks and letters are those of ASCII. -/
  ascii : Bool
  deriving DecidableEq, Repr

/-- How letters are taken in a mode. -/
def Mode.letters (m : Mode) : Letters := ⟨m.folded, m.ascii⟩

/-- What is left of a text, and what is known of it so far. -/
structure Reader where
  rest : List Char
  /-- The number of characters that were read. -/
  offset : Nat
  /-- The flags that were set for the whole pattern. -/
  flags : List Char
  /-- The number of groups that were opened. -/
  groups : Nat
  names : List (String × Nat)
  /-- The groups that are closed, and their widths. -/
  closed : List (Nat × Width)
  /-- The number of groups that were opened before the outermost condition on what goes
  before, while it is read. -/
  before : Option Nat
  /-- The groups that conditions ask for by number, and where, the last one first. -/
  asked : List (Nat × Nat)
  deriving Repr

/-- Reads something, or finds that a rule is broken. -/
abbrev Reading := StateT Reader (Except Fault)

namespace Reading

/-- A broken rule, so many characters before the place that was reached. -/
def fail {α : Type} (trouble : Trouble) (back : Nat) : Reading α := fun r =>
  .error ⟨trouble, some (r.offset - back)⟩

/-- A broken rule without a place. -/
def failPlainly {α : Type} (trouble : Trouble) : Reading α := fun _ => .error ⟨trouble, none⟩

/-- The number of characters that were read. -/
def offset : Reading Nat := do pure (← get).offset

/-- The mark that comes next. -/
def next : Reading (List Char) := do
  match (← get).rest with
  | '\\' :: c :: _ => pure ['\\', c]
  | c :: _ => pure [c]
  | [] => pure []

/-- Finds a backslash at the end. -/
def lookAhead : Reading Unit := fun r =>
  if r.rest = ['\\'] then .error ⟨.escapeAtEnd, some r.offset⟩ else .ok ((), r)

/-- Reads the next mark; at the end of the text there is an empty one. -/
def mark : Reading (List Char) := do
  let m ← next
  modify fun r => { r with rest := r.rest.drop m.length, offset := r.offset + m.length }
  lookAhead
  pure m

/-- Reads a character if it comes next. -/
def accept (c : Char) : Reading Bool := do
  if (← next) = [c] then
    let _ ← mark
    pure true
  else pure false

/-- Reads at most so many characters of a kind. -/
def upTo (isOfKind : Char → Bool) : Nat → Reading (List Char)
  | 0 => pure []
  | n + 1 => do
    match ← next with
    | [c] =>
      if isOfKind c then
        let _ ← mark
        pure (c :: (← upTo isOfKind n))
      else pure []
    | _ => pure []

/-- Reads all characters of a kind that come next. -/
def run (isOfKind : Char → Bool) : Reading (List Char) := do
  upTo isOfKind (← get).rest.length

/-- Reads marks up to one that ends them; `acc` holds those before. There are no more
marks than characters left. -/
def nameLoop (stop : Char) (what : Expected) : Nat → List Char → Reading (List Char)
  | 0, _ => failPlainly .tooDeep
  | fuel + 1, acc => do
    match ← mark with
    | [] =>
      if acc.isEmpty then fail (.missing what) 0
      else fail (.missing (.endOfName stop)) acc.length
    | m =>
      if m = [stop] then if acc.isEmpty then fail (.missing what) 1 else pure acc
      else nameLoop stop what fuel (acc ++ m)

/-- Reads a name and the character that ends it. -/
def name (stop : Char) (what : Expected) : Reading (List Char) := do
  nameLoop stop what ((← get).rest.length + 1) []

/-- Whether the next character is a decimal digit. -/
def digitFollows : Reading Bool := do
  match ← next with
  | [c] => pure (digit? c).isSome
  | _ => pure false

/-- The width of a group that is closed. -/
def closedWidth? (number : Nat) : Reading (Option Width) := do
  pure (((← get).closed.find? (·.1 == number)).map (·.2))

/-- Makes sure that a condition on what goes before does not look at a group of its own. -/
def checkCondition (number : Nat) : Reading Unit := do
  match (← get).before with
  | none => pure ()
  | some before =>
    if (← closedWidth? number).isNone then fail .openGroup 0
    else if before < number then fail .groupOfSameCondition 0
    else pure ()

/-- Opens a group that remembers what it takes. -/
def openGroup (name : Option (List Char)) : Reading Nat := do
  let number := (← get).groups + 1
  modify fun r => { r with groups := number }
  match name with
  | none => pure number
  | some cs =>
    let name := String.ofList cs
    match (← get).names.find? (·.1 == name) with
    | some (_, other) => fail (.nameTaken name number other) (cs.length + 1)
    | none =>
      modify fun r => { r with names := (name, number) :: r.names }
      pure number

/-- Reads a name of a group. -/
def groupName (stop : Char) : Reading (List Char) := do
  let cs ← name stop .groupName
  if isIdentifier cs then pure cs else fail (.badGroupName (.ofList cs)) (cs.length + 1)

/-- The number of the group with a name that was just read. -/
def numberOf (cs : List Char) : Reading Nat := do
  match (← get).names.find? (·.1 == .ofList cs) with
  | some (_, number) => pure number
  | none => fail (.unknownGroupName (.ofList cs)) (cs.length + 1)

end Reading

/-- The width of a group among those that are closed. -/
def Reader.widthOf (r : Reader) (number : Nat) : Width :=
  ((r.closed.find? (·.1 == number)).map (·.2)).getD (.exactly 0)

end LspGateway.Pattern
