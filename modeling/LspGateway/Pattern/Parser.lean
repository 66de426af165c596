import LspGateway.Pattern.Escape

/-! # Reading patterns

The notation of patterns: characters stand for themselves, and marks for sets,
repetitions, groups and conditions. A text that breaks the rules of the notation is
no pattern.
-/

namespace LspGateway.Pattern
open LspGateway.Text

/-- What a part of a pattern is, as far as repetitions ask. -/
inductive PartKind
  | plain
  /-- It stands for no characters, and cannot be repeated. -/
  | fixed
  /-- It is a repetition already. -/
  | repetition
  deriving DecidableEq, Repr

/-- A part of a pattern. A group that remembers nothing is the patterns in it. -/
structure Part where
  patterns : List Pattern
  kind : PartKind
  deriving Repr

/-- Patterns one after another. -/
def joined : List Pattern → Pattern
  | [] => .empty
  | [p] => p
  | p :: ps => .seq p (joined ps)

/-- The members of an alternative that is one character or a set of them. -/
def asMembers? : List Pattern → Option (List Member)
  | [.one false _ code] => some [.one code]
  | [.set false _ members] => some members
  | _ => none

/-- The part that all alternatives start with, if there is one. -/
def sharedStart? (alternatives : List (List Pattern)) : Option Pattern :=
  match alternatives with
  | (p :: _) :: rest =>
    if rest.all fun ps => ps.head?.any (sameLeaf p) then some p else none
  | _ => none

/-- The parts that all alternatives start with, and the alternatives without them. No
alternative has more parts than the fuel. -/
def takeShared : Nat → List (List Pattern) → List Pattern × List (List Pattern)
  | 0, alternatives => ([], alternatives)
  | fuel + 1, alternatives =>
    match sharedStart? alternatives with
    | some p =>
      let (more, rest) := takeShared fuel (alternatives.map (·.drop 1))
      (p :: more, rest)
    | none => ([], alternatives)

/-- One of several alternatives. -/
def eitherOf : List (List Pattern) → Pattern
  | [] => .empty
  | [ps] => joined ps
  | ps :: rest => .either (joined ps) (eitherOf rest)

/-- Alternatives as one sequence: what they start with alike goes before them, and
alternatives of single characters are a set. -/
def combined (letters : Letters) (alternatives : List (List Pattern)) : List Pattern :=
  match alternatives with
  | [ps] => ps
  | _ =>
    let longest := alternatives.foldl (fun n ps => max n ps.length) 0
    let (start, rest) := takeShared longest alternatives
    match rest.mapM asMembers? with
    | some members => start ++ [.set false letters members.flatten.eraseDups]
    | none => start ++ [eitherOf rest]

/-- The flags that may stand at the head of a group. -/
def flagMarks : List Char := ['i', 'L', 'm', 's', 'x', 'a', 't', 'u']

/-- Flags that say which alphabet is meant. -/
def alphabetFlags : List Char := ['a', 'L', 'u']

/-- A letter of any alphabet. -/
def isLetter (c : Char) : Bool :=
  if c.toNat < 128 then c.isAlpha
  else isWordChar false c && !IdentifierTable.numbers.contains c.toNat

/-- A mode after flags were turned on and off. -/
def Mode.after (m : Mode) (on off : List Char) : Mode where
  folded := (m.folded || on.contains 'i') && !off.contains 'i'
  lines := (m.lines || on.contains 'm') && !off.contains 'm'
  dotAll := (m.dotAll || on.contains 's') && !off.contains 's'
  verbose := (m.verbose || on.contains 'x') && !off.contains 'x'
  ascii := on.contains 'a' || (m.ascii && !on.contains 'u')

/-- The mode without flags. -/
def Mode.plain : Mode := ⟨false, false, false, false, false⟩

/-- What the head of a group says. -/
inductive Head
  /-- A group that remembers what it takes, with its name if it has one. -/
  | capture (name : Option (List Char))
  | plain
  | mode (on off : List Char)
  /-- Flags for the whole pattern. -/
  | wholeMode
  | comment
  | recall (number : Nat)
  | ahead (negated : Bool)
  | behind (negated : Bool)
  | once
  | given (number : Nat)
  deriving Repr

/-- No more repetitions than this can be asked for. -/
def mostRepetitions : Nat := 4294967295

/-- No condition asks for a group from this number on. -/
def mostGroups : Nat := 1073741823

namespace Reading

/-- A flag that is not known, or something else that was expected; the mark is told. -/
def failFlag {α : Type} (m : List Char) (what : Expected) : Reading α :=
  match m with
  | [] => fail (.missing what) 0
  | [c] => fail (if isLetter c then .unknownFlag else .missing what) 1
  | m => fail (.missing what) m.length

/-- Reads flags that are turned on, the first of which is told, up to the mark after
them. -/
def flagsOn : Nat → List Char → Char → Reading (List Char × Char)
  | 0, _, _ => failPlainly .tooDeep
  | fuel + 1, on, flag => do
    let on := flag :: on
    if flag = 'L' then fail (.badFlags .ofBytes) 0
    else if alphabetFlags.contains flag &&
        on.any fun other => alphabetFlags.contains other && other != flag then
      fail (.badFlags .incompatible) 0
    else
      match ← mark with
      | [c] =>
        if c = ')' || c = '-' || c = ':' then pure (on, c)
        else if flagMarks.contains c then flagsOn fuel on c
        else failFlag [c] .endOfFlags
      | m => failFlag m .endOfFlags

/-- Reads flags that are turned off, the first of which is told, up to the colon. -/
def flagsOff : Nat → List Char → Char → Reading (List Char)
  | 0, _, _ => failPlainly .tooDeep
  | fuel + 1, off, flag => do
    let off := flag :: off
    if alphabetFlags.contains flag then fail (.badFlags .typeOff) 0
    else
      match ← mark with
      | [c] =>
        if c = ':' then pure off
        else if flagMarks.contains c then flagsOff fuel off c
        else failFlag [c] .colon
      | m => failFlag m .colon

/-- Reads the flags at the head of a group from the given mark on. -/
def flags (first : Char) : Reading Head := do
  let fuel := (← get).rest.length + 1
  let (on, stop) ← if first = '-' then pure ([], '-') else flagsOn fuel [] first
  if stop = ')' then
    modify fun r => { r with flags := on ++ r.flags }
    pure .wholeMode
  else if on.contains 't' then fail (.badFlags .globalOn) 1
  else
    let off ←
      if stop = '-' then
        match ← mark with
        | [c] => if flagMarks.contains c then flagsOff fuel [] c else failFlag [c] .flag
        | m => failFlag m .flag
      else pure []
    if off.contains 't' then fail (.badFlags .globalOff) 1
    else if on.any off.contains then fail (.badFlags .onAndOff) 1
    else pure (.mode on off)

/-- The group that a condition asks for. -/
def conditionGroup : Reading Nat := do
  let cs ← name ')' .groupName
  if isIdentifier cs then numberOf cs
  else
    match readInt (.ofList cs) with
    | .error _ => fail (.badGroupName (.ofList cs)) (cs.length + 1)
    | .ok i =>
      let n := i.toNat
      if i < 0 then fail (.badGroupName (.ofList cs)) (cs.length + 1)
      else if n = 0 then fail .badGroupNumber (cs.length + 1)
      else if mostGroups ≤ n then fail (.invalidReference n) (cs.length + 1)
      else
        let place := (← offset) - cs.length - 1
        modify fun r =>
          if r.asked.any (·.1 == n) then r else { r with asked := (n, place) :: r.asked }
        pure n

/-- Reads a comment, which starts at the given place, to its end. -/
def comment (start : Nat) : Nat → Reading Unit
  | 0 => failPlainly .tooDeep
  | fuel + 1 => do
    match ← next with
    | [] => fail (.missing .endOfComment) ((← offset) - start)
    | _ => if (← mark) = [')'] then pure () else comment start fuel

/-- The head of a group that starts with a letter for extensions. -/
def extension : Reading Head := do
  if ← accept '<' then pure (.capture (some (← groupName '>')))
  else if ← accept '=' then
    let cs ← groupName ')'
    let number ← numberOf cs
    if (← closedWidth? number).isNone then fail .openGroup (cs.length + 1)
    else
      checkCondition number
      pure (.recall number)
  else
    match ← mark with
    | [] => fail .endOfPattern 0
    | m => fail (.unknownExtension ("P" ++ .ofList m)) (m.length + 2)

/-- The head of a condition on what goes before. -/
def behindHead : Reading Head := do
  match ← mark with
  | [] => fail .endOfPattern 0
  | ['='] => pure (.behind false)
  | ['!'] => pure (.behind true)
  | m => fail (.unknownExtension ("<" ++ .ofList m)) (m.length + 2)

/-- The head of a group after its bracket, which is at the given place. -/
def head (start : Nat) : Reading Head := do
  if !(← accept '?') then pure (.capture none)
  else
    match ← mark with
    | [] => fail .endOfPattern 0
    | ['P'] => extension
    | [':'] => pure .plain
    | ['#'] => do
      comment start ((← get).rest.length + 1)
      pure .comment
    | ['='] => pure (.ahead false)
    | ['!'] => pure (.ahead true)
    | ['<'] => behindHead
    | ['('] => pure (.given (← conditionGroup))
    | ['>'] => pure .once
    | m =>
      match m with
      | [c] =>
        if flagMarks.contains c || c = '-' then flags c
        else fail (.unknownExtension (.ofList m)) 2
      | _ => fail (.unknownExtension (.ofList m)) (m.length + 1)

/-- A member of a set that starts with the given mark. -/
def setMember (m : List Char) : Reading Member :=
  match m with
  | ['\\', c] => setEscape c
  | m => pure (.one ((m.head?.map Char.toNat).getD 0))

/-- The range from one member to another, whose marks are told. -/
def range (first second : Member) (m k : List Char) : Reading Member :=
  let bad := fail (.badRange (.ofList (m ++ '-' :: k))) (m.length + 1 + k.length)
  match first, second with
  | .one a, .one b => if b < a then bad else pure (.range a b)
  | _, _ => bad

/-- The members of a set that starts at the given place, up to its bracket, which may be
the first of them. -/
def members (start : Nat) : Nat → List Member → Reading (List Member)
  | 0, _ => failPlainly .tooDeep
  | fuel + 1, acc => do
    match ← mark with
    | [] => fail .unterminatedSet ((← offset) - start)
    | m =>
      if m = [']'] && !acc.isEmpty then pure acc.reverse
      else
        let first ← setMember m
        if ← accept '-' then
          match ← mark with
          | [] => fail .unterminatedSet ((← offset) - start)
          | [']'] => pure (.one '-'.toNat :: first :: acc).reverse
          | k =>
            let second ← setMember k
            members start fuel ((← range first second m k) :: acc)
        else members start fuel (first :: acc)

/-- A set of characters, whose bracket was read. -/
def set (letters : Letters) : Reading Pattern := do
  let start := (← offset) - 1
  let negated ← accept '^'
  let found := (← members start ((← get).rest.length + 1) []).eraseDups
  match found with
  | [.one code] => pure (.one negated letters code)
  | found => pure (.set negated letters found)

/-- The number of repetitions that digits tell, if there are any. -/
def count (ds : List Char) (default : Option Nat) : Reading (Option Nat) :=
  if ds.isEmpty then pure default
  else if maxDigits < ds.length then failPlainly (.tooManyDigits ds.length)
  else
    let n := ofDigits (ds.filterMap digit?)
    if mostRepetitions ≤ n then failPlainly .tooManyRepetitions else pure (some n)

/-- A decimal digit. -/
def isDecimal (c : Char) : Bool := (digit? c).isSome

/-- The bounds between braces, the first of which was read. A brace that opens no bounds
is a character. -/
def bounds : Reading (Option (Nat × Option Nat)) := do
  let start ← get
  if (← next) = ['\x7d'] then pure none
  else
    let low ← run isDecimal
    let high ← if ← accept ',' then run isDecimal else pure low
    if !(← accept '\x7d') then
      modify fun r => { r with rest := start.rest, offset := start.offset }
      pure none
    else
      let least := (← count low (some 0)).getD 0
      let most ← count high none
      if most.any (· < least) then fail .repeatBounds ((← offset) - start.offset)
      else pure (some (least, most))

/-- How a repetition goes on, by the mark after it. -/
def appetite : Reading Appetite := do
  match ← next with
  | ['?'] =>
    let _ ← mark
    pure .lazy
  | ['+'] =>
    let _ ← mark
    pure .possessive
  | _ => pure .greedy

/-- A repetition of the last part; its mark ended at the given place. -/
def repetition (parts : List Part) (place least : Nat) (most : Option Nat) :
    Reading (List Part) := do
  let back := (← offset) - place + 1
  match parts with
  | [] => fail .nothingToRepeat back
  | part :: others =>
    match part.kind with
    | .fixed => fail .nothingToRepeat back
    | .repetition => fail .multipleRepeat back
    | .plain =>
      let appetite ← appetite
      pure (⟨[.repeated least most appetite (joined part.patterns)], .repetition⟩ :: others)

/-- Skips the rest of a line. -/
def skipLine : Nat → Reading Unit
  | 0 => pure ()
  | fuel + 1 => do
    let m ← mark
    if m = [] || m = ['\n'] then pure () else skipLine fuel

/-- Reads the bracket that closes a group, which starts at the given place. -/
def close (start : Nat) : Reading Unit := do
  if ← accept ')' then pure () else fail (.missing .endOfGroup) ((← offset) - start)

/-- The mode of the whole pattern. -/
def wholeMode : Reading Mode := do pure (Mode.plain.after (← get).flags [])

/-- A character that stands for a place or for all characters. -/
def pointMark? (mode : Mode) (c : Char) : Option Part :=
  match c with
  | '.' => some ⟨[.any mode.dotAll], .plain⟩
  | '^' => some ⟨[.place (if mode.lines then .lineStart else .textStart)], .fixed⟩
  | '$' => some ⟨[.place (if mode.lines then .lineEnd else .lastLineEnd)], .fixed⟩
  | _ => none

/-- The part that an escape stands for. -/
def escapePart (mode : Mode) (c : Char) : Reading Part := do
  let p ← escape mode c
  match p with
  | .place _ => pure ⟨[p], .fixed⟩
  | _ => pure ⟨[p], .plain⟩

/-- A mark that repeats what goes before it. -/
def repeatMark (mode : Mode) (c : Char) (parts : List Part) : Reading (List Part) := do
  let place ← offset
  match c with
  | '*' => repetition parts place 0 none
  | '+' => repetition parts place 1 none
  | '?' => repetition parts place 0 (some 1)
  | _ =>
    match ← bounds with
    | none => pure (⟨[.one false mode.letters c.toNat], .plain⟩ :: parts)
    | some (least, most) => repetition parts place least most

mutual

/-- Reads alternatives up to a closing bracket or the end; `isWhole` if they are the
whole pattern. -/
def alternatives : Nat → Bool → Mode → Reading (List Pattern)
  | 0, _, _ => failPlainly .tooDeep
  | fuel + 1, isWhole, mode => do
    let first ← parts fuel isWhole mode []
    let rest ← others fuel isWhole mode
    let mode ← if isWhole then wholeMode else pure mode
    pure (combined mode.letters (first :: rest))

/-- Reads the alternatives after the first. -/
def others : Nat → Bool → Mode → Reading (List (List Pattern))
  | 0, _, _ => failPlainly .tooDeep
  | fuel + 1, isWhole, mode => do
    if ← accept '|' then
      let mode ← if isWhole then wholeMode else pure mode
      let ps ← parts fuel false mode []
      pure (ps :: (← others fuel isWhole mode))
    else pure []

/-- Reads parts one after another, the last one of which comes first. `atStart` if flags
set here are those of the whole pattern. -/
def parts : Nat → Bool → Mode → List Part → Reading (List Pattern)
  | 0, _, _, _ => failPlainly .tooDeep
  | fuel + 1, atStart, mode, acc => do
    let m ← next
    if m = [] || m = ['|'] || m = [')'] then
      pure (acc.reverse.flatMap Part.patterns)
    else
      let _ ← mark
      match m with
      | ['\\', c] => parts fuel atStart mode ((← escapePart mode c) :: acc)
      | [c] =>
        if mode.verbose && isSpaceChar true c then parts fuel atStart mode acc
        else if mode.verbose && c = '#' then
          skipLine ((← get).rest.length + 1)
          parts fuel atStart mode acc
        else if c = '[' then
          parts fuel atStart mode (⟨[← set mode.letters], .plain⟩ :: acc)
        else if c = '*' || c = '+' || c = '?' || c = '\x7b' then
          parts fuel atStart mode (← repeatMark mode c acc)
        else if c = '(' then
          let start := (← offset) - 1
          match ← head start with
          | .comment => parts fuel atStart mode acc
          | .wholeMode =>
            if atStart && acc.isEmpty then parts fuel atStart (← wholeMode) acc
            else fail .lateFlags ((← offset) - start)
          | head =>
            let ps ← group fuel mode start head
            parts fuel atStart mode (⟨ps, .plain⟩ :: acc)
        else
          match pointMark? mode c with
          | some part => parts fuel atStart mode (part :: acc)
          | none => parts fuel atStart mode (⟨[.one false mode.letters c.toNat], .plain⟩ :: acc)
      | _ => parts fuel atStart mode acc

/-- Reads what follows the head of a group, which starts at the given place. -/
def group : Nat → Mode → Nat → Head → Reading (List Pattern)
  | 0, _, _, _ => failPlainly .tooDeep
  | fuel + 1, mode, start, head => do
    match head with
    | .recall number => pure [.recall number mode.letters]
    | .capture name =>
      let number ← openGroup name
      let body := joined (← alternatives fuel false mode)
      close start
      modify fun r => { r with closed := (number, body.width r.widthOf) :: r.closed }
      pure [.group number body]
    | .mode on off =>
      let ps ← alternatives fuel false (mode.after on off)
      close start
      pure [.seq (joined ps) .empty]
    | .ahead negated =>
      let body := joined (← alternatives fuel false mode)
      close start
      pure [.ahead negated body]
    | .behind negated =>
      let before := (← get).before
      modify fun r => { r with before := before.or (some r.groups) }
      let body := joined (← alternatives fuel false mode)
      modify fun r => { r with before := before }
      close start
      let width := body.width (← get).widthOf
      pure [.behind negated width.least width.most body]
    | .once =>
      let body := joined (← alternatives fuel false mode)
      close start
      pure [.once body]
    | .given number =>
      checkCondition number
      let yes := joined (← parts fuel false mode [])
      let no ←
        if ← accept '|' then
          let no ← parts fuel false mode []
          if (← next) = ['|'] then fail .tooManyBranches 0 else pure no
        else pure []
      close start
      pure [.given number yes (joined no)]
    | _ =>
      let ps ← alternatives fuel false mode
      close start
      pure ps

end

/-- Makes sure that nothing is left, and that conditions ask for groups that exist. -/
def finish : Reading Unit := do
  let r ← get
  if r.flags.contains 'a' && r.flags.contains 'u' then failPlainly .bothAlphabets
  else if !r.rest.isEmpty then fail .unbalanced 0
  else
    match r.asked.reverse.find? fun (n, _) => r.groups < n with
    | some (n, spot) => fail (.invalidReference n) (r.offset - spot)
    | none => pure ()

/-- Reads a whole pattern. Every part takes a character, so the length of the text is fuel
enough. -/
def whole : Reading Pattern := do
  lookAhead
  let ps ← alternatives (4 * (← get).rest.length + 8) true .plain
  finish
  pure (joined ps)

end Reading

/-- The name of an appetite in a sentence. -/
def Appetite.operator : Appetite → String
  | .greedy => "MAX_REPEAT"
  | .lazy => "MIN_REPEAT"
  | .possessive => "POSSESSIVE_REPEAT"

/-- No condition looks at more characters than this. -/
def widestCondition : Nat := 4294967295

/-- What a pattern asks for that cannot be done, the first of it. `template` if
repetitions are not supported. -/
def impossible? (template : Bool) : Pattern → Option Trouble
  | .seq a b => (a.impossible? template).or (b.impossible? template)
  | .either a b => (a.impossible? template).or (b.impossible? template)
  | .repeated _ _ appetite body =>
    if template then some (.template appetite.operator) else body.impossible? template
  | .group _ body => body.impossible? template
  | .ahead _ body => body.impossible? template
  | .behind _ least most body =>
    if widestCondition < least then some .tooWide
    else if least ≠ most then some .variableWidth
    else body.impossible? template
  | .once body => body.impossible? template
  | .given _ yes no => (yes.impossible? template).or (no.impossible? template)
  | _ => none

/-- The pattern of a text, or the rule that the text breaks. -/
def ofText (s : String) : Except Fault Pattern := do
  let (p, r) ← Reading.whole ⟨s.toList, 0, [], 0, [], [], none, []⟩
  match p.impossible? (r.flags.contains 't') with
  | some trouble => throw ⟨trouble, none⟩
  | none => pure p

end LspGateway.Pattern
