import LspGateway.Pattern.Basic

/-! # Finding a pattern in a text

The ways to match a pattern are tried one after another; what comes after a part is
told to it, so that the first way that leads to the end is found.
-/

namespace LspGateway.Pattern
open LspGateway.Text

/-- A place in a text, and what the groups took so far, latest first. -/
structure Progress where
  offset : Nat
  taken : List (Nat × Nat × Nat)
  deriving Repr

/-- What a group took last. -/
def Progress.group? (p : Progress) (number : Nat) : Option (Nat × Nat) :=
  (p.taken.find? (·.1 == number)).map (·.2)

/-- The letter that stands for all that are the same. -/
def Letters.fold (l : Letters) (n : Nat) : Nat :=
  if !l.folded then n else if l.ascii then Folding.smallAscii n else Folding.small n

/-- Whether two code points are the same letter. -/
def Letters.same (l : Letters) (a b : Nat) : Bool :=
  if !l.folded then a = b
  else if l.ascii then Folding.smallAscii a = Folding.smallAscii b
  else (Folding.equals (Folding.small a)).contains (Folding.small b)

/-- The last code point of the first plane. -/
def firstPlane : Nat := 0xFFFF

/-- Whether a member of a set stands for a letter, which is a small one. In the first
plane all that is the same letter is looked for; beyond it a character stands for itself,
and a range also for the small letters of its capitals. -/
def Member.containsLetter (l : Letters) (n : Nat) (m : Member) : Bool :=
  let sources := if l.ascii then Folding.asciiSources n else Folding.sources n
  match m with
  | .one code => if code ≤ firstPlane then sources.contains code else code = n
  | .range low high =>
    (sources.any fun k => low ≤ k && k ≤ min high firstPlane) ||
      (firstPlane < high &&
        ((low ≤ n && n ≤ high) || (low ≤ Folding.capital n && Folding.capital n ≤ high)))
  | .kind k negated => k.contains l.ascii (Char.ofNat n) != negated

/-- Whether a member of a set stands for a character. -/
def Member.contains (l : Letters) (c : Char) (m : Member) : Bool :=
  if l.folded then m.containsLetter l (l.fold c.toNat)
  else
    match m with
    | .one code => code = c.toNat
    | .range low high => low ≤ c.toNat && c.toNat ≤ high
    | .kind k negated => k.contains l.ascii c != negated

/-- Whether a place in a text is of a kind. A text without characters has no words, and
no place that is at their ends or is not. -/
def Place.holds (text : Array Char) (i : Nat) : Place → Bool
  | .textStart => i = 0
  | .textEnd => i = text.size
  | .lineStart => i = 0 || text[i - 1]? = some '\n'
  | .lineEnd => i = text.size || text[i]? = some '\n'
  | .lastLineEnd => i = text.size || (i + 1 = text.size && text[i]? = some '\n')
  | .wordBoundary negated ascii =>
    let before := i ≠ 0 && (text[i - 1]?).any (isWordChar ascii)
    let after := (text[i]?).any (isWordChar ascii)
    text.size ≠ 0 && (before != after) != negated

/-- Takes the characters that a group took, once more. -/
def recallAt (text : Array Char) (letters : Letters) (start stop i : Nat) : Option Nat :=
  let same := (List.range (stop - start)).all fun k =>
    match text[start + k]?, text[i + k]? with
    | some a, some b => letters.fold a.toNat = letters.fold b.toNat
    | _, _ => false
  if same then some (i + (stop - start)) else none

/-- Takes one character, if it is one of those meant. -/
def takeOne (text : Array Char) (p : Progress) (isMeant : Char → Bool) : Option Progress :=
  match text[p.offset]? with
  | some c => if isMeant c then some { p with offset := p.offset + 1 } else none
  | none => none

/-- Matches a pattern from a place on, and then what comes after it. A round of a
repetition that takes nothing is its last. The fuel bounds the nesting of the parts and
the rounds of the repetitions. -/
def run (text : Array Char) :
    Nat → Pattern → Progress → (Progress → Option Progress) → Option Progress
  | 0, _, _, _ => none
  | fuel + 1, pattern, p, next =>
    match pattern with
    | .empty => next p
    | .one negated letters code =>
      (takeOne text p fun c => letters.same code c.toNat != negated).bind next
    | .any breaks => (takeOne text p fun c => breaks || c != '\n').bind next
    | .set negated letters members =>
      (takeOne text p fun c => (members.any fun m => m.contains letters c) != negated).bind next
    | .place spot => if spot.holds text p.offset then next p else none
    | .seq a b => run text fuel a p fun q => run text fuel b q next
    | .either a b =>
      match run text fuel a p next with
      | some q => some q
      | none => run text fuel b p next
    | .repeated least most .possessive body =>
      match run text fuel (.repeated least most .greedy body) p some with
      | some q => next q
      | none => none
    | .repeated least most appetite body =>
      let more : Unit → Option Progress := fun _ =>
        if most = some 0 then none
        else
          run text fuel body p fun q =>
            if q.offset = p.offset && least = 0 then next q
            else run text fuel (.repeated (least - 1) (most.map (· - 1)) appetite body) q next
      if 0 < least then more ()
      else if appetite = .lazy then
        match next p with
        | some q => some q
        | none => more ()
      else
        match more () with
        | some q => some q
        | none => next p
    | .group number body =>
      run text fuel body p fun q => next { q with taken := (number, p.offset, q.offset) :: q.taken }
    | .recall number letters =>
      match p.group? number with
      | some (start, stop) =>
        match recallAt text letters start stop p.offset with
        | some i => next { p with offset := i }
        | none => none
      | none => none
    | .ahead negated body =>
      match run text fuel body p some with
      | some q => if negated then none else next { p with taken := q.taken }
      | none => if negated then next p else none
    | .behind negated width _ body =>
      let found :=
        if p.offset < width then none
        else run text fuel body { p with offset := p.offset - width } fun q =>
          if q.offset = p.offset then some q else none
      match found with
      | some q => if negated then none else next { p with taken := q.taken }
      | none => if negated then next p else none
    | .once body =>
      match run text fuel body p some with
      | some q => next q
      | none => none
    | .given number yes no =>
      run text fuel (if (p.group? number).isSome then yes else no) p next

/-- Whether a text holds something that a pattern describes. -/
def occursIn (pattern : Pattern) (s : String) : Bool :=
  let text := s.toList.toArray
  let fuel := (pattern.size + 2) * (text.size + pattern.size + 4)
  (List.range (text.size + 1)).any fun i => (run text fuel pattern ⟨i, []⟩ some).isSome

end LspGateway.Pattern
