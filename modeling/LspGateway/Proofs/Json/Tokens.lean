import LspGateway.Proofs.Json.Reading

/-! # Blanks between tokens

A text falls apart into strings, words and numbers, marks and blanks. How far each of
them goes is seen from the token itself, so a reader gives the same value whatever
blanks are put between the tokens. The places between them are all the places where
something may be put without a change to a token.
-/

namespace LspGateway.Json
open LspGateway.Text

/-! ## Tokens -/

/-- A character that is a token of its own: a mark of the grammar or a blank. -/
def isMark (c : Char) : Bool :=
  c = '[' || c = ']' || c = '\x7b' || c = '\x7d' || c = ',' || c = ':' || isSpace c

/-- A token with this text where the text `r` follows. A word or a number is all that
can belong to it. -/
inductive Token : List Char → List Char → Prop
  | string {s r : List Char} (tail : StringTail s) : Token ('"' :: s) r
  | scalar {s r : List Char} (nonempty : s ≠ []) (all : ∀ c ∈ s, isScalar c = true)
    (ends : Ends r) :
    Token s r
  | mark {c : Char} {r : List Char} (mark : isMark c = true) : Token [c] r

/-- The second text is the first with pieces put between its tokens, at its start and
at its end. Whether a piece may stand at a place is seen from it and from what follows
it. -/
inductive Interspersed (may : List Char → List Char → Prop) : List Char → List Char → Prop
  | nil : Interspersed may [] []
  | token {s t t' : List Char} (token : Token s t) (rest : Interspersed may t t') :
    Interspersed may (s ++ t) (s ++ t')
  | piece {p t t' : List Char} (allowed : may p t') (rest : Interspersed may t t') :
    Interspersed may t (p ++ t')

/-- Blanks put between tokens. -/
abbrev Spaced : List Char → List Char → Prop :=
  Interspersed fun p _ => ∀ c ∈ p, isSpace c = true

/-- Two texts that start with the same token, and from there on the second is the first
with blanks between tokens. -/
inductive Aligned : List Char → List Char → Prop
  | token {s t t' : List Char} (token : Token s t) (rest : Spaced t t') : Aligned (s ++ t) (s ++ t')

variable {c : Char} {s t t' u : List Char} {may also : List Char → List Char → Prop}

theorem Interspersed.mono (weaker : ∀ p r, may p r → also p r) (h : Interspersed may t t') :
    Interspersed also t t' := by
  induction h with
  | nil => exact .nil
  | token token _ ih => exact .token token ih
  | piece allowed _ ih => exact .piece (weaker _ _ allowed) ih

theorem Interspersed.length_le (h : Interspersed may t t') : t.length ≤ t'.length := by
  induction h with
  | nil => exact le_rfl
  | token _ _ ih => simpa using ih
  | piece _ _ ih =>
    rw [List.length_append]
    omega

theorem Token.ne_nil (h : Token s t) : s ≠ [] := by
  cases h with
  | string => simp
  | scalar nonempty => exact nonempty
  | mark => simp

/-- Both start with the same character. -/
theorem Aligned.head (h : Aligned t t') : ∃ c r r', t = c :: r ∧ t' = c :: r' := by
  cases h with
  | @token s t t' token _ =>
    obtain ⟨c, s, rfl⟩ := List.exists_cons_of_ne_nil token.ne_nil
    exact ⟨c, s ++ t, s ++ t', rfl, rfl⟩

/-- A blank is a token of its own. -/
theorem Token.alone (h : Token (c :: s) t) (blank : isSpace c = true) : s = [] := by
  cases h with
  | string => exact absurd blank (by decide)
  | scalar _ all => simp [not_isSpace_of_isScalar (all c List.mem_cons_self)] at blank
  | mark => rfl

/-- After their blanks both texts are at their end, or both start with the same
token. -/
theorem Interspersed.skipSpace (h : Spaced t t') :
    (skipSpace t = [] ∧ skipSpace t' = []) ∨ Aligned (skipSpace t) (skipSpace t') := by
  induction h with
  | nil => exact .inl ⟨rfl, rfl⟩
  | @token s t t' token rest ih =>
    obtain ⟨c, s, rfl⟩ := List.exists_cons_of_ne_nil token.ne_nil
    cases blank : isSpace c with
    | true =>
      obtain rfl := token.alone blank
      simpa [Json.skipSpace, blank] using ih
    | false =>
      have start (r : List Char) : Json.skipSpace (c :: s ++ r) = c :: s ++ r :=
        skipSpace_cons blank
      rw [start, start]
      exact .inr (.token token rest)
  | piece blank _ ih =>
    rwa [skipSpace_append (List.all_eq_true.mpr blank)]

/-! ## The token at the start -/

theorem isScalar_of_isMark (h : isMark c = true) : isScalar c = false := by
  simp only [isMark, Bool.or_eq_true, decide_eq_true_eq] at h
  obtain (((((rfl | rfl) | rfl) | rfl) | rfl) | rfl) | blank := h <;>
    first | rfl | exact isScalar_of_isSpace blank

theorem Aligned.mark (h : Aligned (c :: t) u) (mark : isMark c = true) :
    ∃ t', u = c :: t' ∧ Spaced t t' := by
  generalize start : c :: t = text at h
  cases h with
  | token token rest =>
    cases token with
    | string =>
      obtain ⟨rfl, -⟩ := List.cons.inj start
      exact absurd mark (by decide)
    | scalar nonempty all =>
      obtain ⟨d, s, rfl⟩ := List.exists_cons_of_ne_nil nonempty
      obtain ⟨rfl, -⟩ := List.cons.inj start
      exact absurd (all c List.mem_cons_self) (by simp [isScalar_of_isMark mark])
    | mark =>
      obtain ⟨rfl, rfl⟩ := List.cons.inj start
      exact ⟨_, rfl, rest⟩

theorem Aligned.string (h : Aligned ('"' :: (s ++ t)) u) (tail : StringTail s) :
    ∃ t', u = '"' :: (s ++ t') ∧ Spaced t t' := by
  generalize start : '"' :: (s ++ t) = text at h
  cases h with
  | token token rest =>
    cases token with
    | string tail' =>
      obtain ⟨rfl, rfl⟩ := tail.unique tail' (List.cons.inj start).2
      exact ⟨_, rfl, rest⟩
    | scalar nonempty all =>
      obtain ⟨d, s, rfl⟩ := List.exists_cons_of_ne_nil nonempty
      obtain ⟨rfl, -⟩ := List.cons.inj start
      exact absurd (all '"' List.mem_cons_self) (by decide)
    | mark mark =>
      obtain ⟨rfl, -⟩ := List.cons.inj start
      exact absurd mark (by decide)

theorem Aligned.scalar (h : Aligned (c :: t) u) (scalar : isScalar c = true) :
    ∃ w r r', c :: t = w ++ r ∧ u = w ++ r' ∧ (∀ d ∈ w, isScalar d = true) ∧ Ends r ∧
      Spaced r r' := by
  generalize start : c :: t = text at h
  cases h with
  | token token rest =>
    cases token with
    | string =>
      obtain ⟨rfl, -⟩ := List.cons.inj start
      exact absurd scalar (by decide)
    | scalar _ all ends => exact ⟨_, _, _, rfl, rfl, all, ends, rest⟩
    | mark mark =>
      obtain ⟨rfl, -⟩ := List.cons.inj start
      exact absurd scalar (by simp [isScalar_of_isMark mark])

/-! ## Reading with blanks between tokens -/

variable {room fuel : Nat} {v : Json} {cs rest : List Char}

/-- A value is read again where blanks are put between the tokens. -/
def KeepsValue (fuel : Nat) : Prop :=
  ∀ {room fuel' : Nat} {cs cs' rest : List Char} {v : Json}, fuel ≤ fuel' → Aligned cs cs' →
    readValue room fuel cs = .ok (v, rest) →
    ∃ rest', readValue room fuel' cs' = .ok (v, rest') ∧ Spaced rest rest'

/-- So are the items of an array. -/
def KeepsItems (fuel : Nat) : Prop :=
  ∀ {room fuel' : Nat} {cs cs' rest : List Char} {acc xs : List Json}, fuel ≤ fuel' →
    Aligned cs cs' → readItems room fuel cs acc = .ok (xs, rest) →
    ∃ rest', readItems room fuel' cs' acc = .ok (xs, rest') ∧ Spaced rest rest'

/-- So are the members of an object. -/
def KeepsMembers (fuel : Nat) : Prop :=
  ∀ {room fuel' : Nat} {cs cs' rest : List Char} {acc ms : Members}, fuel ≤ fuel' →
    Aligned cs cs' → readMembers room fuel cs acc = .ok (ms, rest) →
    ∃ rest', readMembers room fuel' cs' acc = .ok (ms, rest') ∧ Spaced rest rest'

theorem readValue_nil (room fuel : Nat) : ∃ stop, readValue room fuel [] = .error stop := by
  cases fuel <;> exact ⟨_, rfl⟩

theorem readItems_nil (room fuel : Nat) (acc : List Json) :
    ∃ stop, readItems room fuel [] acc = .error stop := by
  cases fuel with
  | zero => exact ⟨_, rfl⟩
  | succ fuel =>
    obtain ⟨stop, failed⟩ := readValue_nil room fuel
    exact ⟨stop, by simp [readItems, failed]⟩

theorem readMembers_nil (room fuel : Nat) (acc : Members) :
    ∃ stop, readMembers room fuel [] acc = .error stop := by
  cases fuel <;> exact ⟨_, rfl⟩

/-- What comes after the blanks starts with the same token, if anything does. -/
theorem Interspersed.aligned (h : Spaced t t') (more : Json.skipSpace t ≠ []) :
    Aligned (Json.skipSpace t) (Json.skipSpace t') :=
  h.skipSpace.resolve_left fun none => more none.1

theorem Interspersed.skip_mark (h : Spaced t t') (start : Json.skipSpace t = c :: u)
    (mark : isMark c = true) : ∃ u', Json.skipSpace t' = c :: u' ∧ Spaced u u' := by
  have aligned := h.aligned (by simp [start])
  rw [start] at aligned
  exact aligned.mark mark

theorem Aligned.head_eq (h : Aligned t t') : t.head? = t'.head? := by
  obtain ⟨c, r, r', rfl, rfl⟩ := h.head
  rfl

theorem Interspersed.ends (h : Spaced t t') (ends : Ends t) : Ends t' := by
  induction h with
  | nil => exact ends
  | token token _ _ =>
    obtain ⟨c, s, rfl⟩ := List.exists_cons_of_ne_nil token.ne_nil
    simpa using ends
  | @piece p t t' blank _ ih =>
    cases p with
    | nil => exact ih ends
    | cons c p => exact ends_cons.mpr (isScalar_of_isSpace (blank c List.mem_cons_self))

/-- A word or a number is read again, and what is left of its characters is a token
again. -/
theorem Aligned.readScalar (h : Aligned (c :: t) u) (scalar : isScalar c = true)
    (read : readScalar (c :: t) = .ok (v, rest)) :
    ∃ t' rest', u = c :: t' ∧ Json.readScalar (c :: t') = .ok (v, rest') ∧ Spaced rest rest' := by
  obtain ⟨w, r, r', start, rfl, all, ends, spaced⟩ := h.scalar scalar
  rw [start] at read
  obtain ⟨x, rfl, own⟩ := readScalar_text ends read
  have nonempty : w ≠ [] := by
    rintro rfl
    simp [readScalar_nil] at own
  obtain ⟨d, w, rfl⟩ := List.exists_cons_of_ne_nil nonempty
  obtain ⟨rfl, -⟩ := List.cons.inj start
  refine ⟨w ++ r', x ++ r', rfl, readScalar_append (spaced.ends ends) own, ?_⟩
  cases x with
  | nil => exact spaced
  | cons e x =>
    exact .token (.scalar (by simp) (fun d hd => all d ((readScalar_suffix own).subset hd)) ends)
      spaced

/-- What comes first after the blanks is the same, or missing in both. -/
theorem Interspersed.head_ne (h : Spaced t t') (other : (Json.skipSpace t).head? ≠ some c) :
    (Json.skipSpace t').head? ≠ some c := by
  rcases h.skipSpace with ⟨-, none⟩ | aligned
  · simp [none]
  · exact aligned.head_eq ▸ other

section Keeps

variable {fuel' : Nat}

theorem KeepsValue.spaced (h : KeepsValue fuel) (within : fuel ≤ fuel') (spaced : Spaced t t')
    (read : readValue room fuel (skipSpace t) = .ok (v, rest)) :
    ∃ rest', readValue room fuel' (skipSpace t') = .ok (v, rest') ∧ Spaced rest rest' := by
  refine h within (spaced.aligned fun none => ?_) read
  obtain ⟨stop, failed⟩ := readValue_nil room fuel
  simp [none, failed] at read

theorem KeepsItems.spaced (h : KeepsItems fuel) (within : fuel ≤ fuel') (spaced : Spaced t t')
    {acc xs : List Json} (read : readItems room fuel (skipSpace t) acc = .ok (xs, rest)) :
    ∃ rest', readItems room fuel' (skipSpace t') acc = .ok (xs, rest') ∧ Spaced rest rest' := by
  refine h within (spaced.aligned fun none => ?_) read
  obtain ⟨stop, failed⟩ := readItems_nil room fuel acc
  simp [none, failed] at read

theorem KeepsMembers.spaced (h : KeepsMembers fuel) (within : fuel ≤ fuel')
    (spaced : Spaced t t') {acc ms : Members}
    (read : readMembers room fuel (skipSpace t) acc = .ok (ms, rest)) :
    ∃ rest', readMembers room fuel' (skipSpace t') acc = .ok (ms, rest') ∧ Spaced rest rest' := by
  refine h within (spaced.aligned fun none => ?_) read
  obtain ⟨stop, failed⟩ := readMembers_nil room fuel acc
  simp [none, failed] at read

theorem keepsValue_zero : KeepsValue 0 := fun _ _ read => by simp [readValue] at read

theorem keepsItems_zero : KeepsItems 0 := fun _ _ read => by simp [readItems] at read

theorem keepsMembers_zero : KeepsMembers 0 := fun _ _ read => by simp [readMembers] at read

theorem keepsValue_succ (items : KeepsItems fuel) (members : KeepsMembers fuel) :
    KeepsValue (fuel + 1) := by
  intro room fuel' cs cs' rest v more aligned read
  obtain ⟨fuel', rfl⟩ := Nat.exists_eq_add_of_le' (Nat.le_of_add_left_le more)
  have within : fuel ≤ fuel' := by omega
  cases readsValue_of_read read with
  | string tail =>
    obtain ⟨rest', rfl, spaced⟩ := aligned.string tail.tail
    exact ⟨rest', (ReadsValue.string tail).read, spaced⟩
  | nil space close =>
    obtain ⟨u, rfl, spaced⟩ := aligned.mark rfl
    obtain ⟨rest', close', spaced⟩ := spaced.skip_mark close rfl
    exact ⟨rest', (ReadsValue.nil space close').read, spaced⟩
  | array space some read =>
    obtain ⟨u, rfl, spaced⟩ := aligned.mark rfl
    obtain ⟨rest', read', spaced'⟩ := items.spaced within spaced read
    exact ⟨rest', (ReadsValue.array space (spaced.head_ne some) read').read, spaced'⟩
  | empty space close =>
    obtain ⟨u, rfl, spaced⟩ := aligned.mark rfl
    obtain ⟨rest', close', spaced⟩ := spaced.skip_mark close rfl
    exact ⟨rest', (ReadsValue.empty space close').read, spaced⟩
  | object space some read =>
    obtain ⟨u, rfl, spaced⟩ := aligned.mark rfl
    obtain ⟨rest', read', spaced'⟩ := members.spaced within spaced read
    exact ⟨rest', (ReadsValue.object space (spaced.head_ne some) read').read, spaced'⟩
  | scalar scalar read =>
    obtain ⟨t', rest', rfl, read', spaced⟩ := aligned.readScalar scalar read
    exact ⟨rest', (ReadsValue.scalar scalar read').read, spaced⟩

theorem keepsItems_succ (value : KeepsValue fuel) (items : KeepsItems fuel) :
    KeepsItems (fuel + 1) := by
  intro room fuel' cs cs' rest acc xs more aligned read
  obtain ⟨fuel', rfl⟩ := Nat.exists_eq_add_of_le' (Nat.le_of_add_left_le more)
  have within : fuel ≤ fuel' := by omega
  cases readsItem_of_read read with
  | last item close =>
    obtain ⟨rest', item', spaced⟩ := value within aligned item
    obtain ⟨after, close', spaced⟩ := spaced.skip_mark close rfl
    exact ⟨after, (ReadsItem.last item' close').read, spaced⟩
  | more item comma tail =>
    obtain ⟨rest', item', spaced⟩ := value within aligned item
    obtain ⟨next, comma', spaced⟩ := spaced.skip_mark comma rfl
    obtain ⟨after, tail', spaced⟩ := items.spaced within spaced tail
    exact ⟨after, (ReadsItem.more item' comma' tail').read, spaced⟩

theorem keepsMembers_succ (value : KeepsValue fuel) (members : KeepsMembers fuel) :
    KeepsMembers (fuel + 1) := by
  intro room fuel' cs cs' rest acc ms more aligned read
  obtain ⟨fuel', rfl⟩ := Nat.exists_eq_add_of_le' (Nat.le_of_add_left_le more)
  have within : fuel ≤ fuel' := by omega
  cases readsMember_of_read read with
  | last key colon member close =>
    obtain ⟨t', rfl, spaced⟩ := aligned.string key.tail
    obtain ⟨value', colon', spaced⟩ := spaced.skip_mark colon rfl
    obtain ⟨rest', member', spaced⟩ := value.spaced within spaced member
    obtain ⟨after, close', spaced⟩ := spaced.skip_mark close rfl
    exact ⟨after, (ReadsMember.last key colon' member' close').read, spaced⟩
  | more key colon member comma tail =>
    obtain ⟨t', rfl, spaced⟩ := aligned.string key.tail
    obtain ⟨value', colon', spaced⟩ := spaced.skip_mark colon rfl
    obtain ⟨rest', member', spaced⟩ := value.spaced within spaced member
    obtain ⟨next, comma', spaced⟩ := spaced.skip_mark comma rfl
    obtain ⟨after, tail', spaced⟩ := members.spaced within spaced tail
    exact ⟨after, (ReadsMember.more key colon' member' comma' tail').read, spaced⟩

end Keeps

/-- The three readers call each other with less fuel, so one induction carries all. -/
theorem keeps : ∀ fuel, KeepsValue fuel ∧ KeepsItems fuel ∧ KeepsMembers fuel
  | 0 => ⟨keepsValue_zero, keepsItems_zero, keepsMembers_zero⟩
  | fuel + 1 =>
    have ⟨value, items, members⟩ := keeps fuel
    ⟨keepsValue_succ items members, keepsItems_succ value items, keepsMembers_succ value members⟩

theorem Interspersed.nil_skip (h : Spaced t t') (none : Json.skipSpace t = []) :
    Json.skipSpace t' = [] := by
  rcases h.skipSpace with both | aligned
  · exact both.2
  · obtain ⟨c, r, r', start, -⟩ := aligned.head
    simp [none] at start

theorem Interspersed.head_mark (h : Spaced t t') (mark : t'.head? = some '\uFEFF') :
    t.head? = some '\uFEFF' := by
  induction h with
  | nil => exact mark
  | token token _ _ =>
    obtain ⟨c, s, rfl⟩ := List.exists_cons_of_ne_nil token.ne_nil
    simpa using mark
  | @piece p t t' blank _ ih =>
    cases p with
    | nil => exact ih mark
    | cons c p =>
      obtain rfl : c = '\uFEFF' := by simpa using mark
      exact absurd (blank _ List.mem_cons_self) (by decide)

theorem readText_mark {depth : Nat} (h : cs.head? = some '\uFEFF') :
    readText depth cs = .error ⟨.byteOrderMark, cs⟩ := by
  obtain ⟨t, rfl⟩ := List.head?_eq_some_iff.mp h
  rfl

/-- Blanks put between the tokens of a text do not change its value. -/
theorem parse_spaced (h : Spaced t t') (read : parse t = .ok v) : parse t' = .ok v := by
  rw [parse_eq_ok] at read ⊢
  have plain : t.head? ≠ some '\uFEFF' := by
    intro mark
    simp [readText_mark mark] at read
  rw [readText_eq_ok plain] at read
  rw [readText_eq_ok fun mark => plain (h.head_mark mark)]
  obtain ⟨rest, value, none⟩ := read
  have more : 2 * t.length + 2 ≤ 2 * t'.length + 2 := by have := h.length_le; omega
  have keeps : KeepsValue (2 * t.length + 2) := (keeps _).1
  obtain ⟨rest', value', spaced⟩ := keeps.spaced more h value
  exact ⟨rest', value', spaced.nil_skip none⟩

/-! ## A text that is read is made of tokens -/

/-- From one place of a text to a later one there are whole tokens. No word or number comes right
after another one, whatever blanks are between. -/
inductive Passes : List Char → List Char → Prop
  | refl {t : List Char} : Passes t t
  | token {s t u : List Char} (token : Token s t)
    (last : ∀ c ∈ s.head?, isScalar c = true → Ends (skipSpace t))
    (rest : Passes t u) : Passes (s ++ t) u

theorem Passes.trans (h : Passes t u) {w : List Char} (h' : Passes u w) : Passes t w := by
  induction h with
  | refl => exact h'
  | token token last _ ih => exact .token token last (ih h')

theorem Passes.mark (mark : isMark c = true) (h : Passes t u) : Passes (c :: t) u := by
  refine .token (s := [c]) (.mark mark) ?_ h
  rintro _ ⟨⟩ scalar
  exact absurd scalar (by simp [isScalar_of_isMark mark])

theorem Passes.interspersed (h : Passes t []) : Interspersed may t t := by
  generalize stop : ([] : List Char) = u at h
  induction h with
  | refl => exact stop ▸ .nil
  | token token _ _ ih => exact .token token (ih stop)

/-- What is passed over starts with a token. -/
theorem Passes.first (h : Passes (c :: t) []) : ∃ s r, Token s r ∧ c :: t = s ++ r ∧ Passes r [] ∧
    ∀ d ∈ s.head?, isScalar d = true → Ends (Json.skipSpace r) := by
  generalize start : c :: t = cs at h
  cases h with
  | refl => cases start
  | token token last rest => exact ⟨_, _, token, rfl, rest, last⟩

/-- A token that starts with a quote is a string. -/
theorem Token.string_of_quote {r : List Char} (h : Token s r) (text : '"' :: t = s ++ r) :
    ∃ s', StringTail s' ∧ s = '"' :: s' ∧ t = s' ++ r := by
  cases h with
  | string tail => exact ⟨_, tail, rfl, (List.cons.inj text).2⟩
  | mark mark =>
    rw [← (List.cons.inj text).1] at mark
    exact absurd mark (by decide)
  | scalar nonempty all =>
    obtain ⟨x, s, rfl⟩ := List.exists_cons_of_ne_nil nonempty
    have scalar := all x List.mem_cons_self
    rw [← (List.cons.inj text).1] at scalar
    exact absurd scalar (by decide)

/-- Whatever starts no string is a mark, or belongs to a word or a number, and what comes after it
is passed over as well. -/
theorem Passes.tail (h : Passes (c :: t) []) (quote : c ≠ '"') : Passes t [] ∧
    (isMark c = true ∨ isScalar c = true ∧
      ((∀ d ∈ t.head?, isSpace d = true) → Ends (Json.skipSpace t))) := by
  obtain ⟨s, r, token, text, rest, last⟩ := h.first
  cases token with
  | string => exact absurd (List.cons.inj text).1 quote
  | mark mark =>
    obtain ⟨rfl, rfl⟩ := List.cons.inj text
    exact ⟨rest, .inl mark⟩
  | scalar nonempty all ends =>
    obtain ⟨x, s, rfl⟩ := List.exists_cons_of_ne_nil nonempty
    obtain ⟨rfl, rfl⟩ := List.cons.inj text
    obtain ⟨scalar, others⟩ := List.forall_mem_cons.mp all
    have apart := last c rfl scalar
    cases s with
    | nil => exact ⟨rest, .inr ⟨scalar, fun _ => apart⟩⟩
    | cons y s =>
      have more := others y List.mem_cons_self
      refine ⟨.token (.scalar (List.cons_ne_nil y s) others ends) (fun _ _ _ => apart) rest,
        .inr ⟨scalar, fun blank => ?_⟩⟩
      simp [not_isSpace_of_isScalar more] at blank

theorem isMark_of_isSpace (h : isSpace c = true) : isMark c = true := by simp [isMark, h]

theorem passes_skipSpace (t : List Char) : Passes t (skipSpace t) := by
  induction t with
  | nil => exact .refl
  | cons c t ih =>
    cases blank : isSpace c with
    | true => simpa [skipSpace, blank] using ih.mark (isMark_of_isSpace blank)
    | false => rw [skipSpace_cons blank]; exact .refl

/-- What a mark or the end of the text follows after blanks is no more of a word or a
number. -/
theorem ends_of_skipSpace (h : Ends (skipSpace t)) : Ends t := by
  cases t with
  | nil => exact h
  | cons c t =>
    cases blank : isSpace c with
    | true => exact ends_cons.mpr (isScalar_of_isSpace blank)
    | false => rwa [skipSpace_cons blank] at h

theorem ends_of_mark (start : skipSpace t = c :: u) (mark : isMark c = true) :
    Ends (skipSpace t) := by
  simp [start, isScalar_of_isMark mark]

/-- From the blanks before a mark on, up to what follows it. -/
theorem passes_mark (start : skipSpace t = c :: u) (mark : isMark c = true) : Passes t u := by
  have skipped := passes_skipSpace t
  rw [start] at skipped
  exact skipped.trans (Passes.refl.mark mark)

theorem passes_string (tail : StringTail s) : Passes ('"' :: (s ++ t)) t := by
  refine .token (s := '"' :: s) (.string tail) ?_ .refl
  rintro _ ⟨⟩ scalar
  exact absurd scalar (by decide)

theorem passes_scalar (read : readScalar cs = .ok (v, rest)) (ends : Ends (skipSpace rest)) :
    Passes cs rest := by
  have run : cs.takeWhile isScalar ++ cs.dropWhile isScalar = cs := List.takeWhile_append_dropWhile
  have stop : Ends (cs.dropWhile isScalar) := fun c hc => by
    have first := List.head?_dropWhile_not isScalar cs
    rwa [Option.mem_def.mp hc] at first
  have all : ∀ c ∈ cs.takeWhile isScalar, isScalar c = true := fun c => List.mem_takeWhile_imp
  rw [← run] at read
  obtain ⟨x, rfl, own⟩ := readScalar_text stop read
  have nonempty : cs.takeWhile isScalar ≠ [] := by
    intro none
    simp [none, readScalar_nil] at own
  cases x with
  | nil =>
    have token := Passes.token (.scalar nonempty all stop) (fun _ _ _ => ends)
      (.refl (t := cs.dropWhile isScalar))
    rwa [run] at token
  | cons c x =>
    have scalar := all c ((readScalar_suffix own).subset List.mem_cons_self)
    have here := ends_of_skipSpace ends
    simp [scalar] at here

/-- What is read of a value is made of tokens, if no word or number comes after it. -/
def PassesValue (fuel : Nat) : Prop :=
  ∀ {room : Nat} {cs rest : List Char} {v : Json}, readValue room fuel cs = .ok (v, rest) →
    Ends (skipSpace rest) → Passes cs rest

def PassesItems (fuel : Nat) : Prop :=
  ∀ {room : Nat} {cs rest : List Char} {acc xs : List Json},
    readItems room fuel cs acc = .ok (xs, rest) → Passes cs rest

def PassesMembers (fuel : Nat) : Prop :=
  ∀ {room : Nat} {cs rest : List Char} {acc ms : Members},
    readMembers room fuel cs acc = .ok (ms, rest) → Passes cs rest

theorem passesValue_succ (items : PassesItems fuel) (members : PassesMembers fuel) :
    PassesValue (fuel + 1) := by
  intro room cs rest v read ends
  cases readsValue_of_read read with
  | string tail => exact passes_string tail.tail
  | nil _ close => exact (passes_mark close rfl).mark rfl
  | array _ _ read => exact ((passes_skipSpace _).trans (items read)).mark rfl
  | empty _ close => exact (passes_mark close rfl).mark rfl
  | object _ _ read => exact ((passes_skipSpace _).trans (members read)).mark rfl
  | scalar _ read => exact passes_scalar read ends

theorem passesItems_succ (value : PassesValue fuel) (items : PassesItems fuel) :
    PassesItems (fuel + 1) := by
  intro room cs rest acc xs read
  cases readsItem_of_read read with
  | last item close => exact (value item (ends_of_mark close rfl)).trans (passes_mark close rfl)
  | more item comma tail =>
    exact (value item (ends_of_mark comma rfl)).trans
      ((passes_mark comma rfl).trans ((passes_skipSpace _).trans (items tail)))

theorem passesMembers_succ (value : PassesValue fuel) (members : PassesMembers fuel) :
    PassesMembers (fuel + 1) := by
  intro room cs rest acc ms read
  cases readsMember_of_read read with
  | last key colon member close =>
    exact (passes_string key.tail).trans ((passes_mark colon rfl).trans
      ((passes_skipSpace _).trans ((value member (ends_of_mark close rfl)).trans
        (passes_mark close rfl))))
  | more key colon member comma tail =>
    exact (passes_string key.tail).trans ((passes_mark colon rfl).trans
      ((passes_skipSpace _).trans ((value member (ends_of_mark comma rfl)).trans
        ((passes_mark comma rfl).trans ((passes_skipSpace _).trans (members tail))))))

theorem passes : ∀ fuel, PassesValue fuel ∧ PassesItems fuel ∧ PassesMembers fuel
  | 0 => ⟨fun read => by simp [readValue] at read, fun read => by simp [readItems] at read,
      fun read => by simp [readMembers] at read⟩
  | fuel + 1 =>
    have ⟨value, items, members⟩ := passes fuel
    ⟨passesValue_succ items members, passesItems_succ value items,
      passesMembers_succ value members⟩

/-- A text that has a value is made of tokens. -/
theorem passes_of_parse (read : parse t = .ok v) : Passes t [] := by
  rw [parse_eq_ok] at read
  have plain : t.head? ≠ some '\uFEFF' := by
    intro mark
    simp [readText_mark mark] at read
  obtain ⟨rest, value, none⟩ := (readText_eq_ok plain).mp read
  have skipped := passes_skipSpace rest
  rw [none] at skipped
  have passes : PassesValue (2 * t.length + 2) := (passes _).1
  exact (passes_skipSpace t).trans
    ((passes value (by simp [none])).trans skipped)

end LspGateway.Json
