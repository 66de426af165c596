import LspGateway.Proofs.Json.Spelling

/-! # How far a reader goes

A string is read up to its closing quote, and a word or a number within the characters
that can belong to it. What is read of either does not depend on what follows. Each
step of the readers is written out once, with everything that a success tells.
-/

namespace LspGateway.Json
open LspGateway.Text

variable {c : Char} {s t u : List Char}

/-! ## Strings -/

/-- The text of a string after its opening quote, up to its closing one. -/
inductive StringTail : List Char → Prop
  | close : StringTail ['"']
  | escape (c : Char) {s : List Char} (tail : StringTail s) : StringTail ('\\' :: c :: s)
  | plain {c : Char} {s : List Char} (quote : c ≠ '"') (slash : c ≠ '\\') (tail : StringTail s) :
    StringTail (c :: s)

theorem StringTail.ne_nil (h : StringTail s) : s ≠ [] := by cases h <;> simp

/-- A string ends in one place only. -/
theorem StringTail.unique (h : StringTail s) {s' r r' : List Char} (h' : StringTail s')
    (same : s ++ r = s' ++ r') : s = s' ∧ r = r' := by
  induction h generalizing s' with
  | close =>
    cases h' with
    | close => simpa using same
    | escape => simp at same
    | plain quote => exact absurd (List.cons.inj same).1.symm quote
  | escape c _ ih =>
    cases h' with
    | close => simp at same
    | escape c' tail' =>
      simp only [List.cons_append, List.cons.injEq, true_and] at same
      obtain ⟨rfl, rfl⟩ := ih tail' same.2
      exact ⟨by rw [same.1], rfl⟩
    | plain _ slash => exact absurd (List.cons.inj same).1.symm slash
  | plain quote slash _ ih =>
    cases h' with
    | close => exact absurd (List.cons.inj same).1 quote
    | escape => exact absurd (List.cons.inj same).1 slash
    | plain _ _ tail' =>
      simp only [List.cons_append, List.cons.injEq] at same
      obtain ⟨rfl, rfl⟩ := ih tail' same.2
      exact ⟨by rw [same.1], rfl⟩

variable {n : Nat} {cs after : List Char}

/-- The text of a unit. What is read of it does not depend on what follows, as long as
something does. -/
structure UnitText (n : Nat) (p : List Char) : Prop where
  length : p.length = 4
  tail : ∀ {s}, StringTail s → StringTail (p ++ s)
  read : ∀ {r}, r ≠ [] → readUnit (p ++ r) = some (n, r)

theorem ne_of_hexDigit? {d : Nat} (h : hexDigit? c = some d) : c ≠ '"' ∧ c ≠ '\\' := by
  constructor <;> (rintro rfl; simp [hexDigit?] at h)

theorem readUnit_text (read : readUnit cs = some (n, after)) :
    ∃ p, cs = p ++ after ∧ after ≠ [] ∧ UnitText n p := by
  rw [readUnit.eq_def] at read
  split at read
  next a b c d e rest =>
    obtain ⟨a', ha, b', hb, c', hc, d', hd, read⟩ := by
      simpa only [Option.bind_eq_bind, Option.bind_eq_some_iff] using read
    obtain ⟨rfl, rfl⟩ := by simpa using read
    have plain {x : Char} {y : Nat} (hx : hexDigit? x = some y) {s : List Char}
        (tail : StringTail s) : StringTail (x :: s) :=
      .plain (ne_of_hexDigit? hx).1 (ne_of_hexDigit? hx).2 tail
    refine ⟨[a, b, c, d], rfl, by simp, rfl, fun tail => ?_, fun some => ?_⟩
    · exact plain ha (plain hb (plain hc (plain hd tail)))
    · obtain ⟨f, r, rfl⟩ := List.exists_cons_of_ne_nil some
      simp [readUnit, ha, hb, hc, hd]
  next => simp at read

/-- What follows the first unit of a pair gives the second one, or the first stands
alone. -/
def readPair (n : Nat) (rest : List Char) : Except Stop (Char × List Char) :=
  match rest with
  | '\\' :: 'u' :: more =>
    if 5 ≤ more.length then
      match readUnit more with
      | none => .error ⟨.badUnicodeEscape, 'u' :: more⟩
      | some (m, after) =>
        if 0xDC00 ≤ m && m < 0xE000 then
          .ok (Char.ofNat (0x10000 + (n - 0xD800) * 0x400 + (m - 0xDC00)), after)
        else .ok (unitChar n, rest)
    else .ok (unitChar n, rest)
  | _ => .ok (unitChar n, rest)

theorem readUnicode_eq (cs : List Char) : readUnicode cs =
    match readUnit cs with
    | none => .error ⟨.badUnicodeEscape, 'u' :: cs⟩
    | some (n, rest) =>
      if 0xD800 ≤ n && n < 0xDC00 then readPair n rest else .ok (unitChar n, rest) := rfl

/-- An escape of a unit at the start of what is left of a string is part of it. -/
def UnitsEnd (s : List Char) : Prop :=
  ∀ x, s = '\\' :: 'u' :: x → ∃ m p y, UnitText m p ∧ StringTail y ∧ x = p ++ y

theorem StringTail.escape_of_append (h : StringTail s) {r : List Char}
    (start : s ++ r = '\\' :: 'u' :: t) : ∃ x, s = '\\' :: 'u' :: x := by
  cases h with
  | close => simp at start
  | escape c _ =>
    simp only [List.cons_append, List.cons.injEq, true_and] at start
    exact ⟨_, by rw [start.1]⟩
  | plain _ slash => exact absurd (List.cons.inj start).1 slash

theorem UnitText.long {p y r : List Char} (h : UnitText n p) (tail : StringTail y) :
    5 ≤ (p ++ (y ++ r)).length := by
  have := List.length_pos_iff.mpr tail.ne_nil
  simp only [List.length_append, h.length]
  omega

/-- Where no second unit follows within the string, a unit stands alone. -/
theorem readPair_alone (tail : StringTail s) (units : UnitsEnd s)
    (other : ∀ m p y, UnitText m p → StringTail y → s = '\\' :: 'u' :: (p ++ y) →
      (decide (0xDC00 ≤ m) && decide (m < 0xE000)) = false) (r : List Char) :
    readPair n (s ++ r) = .ok (unitChar n, s ++ r) := by
  rw [readPair.eq_def]
  split
  next more start =>
    obtain ⟨x, rfl⟩ := tail.escape_of_append start
    obtain ⟨m, p, y, unit, hy, rfl⟩ := units x rfl
    obtain rfl : p ++ (y ++ r) = more := by simpa using start
    rw [if_pos (unit.long hy), unit.read (by simp [hy.ne_nil])]
    simp [other m p y unit hy rfl]
  next => rfl

/-- Whether a second unit follows is seen before the string ends. -/
theorem readPair_text {ch : Char} {rest : List Char} (tail : StringTail s) (units : UnitsEnd s)
    (read : readPair n rest = .ok (ch, s ++ after)) :
    ∃ p, rest = p ++ (s ++ after) ∧ StringTail (p ++ s) ∧
      ∀ r, readPair n (p ++ (s ++ r)) = .ok (ch, s ++ r) := by
  rw [readPair.eq_def] at read
  split at read
  next more =>
    split at read
    next long =>
      split at read
      next => simp at read
      next m after' second =>
        split at read
        next low =>
          obtain ⟨rfl, rfl⟩ := by simpa using read
          obtain ⟨p, rfl, -, unit⟩ := readUnit_text second
          refine ⟨'\\' :: 'u' :: p, rfl, .escape _ (unit.tail tail), fun r => ?_⟩
          simp only [List.cons_append, readPair]
          rw [if_pos (unit.long tail), unit.read (by simp [tail.ne_nil])]
          simp [low]
        next high =>
          obtain ⟨rfl, same⟩ := by simpa using read
          refine ⟨[], same, tail, readPair_alone tail units fun m' p y unit hy hs => ?_⟩
          obtain rfl : more = p ++ (y ++ after) := by simpa [hs] using same
          rw [unit.read (by simp [hy.ne_nil])] at second
          simp_all
    next short =>
      obtain ⟨rfl, same⟩ := by simpa using read
      refine ⟨[], same, tail, readPair_alone tail units fun m p y unit hy hs => ?_⟩
      obtain rfl : more = p ++ (y ++ after) := by simpa [hs] using same
      exact absurd (unit.long hy) short
  next none =>
    obtain ⟨rfl, rfl⟩ := by simpa using read
    exact ⟨[], rfl, tail, readPair_alone tail units fun m p y _ _ hs =>
      (none (p ++ (y ++ after)) (by simp [hs])).elim⟩

/-- What is read of an escape within a string does not depend on what follows the
string. -/
theorem readUnicode_text {ch : Char} (tail : StringTail s) (units : UnitsEnd s)
    (read : readUnicode cs = .ok (ch, s ++ after)) :
    ∃ m p q, cs = p ++ (q ++ (s ++ after)) ∧ UnitText m p ∧ StringTail (q ++ s) ∧
      ∀ r, readUnicode (p ++ (q ++ (s ++ r))) = .ok (ch, s ++ r) := by
  rw [readUnicode_eq] at read
  split at read
  next => simp at read
  next n rest first =>
    obtain ⟨p, rfl, -, unit⟩ := readUnit_text first
    have some (q r : List Char) : q ++ (s ++ r) ≠ [] := by simp [tail.ne_nil]
    split at read
    next lead =>
      obtain ⟨q, rfl, tail', pair⟩ := readPair_text tail units read
      refine ⟨n, p, q, rfl, unit, tail', fun r => ?_⟩
      rw [readUnicode_eq, unit.read (some q r)]
      simp only [lead, if_true, pair]
    next single =>
      obtain ⟨rfl, rfl⟩ := by simpa using read
      refine ⟨n, p, [], rfl, unit, tail, fun r => ?_⟩
      rw [readUnicode_eq, unit.read (some [] r)]
      simp [single]

/-- The text of what is left of the string `k` after the characters `acc`, read so
whatever follows. -/
structure ReadsTail (acc : List Char) (k : String) (s : List Char) : Prop where
  tail : StringTail s
  units : UnitsEnd s
  read : ∀ (start : List Char) {fuel : Nat} (r : List Char), s.length ≤ fuel →
    readString start fuel (s ++ r) acc = .ok (k, r)

section Tail

variable {acc : List Char} {k : String} {ch : Char}

theorem readsTail_close : ReadsTail acc (.ofList acc.reverse) ['"'] := by
  refine ⟨.close, by simp [UnitsEnd], fun start fuel r long => ?_⟩
  cases fuel with
  | zero => simp at long
  | succ fuel => simp [readString]

theorem ReadsTail.plain (h : ReadsTail (c :: acc) k s) (quote : c ≠ '"') (slash : c ≠ '\\')
    (printable : ¬ c.toNat < 32) : ReadsTail acc k (c :: s) := by
  refine ⟨.plain quote slash h.tail, by simp [UnitsEnd, slash], fun start fuel r long => ?_⟩
  cases fuel with
  | zero => simp at long
  | succ fuel => simp [readString, quote, slash, printable, h.read start r (by simpa using long)]

theorem ReadsTail.letter (h : ReadsTail (ch :: acc) k s) (known : simpleEscape? c = some ch)
    (other : c ≠ 'u') : ReadsTail acc k ('\\' :: c :: s) := by
  refine ⟨.escape c h.tail, by simp [UnitsEnd, other], fun start fuel r long => ?_⟩
  simp only [List.length_cons] at long
  cases fuel with
  | zero => omega
  | succ fuel =>
    have within : s.length ≤ fuel := by omega
    simp [readString, other, known, h.read start r within]

theorem ReadsTail.unit {p q : List Char} (h : ReadsTail (ch :: acc) k s) (unit : UnitText n p)
    (tail : StringTail (q ++ s))
    (escape : ∀ r, readUnicode (p ++ (q ++ (s ++ r))) = .ok (ch, s ++ r)) :
    ReadsTail acc k ('\\' :: 'u' :: (p ++ (q ++ s))) := by
  refine ⟨.escape 'u' (unit.tail tail), fun x hx => ?_, fun start fuel r long => ?_⟩
  · exact ⟨n, p, q ++ s, unit, tail, by simpa using hx.symm⟩
  · simp only [List.length_cons, List.length_append] at long
    cases fuel with
    | zero => omega
    | succ fuel =>
      have within : s.length ≤ fuel := by omega
      simp [readString, escape, h.read start r within]

/-- A string that is read ends at its closing quote, and is read so whatever
follows. -/
theorem readString_text {start : List Char} : ∀ {fuel : Nat} {cs acc : List Char},
    readString start fuel cs acc = .ok (k, after) → ∃ s, cs = s ++ after ∧ ReadsTail acc k s
  | 0, _, _, read => by simp [readString] at read
  | _ + 1, [], _, read => by simp [readString] at read
  | fuel + 1, c :: cs, acc, read => by
    simp only [readString] at read
    split at read
    next quote =>
      subst quote
      obtain ⟨rfl, rfl⟩ := by simpa using read
      exact ⟨['"'], rfl, readsTail_close⟩
    next quote =>
      split at read
      next slash =>
        subst slash
        split at read
        next => simp at read
        next e rest =>
          split at read
          next unit =>
            subst unit
            split at read
            next => simp at read
            next ch rest' escape =>
              obtain ⟨s, rfl, tail⟩ := readString_text read
              obtain ⟨m, p, q, rfl, unit, ends, escape⟩ :=
                readUnicode_text tail.tail tail.units escape
              exact ⟨'\\' :: 'u' :: (p ++ (q ++ s)), by simp, tail.unit unit ends escape⟩
          next other =>
            split at read
            next => simp at read
            next ch letter =>
              obtain ⟨s, rfl, tail⟩ := readString_text read
              exact ⟨'\\' :: e :: s, rfl, tail.letter letter other⟩
      next slash =>
        split at read
        next => simp at read
        next printable =>
          obtain ⟨s, rfl, tail⟩ := readString_text read
          exact ⟨c :: s, rfl, tail.plain quote slash printable⟩

end Tail

/-! ## Words and numbers -/

section Run

variable {v : Json} {w r : List Char}

theorem readWhole_append_none (h : Ends r) (missing : readWhole cs = none) :
    readWhole (cs ++ r) = none := by
  cases cs with
  | nil =>
    cases r with
    | nil => rfl
    | cons c r =>
      have digit : isDigit c = false := h.not_digit c rfl
      have zero : c ≠ '0' := by rintro rfl; simp [isDigit] at digit
      simp [readWhole, digit, zero]
  | cons c cs =>
    simp only [readWhole, List.cons_append] at missing ⊢
    split at missing <;> simp_all

/-- What is no word and no number is none whatever follows that ends it. -/
theorem readScalar_append_error (h : Ends r) {stop : Stop} (read : readScalar w = .error stop) :
    ∃ stop', readScalar (w ++ r) = .error stop' := by
  rw [readScalar] at read
  split at read
  next => simp at read
  next none =>
    simp only [readScalar, find_words_append h, none]
    rw [readNumber_eq] at read ⊢
    rw [numberSign_append h]
    split at read
    next whole =>
      rw [readWhole_append_none h whole]
      exact ⟨_, rfl⟩
    next digits rest whole =>
      split at read
      next long =>
        simp only [readWhole_append h whole, readFraction_append h, readExponent_append h]
        rw [if_pos long]
        exact ⟨_, rfl⟩
      next => simp at read

/-- A word or a number is read from its own characters. -/
theorem readScalar_text (h : Ends r) {rest : List Char}
    (read : readScalar (w ++ r) = .ok (v, rest)) :
    ∃ x, rest = x ++ r ∧ readScalar w = .ok (v, x) := by
  cases own : readScalar w with
  | error stop =>
    obtain ⟨stop', failed⟩ := readScalar_append_error h own
    simp [failed] at read
  | ok found =>
    obtain ⟨v', x⟩ := found
    rw [readScalar_append h own] at read
    obtain ⟨rfl, rfl⟩ := by simpa using read
    exact ⟨x, rfl, rfl⟩

theorem isScalar_of_readScalar {rest : List Char} (read : readScalar cs = .ok (v, rest)) :
    ∃ c t, cs = c :: t ∧ isScalar c = true := by
  by_contra other
  have ends : Ends cs := by
    cases cs with
    | nil => exact ends_nil
    | cons c t => simpa [ends_cons] using fun scalar => other ⟨c, t, rfl, scalar⟩
  obtain ⟨x, -, nothing⟩ := readScalar_text (w := []) ends read
  simp [readScalar_nil] at nothing

end Run

/-! ## One step of a reader -/

variable {room fuel : Nat} {v : Json} {r rest : List Char} {k : String}

/-- What a value is read from. -/
inductive ReadsValue (room fuel : Nat) : List Char → Json → List Char → Prop
  | string {k : String} {s r : List Char} (tail : ReadsTail [] k s) :
    ReadsValue room fuel ('"' :: (s ++ r)) (.str k) r
  | nil {cs r : List Char} (space : room ≠ 0) (close : skipSpace cs = ']' :: r) :
    ReadsValue room fuel ('[' :: cs) (.arr []) r
  | array {cs r : List Char} {xs : List Json} (space : room ≠ 0)
    (some : (skipSpace cs).head? ≠ some ']')
    (items : readItems (room - 1) fuel (skipSpace cs) [] = .ok (xs, r)) :
    ReadsValue room fuel ('[' :: cs) (.arr xs) r
  | empty {cs r : List Char} (space : room ≠ 0) (close : skipSpace cs = '\x7d' :: r) :
    ReadsValue room fuel ('\x7b' :: cs) (.obj []) r
  | object {cs r : List Char} {ms : Members} (space : room ≠ 0)
    (some : (skipSpace cs).head? ≠ some '\x7d')
    (members : readMembers (room - 1) fuel (skipSpace cs) [] = .ok (ms, r)) :
    ReadsValue room fuel ('\x7b' :: cs) (.obj ms) r
  | scalar {c : Char} {t : List Char} {v : Json} {r : List Char} (scalar : isScalar c = true)
    (read : readScalar (c :: t) = .ok (v, r)) : ReadsValue room fuel (c :: t) v r

theorem ReadsValue.read (h : ReadsValue room fuel cs v r) :
    readValue room (fuel + 1) cs = .ok (v, r) := by
  cases h with
  | @string k s r tail =>
    have within : s.length ≤ s.length + r.length + 1 := by omega
    simp [readValue, tail.read _ r within]
  | nil space close => simp [readValue, space, close]
  | array space some items =>
    simp only [readValue, space, if_false]
    split
    next close => simp [close] at some
    next => rw [items]
  | empty space close => simp [readValue, space, close]
  | object space some members =>
    simp only [readValue, space, if_false]
    split
    next close => simp [close] at some
    next => rw [members]
  | scalar scalar read => rw [readValue_of_isScalar scalar, read]

theorem readsValue_of_read (read : readValue room (fuel + 1) cs = .ok (v, r)) :
    ReadsValue room fuel cs v r := by
  rw [readValue.eq_def] at read
  simp only at read
  split at read
  next rest =>
    split at read
    next => simp at read
    next s after string =>
      obtain ⟨rfl, rfl⟩ := by simpa using read
      obtain ⟨s, rfl, tail⟩ := readString_text string
      exact .string tail
  next rest =>
    split at read
    next => simp at read
    next space =>
      split at read
      next after close =>
        obtain ⟨rfl, rfl⟩ := by simpa using read
        exact .nil space close
      next some =>
        split at read
        next => simp at read
        next xs after items =>
          obtain ⟨rfl, rfl⟩ := by simpa using read
          refine .array space (fun close => ?_) items
          obtain ⟨t, ht⟩ := List.head?_eq_some_iff.mp close
          exact some t ht
  next rest =>
    split at read
    next => simp at read
    next space =>
      split at read
      next after close =>
        obtain ⟨rfl, rfl⟩ := by simpa using read
        exact .empty space close
      next some =>
        split at read
        next => simp at read
        next ms after members =>
          obtain ⟨rfl, rfl⟩ := by simpa using read
          refine .object space (fun close => ?_) members
          obtain ⟨t, ht⟩ := List.head?_eq_some_iff.mp close
          exact some t ht
  next =>
    obtain ⟨c, t, rfl, scalar⟩ := isScalar_of_readScalar read
    exact .scalar scalar read

/-- What the items of an array are read from. -/
inductive ReadsItem (room fuel : Nat) (cs : List Char) (acc : List Json) :
    List Json → List Char → Prop
  | last {v : Json} {rest r : List Char} (item : readValue room fuel cs = .ok (v, rest))
    (close : skipSpace rest = ']' :: r) : ReadsItem room fuel cs acc (v :: acc).reverse r
  | more {v : Json} {rest next r : List Char} {xs : List Json}
    (item : readValue room fuel cs = .ok (v, rest)) (comma : skipSpace rest = ',' :: next)
    (items : readItems room fuel (skipSpace next) (v :: acc) = .ok (xs, r)) :
    ReadsItem room fuel cs acc xs r

theorem ReadsItem.read {acc xs : List Json} (h : ReadsItem room fuel cs acc xs r) :
    readItems room (fuel + 1) cs acc = .ok (xs, r) := by
  cases h with
  | last item close => exact readItems_last item close
  | more item comma items => rw [readItems_more item comma, items]

theorem readsItem_of_read {acc xs : List Json}
    (read : readItems room (fuel + 1) cs acc = .ok (xs, r)) :
    ReadsItem room fuel cs acc xs r := by
  rw [readItems.eq_def] at read
  simp only at read
  split at read
  next => simp at read
  next v rest item =>
    split at read
    next after close =>
      obtain ⟨rfl, rfl⟩ := Prod.mk.inj (Except.ok.inj read)
      exact .last item close
    next more comma => exact .more item comma read
    next => simp at read

/-- What the members of an object are read from. -/
inductive ReadsMember (room fuel : Nat) (acc : Members) : List Char → Members → List Char → Prop
  | last {k : String} {s t value rest r : List Char} {v : Json} (key : ReadsTail [] k s)
    (colon : skipSpace t = ':' :: value)
    (member : readValue room fuel (skipSpace value) = .ok (v, rest))
    (close : skipSpace rest = '\x7d' :: r) :
    ReadsMember room fuel acc ('"' :: (s ++ t)) (Members.set acc k v) r
  | more {k : String} {s t value rest next r : List Char} {v : Json} {ms : Members}
    (key : ReadsTail [] k s) (colon : skipSpace t = ':' :: value)
    (member : readValue room fuel (skipSpace value) = .ok (v, rest))
    (comma : skipSpace rest = ',' :: next)
    (members : readMembers room fuel (skipSpace next) (Members.set acc k v) = .ok (ms, r)) :
    ReadsMember room fuel acc ('"' :: (s ++ t)) ms r

/-- The reading of an object after one of its members. -/
def readAfterMember (room fuel : Nat) (ms : Members) (rest : List Char) :
    Except Stop (Members × List Char) :=
  match skipSpace rest with
  | '\x7d' :: after => .ok (ms, after)
  | ',' :: more => readMembers room fuel (skipSpace more) ms
  | other => .error ⟨.expectingComma, other⟩

theorem readMembers_key {acc : Members} (key : ReadsTail [] k s)
    (colon : skipSpace t = ':' :: u) (member : readValue room fuel (skipSpace u) = .ok (v, rest)) :
    readMembers room (fuel + 1) ('"' :: (s ++ t)) acc =
      readAfterMember room fuel (Members.set acc k v) rest := by
  have within : s.length ≤ ('"' :: (s ++ t)).length := by
    simp only [List.length_cons, List.length_append]
    omega
  rw [readMembers, key.read _ t within]
  simp only [colon, member]
  rfl

theorem ReadsMember.read {acc ms : Members} (h : ReadsMember room fuel acc cs ms r) :
    readMembers room (fuel + 1) cs acc = .ok (ms, r) := by
  cases h with
  | last key colon member close =>
    simp only [readMembers_key key colon member, readAfterMember, close]
  | more key colon member comma members =>
    rw [readMembers_key key colon member, readAfterMember, comma]
    exact members

theorem readsMember_of_read {acc ms : Members}
    (read : readMembers room (fuel + 1) cs acc = .ok (ms, r)) :
    ReadsMember room fuel acc cs ms r := by
  rw [readMembers.eq_def] at read
  simp only at read
  split at read
  next rest =>
    split at read
    next => simp at read
    next k after string =>
      obtain ⟨s, rfl, key⟩ := readString_text string
      split at read
      next more colon =>
        split at read
        next => simp at read
        next v rest member =>
          split at read
          next close =>
            obtain ⟨rfl, rfl⟩ := by simpa using read
            exact .last key colon member close
          next comma => exact .more key colon member comma read
          next => simp at read
      next => simp at read
  next => simp at read

end LspGateway.Json
