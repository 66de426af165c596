import Mathlib.Data.List.Find
import Mathlib.Data.List.TakeWhile
import LspGateway.Json.Parser
import LspGateway.Json.Printer
import LspGateway.Proofs.Text.Digits

/-! # Words and numbers read back

A word or a number is read up to the first character that cannot belong to it, so
what is read does not depend on the text that follows. An integer is read back from
its digits. For a number with a fraction or an exponent that depends on the
rounding, and is a condition on the number.
-/

namespace LspGateway.Json
open LspGateway.Text

variable {c : Char} {cs r s t : List Char} {v : Json}

/-- A character of a word or of a number. -/
def isScalar (c : Char) : Bool :=
  isDigit c || c.isAlpha || c = '.' || c = '+' || c = '-'

/-- A text that no word and no number goes on with. -/
def Ends (r : List Char) : Prop := ∀ c ∈ r.head?, isScalar c = false

@[simp] theorem ends_nil : Ends [] := by simp [Ends]

@[simp] theorem ends_cons : Ends (c :: r) ↔ isScalar c = false := by simp [Ends]

theorem isScalar_of_isDigit (h : isDigit c = true) : isScalar c = true := by
  simp [isScalar, h]

theorem Ends.not_digit (h : Ends r) : ∀ c ∈ r.head?, isDigit c = false := fun c hc =>
  Bool.eq_false_iff.mpr fun digit => by simpa [isScalar_of_isDigit digit] using h c hc

theorem isScalar_of_isSpace (h : isSpace c = true) : isScalar c = false := by
  simp only [isSpace, Bool.or_eq_true, decide_eq_true_eq] at h
  rcases h with ((rfl | rfl) | rfl) | rfl <;> decide

/-! ## Reading does not look beyond the end -/

section Beyond

variable {p : Char → Bool}

theorem takeWhile_append (h : ∀ c ∈ r.head?, p c = false) :
    (cs ++ r).takeWhile p = cs.takeWhile p := by
  induction cs with
  | nil => cases r with
    | nil => rfl
    | cons c r => simp [h c rfl]
  | cons c cs ih => simp [List.takeWhile_cons, ih]

theorem dropWhile_append (h : ∀ c ∈ r.head?, p c = false) :
    (cs ++ r).dropWhile p = cs.dropWhile p ++ r := by
  induction cs with
  | nil => cases r with
    | nil => rfl
    | cons c r => simp [h c rfl]
  | cons c cs ih =>
    rw [List.cons_append, List.dropWhile_cons, List.dropWhile_cons, ih]
    split <;> rfl

end Beyond

theorem startsWith_append (h : Ends r) : ∀ {w cs : List Char},
    (∀ c ∈ w, isScalar c = true) → startsWith w (cs ++ r) = startsWith w cs
  | [], _, _ => by simp [startsWith]
  | a :: w, [], hw => by
    cases r with
    | nil => rfl
    | cons c r =>
      have other : a ≠ c := by
        rintro rfl
        simp [ends_cons.mp h] at hw
      simp [startsWith, other]
  | a :: w, c :: cs, hw => by
    simp only [List.cons_append, startsWith]
    rw [startsWith_append h fun d hd => hw d (List.mem_cons_of_mem _ hd)]

theorem readWhole_append (h : Ends r) {whole : List Char}
    (read : readWhole cs = some (whole, s)) : readWhole (cs ++ r) = some (whole, s ++ r) := by
  cases cs with
  | nil => simp [readWhole] at read
  | cons c cs =>
    simp only [readWhole, List.cons_append, takeWhile_append h.not_digit,
      dropWhile_append h.not_digit] at read ⊢
    split at read
    next zero => simp_all
    next nonzero =>
      split at read
      next digit => simp_all
      next => simp at read

theorem readFraction_append (h : Ends r) :
    readFraction (cs ++ r) = ((readFraction cs).1, (readFraction cs).2 ++ r) := by
  cases cs with
  | nil =>
    cases r with
    | nil => rfl
    | cons c r =>
      have other : c ≠ '.' := by rintro rfl; simp [isScalar] at h
      rw [List.nil_append, readFraction.eq_def]
      split <;> simp_all [readFraction]
  | cons c cs =>
    rcases eq_or_ne c '.' with rfl | other
    · simp only [List.cons_append, readFraction, takeWhile_append h.not_digit,
        dropWhile_append h.not_digit]
      split <;> simp_all
    · rw [readFraction.eq_def, readFraction.eq_def]
      split <;> simp_all

/-- Whether an exponent is negative, and what follows its sign. -/
def exponentSign (cs : List Char) : Bool × List Char :=
  match cs with
  | '-' :: rest => (true, rest)
  | '+' :: rest => (false, rest)
  | _ => (false, cs)

theorem readExponent_cons {e : Char} (he : e = 'e' ∨ e = 'E') :
    readExponent (e :: cs) =
      match (exponentSign cs).2.takeWhile isDigit with
      | [] => (none, e :: cs)
      | run =>
        let n := ofDigits (run.filterMap digit?)
        (some (if (exponentSign cs).1 then -(n : Int) else n),
          (exponentSign cs).2.dropWhile isDigit) := by
  simp only [readExponent, he, Bool.or_eq_true, decide_eq_true_eq, if_true]
  rfl

theorem exponentSign_append (h : Ends r) :
    exponentSign (cs ++ r) = ((exponentSign cs).1, (exponentSign cs).2 ++ r) := by
  cases cs with
  | nil =>
    cases r with
    | nil => rfl
    | cons c r =>
      have other : c ≠ '-' ∧ c ≠ '+' := by constructor <;> (rintro rfl; simp [isScalar] at h)
      simp [exponentSign, other]
  | cons c cs => rw [List.cons_append, exponentSign.eq_def, exponentSign.eq_def]; split <;> simp_all

theorem readExponent_append (h : Ends r) :
    readExponent (cs ++ r) = ((readExponent cs).1, (readExponent cs).2 ++ r) := by
  cases cs with
  | nil =>
    cases r with
    | nil => rfl
    | cons c r =>
      have other : c ≠ 'e' ∧ c ≠ 'E' := by constructor <;> (rintro rfl; simp [isScalar] at h)
      simp [readExponent, other]
  | cons e cs =>
    by_cases he : e = 'e' ∨ e = 'E'
    · rw [List.cons_append, readExponent_cons he, readExponent_cons he, exponentSign_append h,
        takeWhile_append h.not_digit, dropWhile_append h.not_digit]
      split <;> rfl
    · simp [readExponent, he]

/-- Whether a number is negative, and what follows its sign. -/
def numberSign (cs : List Char) : Bool × List Char :=
  match cs with
  | '-' :: rest => (true, rest)
  | _ => (false, cs)

theorem numberSign_append (h : Ends r) :
    numberSign (cs ++ r) = ((numberSign cs).1, (numberSign cs).2 ++ r) := by
  cases cs with
  | nil =>
    cases r with
    | nil => rfl
    | cons c r =>
      have other : c ≠ '-' := by rintro rfl; simp [isScalar] at h
      simp [numberSign, other]
  | cons c cs => rw [List.cons_append, numberSign.eq_def, numberSign.eq_def]; split <;> simp_all

/-- The number with these parts: an integer, if there is neither a fraction nor an
exponent. -/
def ofParts (negative : Bool) (whole fraction : List Char) (exponent : Option Int) : Json :=
  if fraction.isEmpty && exponent.isNone then
    let n := ofDigits (whole.filterMap digit?)
    .int (if negative then -(n : Int) else n)
  else
    .float (.ofDecimal negative (ofDigits ((whole ++ fraction).filterMap digit?))
      (exponent.getD 0 - (fraction.length : Int)))

theorem readNumber_eq (cs : List Char) : readNumber cs =
    match readWhole (numberSign cs).2 with
    | none => .error ⟨.expectingValue, cs⟩
    | some (whole, rest) =>
      if (readFraction rest).1.isEmpty && (readExponent (readFraction rest).2).1.isNone &&
          maxDigits < whole.length then
        .error ⟨.tooManyDigits whole.length, cs⟩
      else
        .ok (ofParts (numberSign cs).1 whole (readFraction rest).1
          (readExponent (readFraction rest).2).1, (readExponent (readFraction rest).2).2) := by
  change (match readWhole (numberSign cs).2 with
    | none => _
    | some (whole, rest) => _) = _
  cases readWhole (numberSign cs).2 with
  | none => rfl
  | some parts =>
    obtain ⟨whole, rest⟩ := parts
    simp only [ofParts]
    cases (readFraction rest).1.isEmpty && (readExponent (readFraction rest).2).1.isNone
    · rfl
    · simp only [if_true, Bool.true_and, decide_eq_true_eq]
      rfl

theorem readNumber_append (h : Ends r) (read : readNumber cs = .ok (v, s)) :
    readNumber (cs ++ r) = .ok (v, s ++ r) := by
  rw [readNumber_eq] at read ⊢
  cases whole : readWhole (numberSign cs).2 with
  | none => simp [whole] at read
  | some parts =>
    obtain ⟨digits, rest⟩ := parts
    simp only [numberSign_append h, readWhole_append h whole, readFraction_append h,
      readExponent_append h]
    simp only [whole] at read
    split at read
    next => simp at read
    next few =>
      rw [if_neg few]
      simp_all

/-! ## Words -/

theorem all_isScalar_of_mem_words : ∀ w ∈ words, ∀ c ∈ w.1, isScalar c = true := by
  have all : words.all (fun w => w.1.all isScalar) = true := by decide
  simpa only [List.all_eq_true] using all

theorem find_words_append (h : Ends r) :
    (words.find? fun (w, _) => startsWith w (cs ++ r)) =
      words.find? fun (w, _) => startsWith w cs :=
  List.find?_congr fun w hw => startsWith_append h (all_isScalar_of_mem_words w hw)

theorem length_le_of_startsWith : ∀ {w cs : List Char}, startsWith w cs = true →
    w.length ≤ cs.length
  | [], _, _ => Nat.zero_le _
  | _ :: _, [], h => by simp [startsWith] at h
  | _ :: w, _ :: cs, h => by
    simp only [startsWith, Bool.and_eq_true] at h
    simpa using length_le_of_startsWith h.2

theorem readScalar_append (h : Ends r) (read : readScalar cs = .ok (v, s)) :
    readScalar (cs ++ r) = .ok (v, s ++ r) := by
  rw [readScalar, find_words_append h]
  rw [readScalar] at read
  split at read
  next w v' found =>
    have begins : startsWith w cs = true := by simpa using List.find?_some found
    simp_all [List.drop_append_of_le_length (length_le_of_startsWith begins)]
  next none => simpa [none] using readNumber_append h read

/-! ## What is left is an end of the text -/

theorem readWhole_suffix {whole : List Char} (read : readWhole cs = some (whole, s)) :
    s <:+ cs := by
  cases cs with
  | nil => simp [readWhole] at read
  | cons c cs =>
    simp only [readWhole] at read
    split at read
    next => simp_all
    next =>
      split at read
      next =>
        obtain ⟨-, rfl⟩ := by simpa using read
        exact (List.dropWhile_suffix _).trans (List.suffix_cons _ _)
      next => simp at read

theorem readFraction_suffix (cs : List Char) : (readFraction cs).2 <:+ cs := by
  rw [readFraction.eq_def]
  split
  next cs =>
    split
    next => exact List.suffix_rfl
    next => exact (List.dropWhile_suffix _).trans (List.suffix_cons _ _)
  next => exact List.suffix_rfl

theorem exponentSign_suffix (cs : List Char) : (exponentSign cs).2 <:+ cs := by
  rw [exponentSign.eq_def]
  split
  · exact List.suffix_cons _ _
  · exact List.suffix_cons _ _
  · exact List.suffix_rfl

theorem readExponent_suffix (cs : List Char) : (readExponent cs).2 <:+ cs := by
  cases cs with
  | nil => exact List.suffix_rfl
  | cons e cs =>
    by_cases he : e = 'e' ∨ e = 'E'
    · rw [readExponent_cons he]
      split
      next => exact List.suffix_rfl
      next =>
        exact ((List.dropWhile_suffix _).trans (exponentSign_suffix cs)).trans
          (List.suffix_cons _ _)
    · simp [readExponent, he]

theorem numberSign_suffix (cs : List Char) : (numberSign cs).2 <:+ cs := by
  rw [numberSign.eq_def]
  split
  · exact List.suffix_cons _ _
  · exact List.suffix_rfl

theorem readNumber_suffix (read : readNumber cs = .ok (v, s)) : s <:+ cs := by
  rw [readNumber_eq] at read
  cases whole : readWhole (numberSign cs).2 with
  | none => simp [whole] at read
  | some parts =>
    obtain ⟨digits, rest⟩ := parts
    simp only [whole] at read
    split at read
    next => simp at read
    next =>
      obtain ⟨-, rfl⟩ := by simpa using read
      exact (((readExponent_suffix _).trans (readFraction_suffix rest)).trans
        (readWhole_suffix whole)).trans (numberSign_suffix cs)

theorem readScalar_suffix (read : readScalar cs = .ok (v, s)) : s <:+ cs := by
  rw [readScalar] at read
  split at read
  next w v' _ =>
    obtain ⟨-, rfl⟩ := by simpa using read
    exact List.drop_suffix _ _
  next => exact readNumber_suffix read

/-! ## Texts that are read back -/

/-- The text of a word or a number from which all of it is read back. -/
structure Scalar (t : List Char) (v : Json) : Prop where
  all : ∀ c ∈ t, isScalar c = true
  read : readScalar t = .ok (v, [])

theorem readScalar_nil : readScalar [] = .error ⟨.expectingValue, []⟩ := by decide

theorem Scalar.ne_nil (h : Scalar t v) : t ≠ [] := by
  rintro rfl
  simpa [readScalar_nil] using h.read

theorem readValue_of_isScalar (h : isScalar c = true) (room fuel : Nat) :
    readValue room (fuel + 1) (c :: cs) = readScalar (c :: cs) := by
  have other : c ≠ '"' ∧ c ≠ '[' ∧ c ≠ '\x7b' := by
    refine ⟨?_, ?_, ?_⟩ <;> (rintro rfl; revert h; decide)
  simp [readValue, other]

/-- A value is read back from such a text, whatever follows that does not go on with
it. -/
theorem Scalar.readValue (h : Scalar t v) (hr : Ends r) (room fuel : Nat) :
    readValue room (fuel + 1) (t ++ r) = .ok (v, r) := by
  obtain ⟨c, t, rfl⟩ := List.exists_cons_of_ne_nil h.ne_nil
  rw [List.cons_append, readValue_of_isScalar (h.all c List.mem_cons_self)]
  simpa using readScalar_append hr h.read

theorem scalar_null : Scalar "null".toList .null := ⟨List.all_eq_true.mp (by decide), by decide⟩

theorem scalar_bool (b : Bool) : Scalar (writeAtom (.bool b)) (.bool b) := by
  cases b
  · exact ⟨List.all_eq_true.mp (by decide), by decide⟩
  · exact ⟨List.all_eq_true.mp (by decide), by decide⟩

theorem isDigit_of_mem_digits {n : Nat} (h : c ∈ digits 10 n) : isDigit c = true := by
  simpa [isDigit] using mem_digits h

theorem readWhole_digits (n : Nat) : readWhole (digits 10 n) = some (digits 10 n, []) := by
  rcases eq_or_ne n 0 with rfl | hn
  · decide
  · obtain ⟨c, cs, hcs, nonzero⟩ := digits_head hn
    have all : ∀ d ∈ c :: cs, isDigit d = true := fun d hd =>
      isDigit_of_mem_digits (hcs ▸ hd)
    have rest : ∀ d ∈ cs, isDigit d = true := fun d hd => all d (List.mem_cons_of_mem _ hd)
    simp [hcs, readWhole, nonzero, all c List.mem_cons_self,
      List.takeWhile_eq_self_iff.mpr rest, List.dropWhile_eq_nil_iff.mpr rest]

theorem not_letter_of_isDigit (h : isDigit c = true) :
    'n' ≠ c ∧ 't' ≠ c ∧ 'f' ≠ c ∧ 'N' ≠ c ∧ 'I' ≠ c ∧ '-' ≠ c := by
  refine ⟨?_, ?_, ?_, ?_, ?_, ?_⟩ <;> (rintro rfl; revert h; decide)

/-- A digit starts no word. -/
theorem readScalar_of_isDigit (h : isDigit c = true) (cs : List Char) :
    readScalar (c :: cs) = readNumber (c :: cs) := by
  have none : (words.find? fun (w, _) => startsWith w (c :: cs)) = none := by
    simp [words, startsWith, not_letter_of_isDigit h]
  rw [readScalar, none]

/-- Nor does a minus sign before one. -/
theorem readScalar_neg_of_isDigit (h : isDigit c = true) (cs : List Char) :
    readScalar ('-' :: c :: cs) = readNumber ('-' :: c :: cs) := by
  have none : (words.find? fun (w, _) => startsWith w ('-' :: c :: cs)) = none := by
    simp [words, startsWith, not_letter_of_isDigit h]
  rw [readScalar, none]

theorem numberSign_of_isDigit (h : isDigit c = true) (cs : List Char) :
    numberSign (c :: cs) = (false, c :: cs) := by
  simp [numberSign, (not_letter_of_isDigit h).2.2.2.2.2.symm]

theorem readNumber_of_readWhole (cs : List Char)
    (read : readWhole (numberSign cs).2 = some (t, []))
    (h : t.length ≤ maxDigits) :
    readNumber cs = .ok (.int (if (numberSign cs).1 then -(ofDigits (t.filterMap digit?) : Int)
      else ofDigits (t.filterMap digit?)), []) := by
  simp [readNumber_eq, read, readFraction, readExponent, Nat.not_lt.mpr h, ofParts]

theorem scalar_digits {n : Nat} (h : (digits 10 n).length ≤ maxDigits) :
    Scalar (digits 10 n) (.int n) := by
  refine ⟨fun d hd => isScalar_of_isDigit (isDigit_of_mem_digits hd), ?_⟩
  obtain ⟨c, cs, hcs⟩ := List.exists_cons_of_ne_nil (digits_ne_nil (b := 10) (n := n))
  have digit : isDigit c = true := isDigit_of_mem_digits (hcs ▸ List.mem_cons_self)
  have sign : numberSign (digits 10 n) = (false, digits 10 n) := by
    rw [hcs, numberSign_of_isDigit digit]
  have number := readNumber_of_readWhole (digits 10 n) (by rw [sign]; exact readWhole_digits n) h
  rw [hcs, readScalar_of_isDigit digit, ← hcs, number, sign, ofDigits_digits]
  rfl

theorem scalar_neg_digits {n : Nat} (h : (digits 10 n).length ≤ maxDigits) :
    Scalar ('-' :: digits 10 n) (.int (-n)) := by
  obtain ⟨c, cs, hcs⟩ := List.exists_cons_of_ne_nil (digits_ne_nil (b := 10) (n := n))
  have digit : isDigit c = true := isDigit_of_mem_digits (hcs ▸ List.mem_cons_self)
  have number := readNumber_of_readWhole ('-' :: digits 10 n) (readWhole_digits n) h
  constructor
  · intro d hd
    rcases List.mem_cons.mp hd with rfl | hd
    · decide
    · exact isScalar_of_isDigit (isDigit_of_mem_digits hd)
  · rw [hcs, readScalar_neg_of_isDigit digit, ← hcs, number, ofDigits_digits]
    rfl

/-- An integer is read back from its digits. -/
theorem scalar_int {i : Int} (h : (digits 10 i.natAbs).length ≤ maxDigits) :
    Scalar (ofInt i).toList (.int i) := by
  cases i with
  | ofNat n => simpa [ofInt, ofNat] using scalar_digits h
  | negSucc n =>
    have negative := scalar_neg_digits (n := n + 1) h
    simpa [ofInt, ofNat, Int.negSucc_eq] using negative

/-! ## Numbers with a fraction or an exponent -/

section Rendering

variable {f : Binary64.Style}

theorem isScalar_of_mem_digits {n : Nat} (h : c ∈ digits 10 n) : isScalar c = true :=
  isScalar_of_isDigit (isDigit_of_mem_digits h)

theorem all_isScalar_exponentText (e : Int) : (Binary64.exponentText f e).all isScalar = true := by
  have sign : isScalar (if e < 0 then '-' else '+') = true := by split <;> decide
  have zero : isScalar '0' = true := by decide
  have digits : (digits 10 e.natAbs).all isScalar = true :=
    List.all_eq_true.mpr fun c hc => isScalar_of_mem_digits hc
  simp only [Binary64.exponentText, List.cons_append, List.all_cons, List.all_append, sign, digits,
    List.all_replicate, zero, ite_self, Bool.and_true]

theorem all_isScalar_render {x : Binary64.Numeral} (all : x.digits.all isScalar = true) :
    (x.render f).all isScalar = true := by
  have point : isScalar '.' = true := by decide
  have zero : isScalar '0' = true := by decide
  have exponent : isScalar 'e' = true := by decide
  have parts (n : Nat) : (x.digits.take n).all isScalar = true ∧
      (x.digits.drop n).all isScalar = true := by
    rw [← List.take_append_drop n x.digits, List.all_append, Bool.and_eq_true] at all
    exact all
  rw [Binary64.Numeral.render]
  split
  next =>
    split
    next => simp [point, zero, all]
    next =>
      dsimp only
      split
      next => simp [point, parts]
      next => simp [point, zero, all]
  next =>
    split
    next => rfl
    next d hd => simp_all [all_isScalar_exponentText]
    next d ds _ hd => simp_all [all_isScalar_exponentText]

theorem all_isScalar_shortest (m : Nat) (e : Int) :
    (Binary64.shortest m e).digits.all isScalar = true := by
  refine List.all_eq_true.mpr fun c hc => ?_
  rw [Binary64.shortest] at hc
  have kept := List.dropWhile_subset _ (List.mem_reverse.mp hc)
  exact isScalar_of_mem_digits (List.mem_reverse.mp kept)

theorem all_isScalar_float (x : Binary64) : (writeAtom (.float x)).all isScalar = true := by
  cases x with
  | nan => decide
  | infinite negative => cases negative <;> decide
  | finite negative m e =>
    have body : (if m = 0 then ['0', '.', '0'] else
        (Binary64.shortest m e).render wireNumber).all isScalar = true := by
      split
      · decide
      · exact all_isScalar_render (all_isScalar_shortest m e)
    have sign : isScalar '-' = true := by decide
    rw [writeAtom, Binary64.render, String.toList_ofList]
    cases negative with
    | false => exact body
    | true => simpa [sign] using body

end Rendering

/-- A number is read back from its shortest text. -/
def Survives (x : Binary64) : Prop := parse (writeAtom (.float x)) = .ok (.float x)

instance (x : Binary64) : Decidable (Survives x) :=
  inferInstanceAs (Decidable (parse (writeAtom (.float x)) = .ok (.float x)))

theorem parse_eq_ok : parse cs = .ok v ↔ readText maxDepth cs = .ok v := by
  rw [parse, parseWithin]
  split <;> simp_all

/-- A whole text is a value with blanks around it. -/
theorem readText_eq_ok {depth : Nat} (h : cs.head? ≠ some '\uFEFF') :
    readText depth cs = .ok v ↔
      ∃ rest, readValue depth (2 * cs.length + 2) (skipSpace cs) = .ok (v, rest) ∧
        skipSpace rest = [] := by
  rw [readText.eq_def]
  split
  next => simp at h
  next =>
    split
    next e => simp [e]
    next v' rest e =>
      simp only [e, Except.ok.injEq, Prod.mk.injEq]
      split
      next none => simp [none]
      next left => simpa using fun _ => left

theorem not_isSpace_of_isScalar (h : isScalar c = true) : isSpace c = false :=
  Bool.eq_false_iff.mpr fun space => by simp [isScalar_of_isSpace space] at h

theorem skipSpace_cons (h : isSpace c = false) : skipSpace (c :: cs) = c :: cs := by
  simp [skipSpace, h]

theorem skipSpace_of_isScalar (all : ∀ c ∈ cs, isScalar c = true) : skipSpace cs = cs := by
  cases cs with
  | nil => rfl
  | cons c cs => exact skipSpace_cons (not_isSpace_of_isScalar (all c List.mem_cons_self))

theorem scalar_float {x : Binary64} (h : Survives x) :
    Scalar (writeAtom (.float x)) (.float x) := by
  have all := List.all_eq_true.mp (all_isScalar_float x)
  rw [Survives, parse_eq_ok] at h
  generalize writeAtom (.float x) = t at all h
  cases t with
  | nil => exact absurd h (by simp [readText, skipSpace, readValue, readScalar_nil])
  | cons c t =>
    have scalar := all c List.mem_cons_self
    have mark : (c :: t).head? ≠ some '\uFEFF' := by
      rintro h
      obtain rfl := by simpa using h
      revert scalar
      decide
    obtain ⟨rest, read, blank⟩ := (readText_eq_ok mark).mp h
    rw [skipSpace_of_isScalar all, readValue_of_isScalar scalar] at read
    have kept := (readScalar_suffix read).subset
    rw [skipSpace_of_isScalar fun d hd => all d (kept hd)] at blank
    exact ⟨all, by rw [read, blank]⟩

end LspGateway.Json
