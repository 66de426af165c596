import Mathlib.Data.List.TakeWhile
import Mathlib.Data.Nat.Digits.Lemmas
import LspGateway.Text.Digits

/-! # Digits and what they denote

The digits of a number are those of the positional system, most significant
first. So they are read back as the number, and no number but zero has a leading
zero.
-/

namespace LspGateway.Text

variable {b n : Nat}

theorem digitsAux_eq (hb : 1 < b) : ∀ {fuel n : Nat} (acc : List Char),
    n ≠ 0 → n < 2 ^ fuel → digitsAux b fuel n acc = (Nat.digits b n).reverse.map digitChar ++ acc
  | 0, n, acc, hn, hlt => absurd (Nat.lt_one_iff.mp (by simpa using hlt)) hn
  | fuel + 1, n, acc, hn, hlt => by
    rw [digitsAux, Nat.digits_def' hb (Nat.pos_of_ne_zero hn)]
    split
    next hsmall => simp [Nat.div_eq_of_lt hsmall, Nat.mod_eq_of_lt hsmall]
    next hlarge =>
      have hne : n / b ≠ 0 := (Nat.div_pos (Nat.le_of_not_lt hlarge) (by omega)).ne'
      have hdiv : n / b < 2 ^ fuel := by
        rw [pow_succ] at hlt
        have halved : n / b ≤ n / 2 := Nat.div_le_div_left hb (by omega)
        omega
      rw [digitsAux_eq hb _ hne hdiv]
      simp

/-- The digits of a positive number are those of the positional system. -/
theorem digits_eq (hb : 1 < b) (hn : n ≠ 0) :
    digits b n = (Nat.digits b n).reverse.map digitChar := by
  rw [digits, digitsAux_eq hb [] hn Nat.lt_log2_self, List.append_nil]

theorem digits_of_lt (h : n < b) : digits b n = [digitChar n] := by
  simp [digits, digitsAux, h]

theorem digits_of_le (hb : 1 < b) (h : b ≤ n) :
    digits b n = digits b (n / b) ++ [digitChar (n % b)] := by
  have hne : n / b ≠ 0 := (Nat.div_pos h (by omega)).ne'
  rw [digits_eq hb (by omega), digits_eq hb hne, Nat.digits_def' hb (by omega)]
  simp

/-! ## The digits themselves -/

theorem digit?_digitChar : ∀ d < 10, digit? (digitChar d) = some d := by decide

theorem hexDigit?_digitChar : ∀ d < 16, hexDigit? (digitChar d) = some d := by decide

theorem digitChar_range : ∀ d < 10, ('0' ≤ digitChar d ∧ digitChar d ≤ '9') := by decide

theorem digitChar_ne_zero : ∀ d < 10, d ≠ 0 → digitChar d ≠ '0' := by decide

theorem mem_digits {c : Char} (h : c ∈ digits 10 n) : '0' ≤ c ∧ c ≤ '9' := by
  rcases Nat.lt_or_ge n 10 with hn | hn
  · rw [digits_of_lt hn, List.mem_singleton] at h
    exact h ▸ digitChar_range n hn
  · rw [digits_eq (by omega) (by omega)] at h
    obtain ⟨d, hd, rfl⟩ := List.mem_map.mp h
    exact digitChar_range d (Nat.digits_lt_base (by omega) (List.mem_reverse.mp hd))

theorem digits_ne_nil : digits b n ≠ [] := by
  rw [digits]
  suffices h : ∀ (fuel n : Nat) (acc : List Char), acc ≠ [] → digitsAux b fuel n acc ≠ [] by
    rw [digitsAux]
    split
    · simp
    · exact h _ _ _ (by simp)
  intro fuel
  induction fuel with
  | zero => intro n acc hacc; exact hacc
  | succ fuel ih =>
    intro n acc hacc
    rw [digitsAux]
    split
    · simp
    · exact ih _ _ (by simp)

/-- Only zero is written with a leading zero. -/
theorem digits_head (hn : n ≠ 0) : ∃ c cs, digits 10 n = c :: cs ∧ c ≠ '0' := by
  have hne : (Nat.digits 10 n) ≠ [] := Nat.digits_ne_nil_iff_ne_zero.mpr hn
  obtain ⟨ds, hds⟩ : ∃ ds, (Nat.digits 10 n).reverse =
      (Nat.digits 10 n).getLast hne :: ds := by
    refine ⟨(Nat.digits 10 n).dropLast.reverse, ?_⟩
    conv_lhs => rw [← List.dropLast_append_getLast hne]
    simp
  refine ⟨_, ds.map digitChar, by rw [digits_eq (by omega) hn, hds]; rfl, ?_⟩
  exact digitChar_ne_zero _ (Nat.digits_lt_base (by omega) (List.getLast_mem hne))
    (Nat.getLast_digit_ne_zero 10 hn)

/-! ## Reading them back -/

theorem ofDigits_reverse (ds : List Nat) : ofDigits ds.reverse = Nat.ofDigits 10 ds := by
  rw [ofDigits, List.foldl_reverse, Nat.ofDigits_eq_foldr]
  simp [Nat.add_comm]

theorem filterMap_digit? {ds : List Nat} (h : ∀ d ∈ ds, d < 10) :
    (ds.map digitChar).filterMap digit? = ds := by
  induction ds with
  | nil => rfl
  | cons d ds ih =>
    rw [List.map_cons, List.filterMap_cons, digit?_digitChar d (h d List.mem_cons_self)]
    simp [ih fun e he => h e (List.mem_cons_of_mem _ he)]

/-- A number is read back from its digits. -/
theorem ofDigits_digits (n : Nat) : ofDigits ((digits 10 n).filterMap digit?) = n := by
  rcases Nat.eq_zero_or_pos n with rfl | hn
  · decide
  · rw [digits_eq (by omega) hn.ne', filterMap_digit?, ofDigits_reverse, Nat.ofDigits_digits]
    intro d hd
    exact Nat.digits_lt_base (by omega) (List.mem_reverse.mp hd)

theorem exists_digits (n : Nat) :
    ∃ ds : List Nat, digits 10 n = ds.map digitChar ∧ ds ≠ [] ∧ ∀ d ∈ ds, d < 10 := by
  rcases Nat.eq_zero_or_pos n with rfl | hn
  · exact ⟨[0], by decide, by decide, by decide⟩
  · refine ⟨(Nat.digits 10 n).reverse, digits_eq (by omega) hn.ne', ?_, fun d hd => ?_⟩
    · simpa [Nat.digits_eq_nil_iff_eq_zero] using hn.ne'
    · exact Nat.digits_lt_base (by omega) (List.mem_reverse.mp hd)

theorem anyDigit?_digitChar : ∀ d < 10, anyDigit? (digitChar d) = some d := by decide

/-- Digits without separators are a run of digits. -/
theorem digitRun_map {ds : List Nat} (full : ds ≠ []) (h : ∀ d ∈ ds, d < 10) :
    digitRun (ds.map digitChar) = some ds := by
  have other : ∀ d < 10, digitChar d ≠ '_' := by decide
  induction ds with
  | nil => exact absurd rfl full
  | cons d ds ih =>
    have value := anyDigit?_digitChar d (h d List.mem_cons_self)
    cases ds with
    | nil => simp [digitRun, value]
    | cons e ds =>
      have tail := ih (by simp) fun x hx => h x (List.mem_cons_of_mem _ hx)
      have plain := other e (h e (by simp))
      simp only [List.map_cons] at tail ⊢
      rw [digitRun, value]
      split
      next => simp_all
      next => simp_all

theorem isBlank_digit : ∀ d < 10, isBlank (digitChar d) = false := by decide

theorem isDigitPart_digit : ∀ d < 10, isDigitPart (digitChar d) = true := by decide

theorem sign_digit : ∀ d < 10, digitChar d ≠ '-' ∧ digitChar d ≠ '+' := by decide

/-- Digits are read as the number they denote, with leading zeros or without. -/
theorem readInt_map {ds : List Nat} (full : ds ≠ []) (small : ∀ d ∈ ds, d < 10)
    (few : ds.length ≤ maxDigits) : readInt (.ofList (ds.map digitChar)) = .ok (ofDigits ds) := by
  obtain ⟨d, tail, rfl⟩ := List.exists_cons_of_ne_nil full
  have first := small d List.mem_cons_self
  have run : ((d :: tail).map digitChar).takeWhile isDigitPart = (d :: tail).map digitChar := by
    rw [List.takeWhile_eq_self_iff]
    intro c hc
    obtain ⟨e, he, rfl⟩ := List.mem_map.mp hc
    exact isDigitPart_digit e (small e he)
  have whole : ((d :: tail).map digitChar).dropWhile isDigitPart = [] := by
    rw [List.dropWhile_eq_nil_iff]
    intro c hc
    obtain ⟨e, he, rfl⟩ := List.mem_map.mp hc
    exact isDigitPart_digit e (small e he)
  have start : ((d :: tail).map digitChar).dropWhile isPadding = (d :: tail).map digitChar := by
    simp [isPadding, isBlank_digit d first]
  have sign := sign_digit d first
  have parts : digitRun ((d :: tail).map digitChar) = some (d :: tail) := digitRun_map full small
  simp only [readInt, String.toList_ofList, start]
  simp only [List.map_cons] at run whole parts ⊢
  have few : tail.length < maxDigits := few
  simp [sign, parts, run, whole, few]

/-- A length is read back from its digits. -/
theorem readInt_digits (h : (digits 10 n).length ≤ maxDigits) :
    readInt (.ofList (digits 10 n)) = .ok n := by
  have value := ofDigits_digits n
  obtain ⟨ds, hds, full, small⟩ := exists_digits n
  rw [hds, filterMap_digit? small] at value
  rw [hds, List.length_map] at h
  rw [hds, readInt_map full small h, value]

/-- The four hexadecimal digits of a number of sixteen bits. -/
theorem toList_hex_four (h : n < 0x10000) : (hex 4 n).toList =
    [digitChar (n / 4096), digitChar (n / 256 % 16), digitChar (n / 16 % 16),
      digitChar (n % 16)] := by
  have zero : '0' = digitChar 0 := by decide
  rw [hex, String.toList_ofList]
  rcases Nat.lt_or_ge n 16 with h₁ | h₁
  · rw [digits_of_lt h₁, show n / 4096 = 0 by omega, show n / 256 % 16 = 0 by omega,
      show n / 16 % 16 = 0 by omega, Nat.mod_eq_of_lt h₁, ← zero]
    rfl
  rcases Nat.lt_or_ge n 256 with h₂ | h₂
  · rw [digits_of_le (by omega) h₁, digits_of_lt (by omega : n / 16 < 16),
      show n / 4096 = 0 by omega, show n / 256 % 16 = 0 by omega,
      show n / 16 % 16 = n / 16 by omega, ← zero]
    rfl
  rcases Nat.lt_or_ge n 4096 with h₃ | h₃
  · rw [digits_of_le (by omega) h₁, digits_of_le (by omega) (by omega : 16 ≤ n / 16),
      digits_of_lt (by omega : n / 16 / 16 < 16), show n / 4096 = 0 by omega,
      show n / 256 % 16 = n / 16 / 16 by omega, ← zero]
    rfl
  · rw [digits_of_le (by omega) h₁, digits_of_le (by omega) (by omega : 16 ≤ n / 16),
      digits_of_le (by omega) (by omega : 16 ≤ n / 16 / 16),
      digits_of_lt (by omega : n / 16 / 16 / 16 < 16),
      show n / 4096 = n / 16 / 16 / 16 by omega, show n / 256 % 16 = n / 16 / 16 % 16 by omega]
    rfl

end LspGateway.Text
