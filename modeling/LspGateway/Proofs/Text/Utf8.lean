import Mathlib.Tactic.SplitIfs
import LspGateway.Text.Utf8

/-! # Texts read back from their bytes

Each character is one piece again, whatever bytes follow it. So every text is read back
from its bytes. The bytes of a character beyond the one-byte ones are no ASCII.
-/

namespace LspGateway.Text.Utf8

variable {c : Char} {bs : List UInt8}

theorem toNat_toUInt8 {n : Nat} (h : n < 256) : n.toUInt8.toNat = n := by
  rw [Nat.toUInt8, UInt8.toNat_ofNat']
  omega

/-- Code points are those of Unicode without the surrogates. -/
theorem toNat_valid (c : Char) : c.toNat < 0xD800 ∨ 0xE000 ≤ c.toNat ∧ c.toNat < 0x110000 := by
  rcases c.valid with low | ⟨above, high⟩
  · exact .inl low
  · exact .inr ⟨Nat.lt_iff_add_one_le.mp above, high⟩

theorem ofNat_eq {n : Nat} (h : n = c.toNat) : Char.ofNat n = c := by
  rw [h, Char.ofNat_toNat]

/-! ## One character -/

theorem isTail_toUInt8 {n : Nat} (h : n < 64) : isTail (0x80 + n).toUInt8 = true := by
  simp only [isTail, toNat_toUInt8 (by omega : 0x80 + n < 256), Bool.and_eq_true, decide_eq_true_eq]
  omega

theorem tailBits_toUInt8 {n : Nat} (h : n < 64) : tailBits (0x80 + n).toUInt8 = n := by
  rw [tailBits, toNat_toUInt8 (by omega)]
  omega

theorem pieces_one (h : c.toNat < 0x80) :
    pieces (c.toNat.toUInt8 :: bs) = .char c :: pieces bs := by
  rw [pieces, toNat_toUInt8 (by omega), if_pos h, Char.ofNat_toNat]

theorem pieces_two (low : 0x80 ≤ c.toNat) (high : c.toNat < 0x800) :
    pieces ((0xC0 + c.toNat / 64).toUInt8 :: (0x80 + c.toNat % 64).toUInt8 :: bs) =
      .char c :: pieces bs := by
  have lead : (0xC0 + c.toNat / 64).toUInt8.toNat = 0xC0 + c.toNat / 64 :=
    toNat_toUInt8 (by omega)
  have first : (0x80 + c.toNat % 64).toUInt8.toNat = 0x80 + c.toNat % 64 :=
    toNat_toUInt8 (by omega)
  have bits : tailBits (0x80 + c.toNat % 64).toUInt8 = c.toNat % 64 :=
    tailBits_toUInt8 (by omega)
  have follow : follow? (0xC0 + c.toNat / 64) = some (1, 0x80, 0xBF) := by
    rw [follow?, if_pos (by simp; omega)]
  rw [pieces, lead, if_neg (by omega), follow]
  simp only [first, bits]
  rw [if_neg (by simp; omega), if_pos (by rfl), ofNat_eq (c := c) (by omega)]

/-- The first byte after the lead of three is within its bounds. -/
theorem follow?_three (low : 0x800 ≤ c.toNat) (high : c.toNat < 0x10000) :
    ∃ lo hi, follow? (0xE0 + c.toNat / 4096) = some (2, lo, hi) ∧
      lo ≤ 0x80 + c.toNat / 64 % 64 ∧ 0x80 + c.toNat / 64 % 64 ≤ hi := by
  have valid := toNat_valid c
  unfold follow?
  simp only [Bool.and_eq_true, decide_eq_true_eq, beq_iff_eq]
  split_ifs <;> first | omega | exact ⟨_, _, rfl, by omega, by omega⟩

theorem pieces_three (low : 0x800 ≤ c.toNat) (high : c.toNat < 0x10000) :
    pieces ((0xE0 + c.toNat / 4096).toUInt8 :: (0x80 + c.toNat / 64 % 64).toUInt8 ::
      (0x80 + c.toNat % 64).toUInt8 :: bs) = .char c :: pieces bs := by
  obtain ⟨lo, hi, follow, above, below⟩ := follow?_three low high
  have lead : (0xE0 + c.toNat / 4096).toUInt8.toNat = 0xE0 + c.toNat / 4096 :=
    toNat_toUInt8 (by omega)
  have first : (0x80 + c.toNat / 64 % 64).toUInt8.toNat = 0x80 + c.toNat / 64 % 64 :=
    toNat_toUInt8 (by omega)
  have bits : tailBits (0x80 + c.toNat / 64 % 64).toUInt8 = c.toNat / 64 % 64 :=
    tailBits_toUInt8 (by omega)
  have tail : isTail (0x80 + c.toNat % 64).toUInt8 = true := isTail_toUInt8 (by omega)
  have bits' : tailBits (0x80 + c.toNat % 64).toUInt8 = c.toNat % 64 := tailBits_toUInt8 (by omega)
  rw [pieces, lead, if_neg (by omega), follow]
  simp only [first, bits, tail, bits']
  rw [if_neg (by simp; omega), if_neg (by decide), if_neg (by decide), if_pos (by rfl),
    ofNat_eq (c := c) (by omega)]

/-- The first byte after the lead of four is within its bounds. -/
theorem follow?_four (low : 0x10000 ≤ c.toNat) :
    ∃ lo hi, follow? (0xF0 + c.toNat / 262144) = some (3, lo, hi) ∧
      lo ≤ 0x80 + c.toNat / 4096 % 64 ∧ 0x80 + c.toNat / 4096 % 64 ≤ hi := by
  have valid := toNat_valid c
  unfold follow?
  simp only [Bool.and_eq_true, decide_eq_true_eq, beq_iff_eq]
  split_ifs <;> first | omega | exact ⟨_, _, rfl, by omega, by omega⟩

theorem pieces_four (low : 0x10000 ≤ c.toNat) :
    pieces ((0xF0 + c.toNat / 262144).toUInt8 :: (0x80 + c.toNat / 4096 % 64).toUInt8 ::
      (0x80 + c.toNat / 64 % 64).toUInt8 :: (0x80 + c.toNat % 64).toUInt8 :: bs) =
      .char c :: pieces bs := by
  obtain ⟨lo, hi, follow, above, below⟩ := follow?_four low
  have valid := toNat_valid c
  have lead : (0xF0 + c.toNat / 262144).toUInt8.toNat = 0xF0 + c.toNat / 262144 :=
    toNat_toUInt8 (by omega)
  have first : (0x80 + c.toNat / 4096 % 64).toUInt8.toNat = 0x80 + c.toNat / 4096 % 64 :=
    toNat_toUInt8 (by omega)
  have tail {n : Nat} : isTail (0x80 + n % 64).toUInt8 = true := isTail_toUInt8 (by omega)
  have bits {n : Nat} : tailBits (0x80 + n % 64).toUInt8 = n % 64 := tailBits_toUInt8 (by omega)
  rw [pieces, lead, if_neg (by omega), follow]
  simp only [first, tail, bits]
  rw [if_neg (by simp; omega), if_neg (by decide), if_neg (by decide), if_neg (by decide),
    if_neg (by decide), ofNat_eq (c := c) (by omega)]

/-- The bytes of a character are one piece, whatever follows them. -/
theorem pieces_encodeChar (c : Char) (bs : List UInt8) :
    pieces (encodeChar c ++ bs) = .char c :: pieces bs := by
  simp only [encodeChar]
  split_ifs with one two three
  · exact pieces_one one
  · exact pieces_two (by omega) two
  · exact pieces_three (by omega) three
  · exact pieces_four (by omega)

/-! ## A text -/

theorem pieces_flatMap (cs : List Char) : pieces (cs.flatMap encodeChar) = cs.map .char := by
  induction cs with
  | nil => rfl
  | cons c cs ih => rw [List.flatMap_cons, pieces_encodeChar, ih, List.map_cons]

theorem join_map_char (cs : List Char) : ∀ pos, join pos (cs.map .char) = .ok cs := by
  induction cs with
  | nil => intro pos; rfl
  | cons c cs ih => intro pos; simp [join, ih]

/-- A text is read back from its bytes. -/
theorem decode_encode (cs : List Char) : decode (encode (.ofList cs)) = .ok cs := by
  rw [encode, String.toList_ofList, decode, pieces_flatMap, join_map_char]

theorem encode_append (cs ds : List Char) :
    encode (.ofList (cs ++ ds)) = encode (.ofList cs) ++ encode (.ofList ds) := by
  simp only [encode, String.toList_ofList, List.flatMap_append]

/-- No character but a line break has the byte of one. -/
theorem notMem_encodeChar (h : c ≠ '\n') : 10 ∉ encodeChar c := by
  have other {n : Nat} (large : 0x80 ≤ n) (small : n < 256) : (10 : UInt8) ≠ n.toUInt8 := by
    intro same
    have value := toNat_toUInt8 small
    rw [← same] at value
    exact absurd value (by simp; omega)
  have valid := toNat_valid c
  simp only [encodeChar]
  split_ifs with one two three
  · rw [List.mem_singleton]
    intro same
    have value := toNat_toUInt8 (show c.toNat < 256 by omega)
    rw [← same] at value
    exact h (by rw [← Char.ofNat_toNat c, ← value]; rfl)
  · simp only [List.mem_cons, List.not_mem_nil, or_false, not_or]
    exact ⟨other (by omega) (by omega), other (by omega) (by omega)⟩
  · simp only [List.mem_cons, List.not_mem_nil, or_false, not_or]
    exact ⟨other (by omega) (by omega), other (by omega) (by omega), other (by omega) (by omega)⟩
  · simp only [List.mem_cons, List.not_mem_nil, or_false, not_or]
    exact ⟨other (by omega) (by omega), other (by omega) (by omega), other (by omega) (by omega),
      other (by omega) (by omega)⟩

theorem notMem_encode {cs : List Char} (h : '\n' ∉ cs) : 10 ∉ encode (.ofList cs) := by
  rw [encode, String.toList_ofList, List.mem_flatMap]
  rintro ⟨c, hc, mem⟩
  exact notMem_encodeChar (fun same => h (same ▸ hc)) mem

theorem encodeChar_ne_nil (c : Char) : encodeChar c ≠ [] := by
  simp only [encodeChar]
  split_ifs <;> simp

theorem encode_ne_nil {cs : List Char} (h : cs ≠ []) : encode (.ofList cs) ≠ [] := by
  obtain ⟨c, cs, rfl⟩ := List.exists_cons_of_ne_nil h
  simp [encode, encodeChar_ne_nil]

end LspGateway.Text.Utf8
