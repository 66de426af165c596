import Mathlib.Data.List.Induction
import LspGateway.Json.Parser
import LspGateway.Json.Printer
import LspGateway.Proofs.Json.Scalars
import LspGateway.Proofs.Text.Digits

/-! # Values read back

The compact and the indented text of a value differ in the blanks between its parts.
For any such blanks a value is read back from its text, with its members in their
order, if no key occurs twice in an object and the limits of the reader are kept.
-/

namespace LspGateway.Json
open LspGateway.Text

/-! ## Strings read back

Every character between quotes is read back from its escape, the two units of a
pair as one character. So a string is read back from its text, whatever follows.
-/

section Strings

variable {c : Char} {n : Nat} {cs : List Char}

/-! ### One unit -/

theorem readUnit_hex (h : n < 0x10000) (hcs : cs ≠ []) :
    readUnit ((hex 4 n).toList ++ cs) = some (n, cs) := by
  obtain ⟨e, rest, rfl⟩ := List.exists_cons_of_ne_nil hcs
  have value : ((n / 4096 * 16 + n / 256 % 16) * 16 + n / 16 % 16) * 16 + n % 16 = n := by omega
  simp only [toList_hex_four h, List.cons_append, List.nil_append, readUnit]
  rw [hexDigit?_digitChar _ (by omega), hexDigit?_digitChar _ (by omega),
    hexDigit?_digitChar _ (by omega), hexDigit?_digitChar _ (by omega)]
  simp [value]

/-- A unit that is a character by itself. -/
theorem readUnicode_unit (h : n < 0x10000) (whole : n < 0xD800 ∨ 0xE000 ≤ n) (hcs : cs ≠ []) :
    readUnicode ((hex 4 n).toList ++ cs) = .ok (Char.ofNat n, cs) := by
  rw [readUnicode, readUnit_hex h hcs]
  rcases whole with low | high
  · simp [unitChar, show ¬ 0xD800 ≤ n by omega]
  · simp [unitChar, show ¬ n < 0xE000 by omega, show ¬ n < 0xDC00 by omega]

/-- The two units of a character beyond those of sixteen bits. -/
theorem readUnicode_pair (h : n < 0x100000) (hcs : cs ≠ []) :
    readUnicode ((hex 4 (0xD800 + n / 0x400)).toList ++
      ('\\' :: 'u' :: ((hex 4 (0xDC00 + n % 0x400)).toList ++ cs))) =
      .ok (Char.ofNat (0x10000 + n), cs) := by
  have long : 5 ≤ ((hex 4 (0xDC00 + n % 0x400)).toList ++ cs).length := by
    have := List.length_pos_iff.mpr hcs
    rw [toList_hex_four (by omega)]
    simp only [List.length_append, List.length_cons, List.length_nil]
    omega
  have value : 0x10000 + (0xD800 + n / 0x400 - 0xD800) * 0x400 +
      (0xDC00 + n % 0x400 - 0xDC00) = 0x10000 + n := by omega
  rw [readUnicode, readUnit_hex (by omega) (by simp)]
  simp only [readUnit_hex (by omega : 0xDC00 + n % 0x400 < 0x10000) hcs, long, if_true, value]
  rw [if_pos (by simp; omega), if_pos (by simp; omega)]

/-! ### One character -/

/-- How a character stands between quotes. -/
inductive Escape (c : Char) : List Char → Prop
  | itself (printable : 32 ≤ c.toNat ∧ c.toNat < 127) (quote : c ≠ '"') (slash : c ≠ '\\') :
    Escape c [c]
  | letter {e : Char} (known : simpleEscape? e = some c) (other : e ≠ 'u')
    (ascii : e.toNat < 128) : Escape c ['\\', e]
  | unit (small : c.toNat < 0x10000) : Escape c ('\\' :: 'u' :: (hex 4 c.toNat).toList)
  | pair {n : Nat} (large : c.toNat = 0x10000 + n) :
    Escape c (('\\' :: 'u' :: (hex 4 (0xD800 + n / 0x400)).toList) ++
      ('\\' :: 'u' :: (hex 4 (0xDC00 + n % 0x400)).toList))

theorem escape_escapeChar (c : Char) : Escape c (escapeChar c) := by
  rw [escapeChar]
  split
  next h => subst h; exact .letter (by decide) (by decide) (by decide)
  split
  next h => subst h; exact .letter (by decide) (by decide) (by decide)
  split
  next h => subst h; exact .letter (by decide) (by decide) (by decide)
  split
  next h => subst h; exact .letter (by decide) (by decide) (by decide)
  split
  next h => subst h; exact .letter (by decide) (by decide) (by decide)
  split
  next h =>
    obtain rfl : c = Char.ofNat 8 := by rw [← h, Char.ofNat_toNat]
    exact .letter (by decide) (by decide) (by decide)
  split
  next h =>
    obtain rfl : c = Char.ofNat 12 := by rw [← h, Char.ofNat_toNat]
    exact .letter (by decide) (by decide) (by decide)
  split
  next quote slash _ _ _ _ _ h =>
    simp only [Bool.and_eq_true, decide_eq_true_eq] at h
    exact .itself h quote slash
  split
  next h => exact .unit h
  next h => exact .pair (n := c.toNat - 0x10000) (by omega)

theorem escapeChar_ne_nil : escapeChar c ≠ [] := by
  have escape := escape_escapeChar c
  intro none
  rw [none] at escape
  cases escape

theorem pair_bound (large : c.toNat = 0x10000 + n) : n < 0x100000 := by
  rcases c.valid with low | ⟨-, high⟩
  · exact absurd low (by change ¬ c.toNat < 0xD800; omega)
  · change c.toNat < 0x110000 at high
    omega

theorem readString_escapeChar {start acc : List Char} {fuel : Nat} (hcs : cs ≠ []) :
    readString start (fuel + 1) (escapeChar c ++ cs) acc = readString start fuel cs (c :: acc) := by
  have escape := escape_escapeChar c
  generalize escapeChar c = text at escape
  cases escape with
  | itself printable quote slash =>
    simp [readString, quote, slash, show ¬ c.toNat < 32 by omega]
  | letter known other => simp [readString, known, other]
  | unit small =>
    have whole : c.toNat < 0xD800 ∨ 0xE000 ≤ c.toNat := c.valid.imp_right (·.1)
    simp [readString, readUnicode_unit small whole hcs, Char.ofNat_toNat]
  | @pair n large =>
    simp only [List.cons_append, List.append_assoc, readString]
    simp [readUnicode_pair (pair_bound large) hcs, ← large, Char.ofNat_toNat]

/-! ### A whole string -/

/-- What stands between the quotes of a string is read back as the string. -/
theorem readString_flatMap {start r : List Char} : ∀ {fuel : Nat} (s acc : List Char),
    s.length < fuel →
    readString start fuel (s.flatMap escapeChar ++ '"' :: r) acc =
      .ok (.ofList (acc.reverse ++ s), r)
  | 0, _, _, h => absurd h (Nat.not_lt_zero _)
  | fuel + 1, [], acc, _ => by simp [readString]
  | fuel + 1, c :: s, acc, h => by
    rw [List.flatMap_cons, List.append_assoc, readString_escapeChar (by simp),
      readString_flatMap s (c :: acc) (by simpa using h)]
    simp

theorem length_le_flatMap (s : List Char) : s.length ≤ (s.flatMap escapeChar).length := by
  induction s with
  | nil => rfl
  | cons c s ih =>
    have := List.length_pos_iff.mpr (escapeChar_ne_nil (c := c))
    simp only [List.flatMap_cons, List.length_append, List.length_cons]
    omega

/-- The text of a string after its opening quote. -/
def quotedTail (s : String) : List Char := s.toList.flatMap escapeChar ++ ['"']

/-- A string is read back from its text. -/
theorem readString_quotedTail (s : String) (r start : List Char) {fuel : Nat}
    (h : (quotedTail s ++ r).length < fuel) :
    readString start fuel (quotedTail s ++ r) [] = .ok (s, r) := by
  have long := length_le_flatMap s.toList
  simp only [quotedTail, List.length_append, List.length_singleton] at h
  rw [quotedTail, List.append_assoc, List.singleton_append,
    readString_flatMap s.toList [] (by omega)]
  simp

end Strings

/-! ## The texts of values -/

/-- The blanks that a text has inside a container at each level. -/
structure Gaps where
  /-- After the opening bracket. -/
  first : Nat → List Char
  /-- After a comma. -/
  next : Nat → List Char
  /-- Before the closing bracket. -/
  last : Nat → List Char
  first_blank : ∀ level, (first level).all isSpace = true
  next_blank : ∀ level, (next level).all isSpace = true
  last_blank : ∀ level, (last level).all isSpace = true

mutual

/-- The text of a value at a level. -/
def spell (g : Gaps) (level : Nat) : Json → List Char
  | .arr [] => ['[', ']']
  | .arr (x :: xs) =>
    '[' :: (g.first level ++ (spell g (level + 1) x ++ spellItems g level xs))
  | .obj [] => ['\x7b', '\x7d']
  | .obj ((k, v) :: ms) =>
    '\x7b' :: (g.first level ++ (writeString k ++ (':' :: ' ' ::
      (spell g (level + 1) v ++ spellMembers g level ms))))
  | .null => writeAtom .null
  | .bool b => writeAtom (.bool b)
  | .int i => writeAtom (.int i)
  | .float x => writeAtom (.float x)
  | .str s => writeAtom (.str s)

/-- The items after the first, and the closing bracket. -/
def spellItems (g : Gaps) (level : Nat) : List Json → List Char
  | [] => g.last level ++ [']']
  | x :: xs => ',' :: (g.next level ++ (spell g (level + 1) x ++ spellItems g level xs))

/-- The members after the first, and the closing brace. -/
def spellMembers (g : Gaps) (level : Nat) : List (String × Json) → List Char
  | [] => g.last level ++ ['\x7d']
  | (k, v) :: ms =>
    ',' :: (g.next level ++ (writeString k ++ (':' :: ' ' ::
      (spell g (level + 1) v ++ spellMembers g level ms))))

end

/-- A blank after each comma and none else. -/
def Gaps.compact : Gaps where
  first _ := []
  next _ := [' ']
  last _ := []
  first_blank _ := rfl
  next_blank _ := rfl
  last_blank _ := rfl

theorem all_isSpace_newline (level : Nat) : (newline level).all isSpace = true := by
  simp [newline, isSpace]

/-- Each part on a line of its own. -/
def Gaps.indented : Gaps where
  first level := newline (level + 1)
  next level := newline (level + 1)
  last := newline
  first_blank level := all_isSpace_newline (level + 1)
  next_blank level := all_isSpace_newline (level + 1)
  last_blank := all_isSpace_newline

mutual

theorem write_eq_spell : ∀ (j : Json) (level : Nat), write j = spell .compact level j
  | .arr [], _ => rfl
  | .arr (x :: xs), level => by
    rw [write, spell, write_eq_spell x (level + 1), writeItems_eq_spellItems xs level]
    rfl
  | .obj [], _ => rfl
  | .obj ((k, v) :: ms), level => by
    rw [write, spell, write_eq_spell v (level + 1), writeMembers_eq_spellMembers ms level]
    rfl
  | .null, _ => rfl
  | .bool _, _ => rfl
  | .int _, _ => rfl
  | .float _, _ => rfl
  | .str _, _ => rfl

theorem writeItems_eq_spellItems : ∀ (xs : List Json) (level : Nat),
    writeItems xs = spellItems .compact level xs
  | [], _ => rfl
  | x :: xs, level => by
    rw [writeItems, spellItems, write_eq_spell x (level + 1), writeItems_eq_spellItems xs level]
    rfl

theorem writeMembers_eq_spellMembers : ∀ (ms : List (String × Json)) (level : Nat),
    writeMembers ms = spellMembers .compact level ms
  | [], _ => rfl
  | (k, v) :: ms, level => by
    rw [writeMembers, spellMembers, write_eq_spell v (level + 1),
      writeMembers_eq_spellMembers ms level]
    rfl

end

mutual

theorem layout_eq_spell : ∀ (j : Json) (level : Nat), layout level j = spell .indented level j
  | .arr [], _ => rfl
  | .arr (x :: xs), level => by
    rw [layout, spell, layout_eq_spell x (level + 1), layoutItems_eq_spellItems xs level]
    rfl
  | .obj [], _ => rfl
  | .obj ((k, v) :: ms), level => by
    rw [layout, spell, layout_eq_spell v (level + 1), layoutMembers_eq_spellMembers ms level]
    rfl
  | .null, _ => rfl
  | .bool _, _ => rfl
  | .int _, _ => rfl
  | .float _, _ => rfl
  | .str _, _ => rfl

theorem layoutItems_eq_spellItems : ∀ (xs : List Json) (level : Nat),
    layoutItems level xs = spellItems .indented level xs
  | [], _ => rfl
  | x :: xs, level => by
    rw [layoutItems, spellItems, layout_eq_spell x (level + 1),
      layoutItems_eq_spellItems xs level]
    rfl

theorem layoutMembers_eq_spellMembers : ∀ (ms : List (String × Json)) (level : Nat),
    layoutMembers level ms = spellMembers .indented level ms
  | [], _ => rfl
  | (k, v) :: ms, level => by
    rw [layoutMembers, spellMembers, layout_eq_spell v (level + 1),
      layoutMembers_eq_spellMembers ms level]
    rfl

end

/-! ## Every text is ASCII -/

/-- A character of one byte. -/
def isAscii (c : Char) : Bool := c.toNat < 128

theorem isAscii_of_isScalar {c : Char} (h : isScalar c = true) : isAscii c = true := by
  have same : c.val.toNat = c.toNat := rfl
  delta isScalar isDigit Char.isAlpha Char.isUpper Char.isLower at h
  simp only [Bool.or_eq_true, Bool.and_eq_true, decide_eq_true_eq, Char.le_def,
    UInt32.le_iff_toNat_le, ge_iff_le, same] at h
  simp only [isAscii, decide_eq_true_eq]
  rcases h with (((⟨-, h⟩ | ⟨-, h⟩ | ⟨-, h⟩) | rfl) | rfl) | rfl
  · exact h.trans_lt (by decide)
  · exact h.trans_lt (by decide)
  · exact h.trans_lt (by decide)
  all_goals decide

theorem isAscii_of_isSpace {c : Char} (h : isSpace c = true) : isAscii c = true := by
  simp only [isSpace, Bool.or_eq_true, decide_eq_true_eq] at h
  rcases h with ((rfl | rfl) | rfl) | rfl <;> decide

theorem all_isAscii_hex {n : Nat} (h : n < 0x10000) : (hex 4 n).toList.all isAscii = true := by
  have digit : ∀ d < 16, isAscii (digitChar d) = true := by decide
  rw [toList_hex_four h]
  simp [digit, Nat.mod_lt, show n / 4096 < 16 by omega]

theorem all_isAscii_escapeChar (c : Char) : (escapeChar c).all isAscii = true := by
  have slash : isAscii '\\' = true := by decide
  have u : isAscii 'u' = true := by decide
  have escape := escape_escapeChar c
  generalize escapeChar c = text at escape
  cases escape with
  | itself printable => simpa [isAscii] using printable.2.trans (by omega)
  | letter _ _ ascii => simpa [slash, isAscii] using ascii
  | unit small => simp [slash, u, all_isAscii_hex small]
  | @pair n large =>
    have bound := pair_bound large
    simp [slash, u, all_isAscii_hex (show 0xD800 + n / 0x400 < 0x10000 by omega),
      all_isAscii_hex (show 0xDC00 + n % 0x400 < 0x10000 by omega)]

theorem all_isAscii_writeString (s : String) : (writeString s).all isAscii = true := by
  have quote : isAscii '"' = true := by decide
  simp [writeString, quote, List.all_flatMap, all_isAscii_escapeChar]

theorem all_isAscii_digits (n : Nat) : (digits 10 n).all isAscii = true :=
  List.all_eq_true.mpr fun _ hc => isAscii_of_isScalar (isScalar_of_mem_digits hc)

theorem all_isAscii_ofInt (i : Int) : (ofInt i).toList.all isAscii = true := by
  have minus : isAscii '-' = true := by decide
  cases i with
  | ofNat n => simpa [ofInt, ofNat] using all_isAscii_digits n
  | negSucc n => simpa [ofInt, ofNat, minus] using all_isAscii_digits (n + 1)

theorem all_isAscii_float (x : Binary64) : (writeAtom (.float x)).all isAscii = true :=
  List.all_eq_true.mpr fun _ hc =>
    isAscii_of_isScalar (List.all_eq_true.mp (all_isScalar_float x) _ hc)

theorem all_isAscii_of_blank {gap : List Char} (h : gap.all isSpace = true) :
    gap.all isAscii = true :=
  List.all_eq_true.mpr fun _ hc => isAscii_of_isSpace (List.all_eq_true.mp h _ hc)

section Ascii

variable (g : Gaps)

@[simp] theorem Gaps.first_ascii (level : Nat) : (g.first level).all isAscii = true :=
  all_isAscii_of_blank (g.first_blank level)

@[simp] theorem Gaps.next_ascii (level : Nat) : (g.next level).all isAscii = true :=
  all_isAscii_of_blank (g.next_blank level)

@[simp] theorem Gaps.last_ascii (level : Nat) : (g.last level).all isAscii = true :=
  all_isAscii_of_blank (g.last_blank level)

theorem isAscii_marks : ∀ c ∈ ['[', ']', '\x7b', '\x7d', ',', ':', ' '], isAscii c = true :=
  List.all_eq_true.mp (by decide)

mutual

/-- The text of a value is ASCII. -/
theorem all_isAscii_spell : ∀ (j : Json) (level : Nat), (spell g level j).all isAscii = true
  | .null, _ => rfl
  | .bool true, _ => rfl
  | .bool false, _ => rfl
  | .int i, _ => all_isAscii_ofInt i
  | .float x, _ => all_isAscii_float x
  | .str s, _ => all_isAscii_writeString s
  | .arr [], _ => rfl
  | .arr (x :: xs), level => by
    simp [spell, isAscii_marks, all_isAscii_spell x (level + 1), all_isAscii_spellItems xs level]
  | .obj [], _ => rfl
  | .obj ((k, v) :: ms), level => by
    simp [spell, isAscii_marks, all_isAscii_writeString, all_isAscii_spell v (level + 1),
      all_isAscii_spellMembers ms level]

theorem all_isAscii_spellItems : ∀ (xs : List Json) (level : Nat),
    (spellItems g level xs).all isAscii = true
  | [], level => by simp [spellItems, isAscii_marks]
  | x :: xs, level => by
    simp [spellItems, isAscii_marks, all_isAscii_spell x (level + 1),
      all_isAscii_spellItems xs level]

theorem all_isAscii_spellMembers : ∀ (ms : List (String × Json)) (level : Nat),
    (spellMembers g level ms).all isAscii = true
  | [], level => by simp [spellMembers, isAscii_marks]
  | (k, v) :: ms, level => by
    simp [spellMembers, isAscii_marks, all_isAscii_writeString, all_isAscii_spell v (level + 1),
      all_isAscii_spellMembers ms level]

end

end Ascii

/-! ## The values that are read back -/

mutual

/-- A value that a reader with room for some containers around another takes back: no
key twice in an object, numbers that survive, and no integer too long. -/
def fits : Nat → Json → Bool
  | _, .null => true
  | _, .bool _ => true
  | _, .int i => (digits 10 i.natAbs).length ≤ maxDigits
  | _, .float x => Survives x
  | _, .str _ => true
  | room, .arr xs => 0 < room && fitsItems (room - 1) xs
  | room, .obj ms => 0 < room && (ms.map (·.1)).Nodup && fitsMembers (room - 1) ms

/-- All items do. -/
def fitsItems : Nat → List Json → Bool
  | _, [] => true
  | room, x :: xs => fits room x && fitsItems room xs

/-- The values of all members do. -/
def fitsMembers : Nat → List (String × Json) → Bool
  | _, [] => true
  | room, (_, v) :: ms => fits room v && fitsMembers room ms

end

variable {g : Gaps} {level room fuel : Nat} {r : List Char}

/-! ## Blanks and first characters -/

theorem skipSpace_append {gap cs : List Char} (h : gap.all isSpace = true) :
    skipSpace (gap ++ cs) = skipSpace cs := by
  induction gap with
  | nil => rfl
  | cons c gap ih =>
    simp only [List.all_cons, Bool.and_eq_true] at h
    simpa [skipSpace, h.1] using ih h.2

theorem skipSpace_writeString {gap cs : List Char} (h : gap.all isSpace = true) {k : String} :
    skipSpace (gap ++ (writeString k ++ cs)) = writeString k ++ cs := by
  rw [skipSpace_append h]
  exact skipSpace_cons rfl

theorem ends_of_blank {gap : List Char} (h : gap.all isSpace = true) (hr : Ends r) :
    Ends (gap ++ r) := by
  cases gap with
  | nil => exact hr
  | cons c gap =>
    simp only [List.all_cons, Bool.and_eq_true] at h
    exact ends_cons.mpr (isScalar_of_isSpace h.1)

/-- A text that starts with neither a blank nor a closing bracket. -/
def Opens (t : List Char) : Prop := ∃ c cs, t = c :: cs ∧ isSpace c = false ∧ c ≠ ']'

theorem Opens.skipSpace {t : List Char} (h : Opens t) (r : List Char) :
    skipSpace (t ++ r) = t ++ r := by
  obtain ⟨c, cs, rfl, space, -⟩ := h
  exact skipSpace_cons space

theorem Opens.append {t : List Char} (h : Opens t) (r : List Char) : Opens (t ++ r) := by
  obtain ⟨c, cs, rfl, space, closing⟩ := h
  exact ⟨c, cs ++ r, rfl, space, closing⟩

theorem Opens.length_pos {t : List Char} (h : Opens t) : 0 < t.length := by
  obtain ⟨c, cs, rfl, -⟩ := h
  exact Nat.succ_pos _

theorem Scalar.opens {t : List Char} {j : Json} (h : Scalar t j) : Opens t := by
  obtain ⟨c, cs, rfl⟩ := List.exists_cons_of_ne_nil h.ne_nil
  have scalar := h.all c List.mem_cons_self
  refine ⟨c, cs, rfl, not_isSpace_of_isScalar scalar, ?_⟩
  rintro rfl
  revert scalar
  decide

theorem opens_spell {j : Json} (h : fits room j = true) : Opens (spell g level j) := by
  have other {c : Char} {cs : List Char} (space : isSpace c = false) (closing : c ≠ ']') :
    Opens (c :: cs) := ⟨c, cs, rfl, space, closing⟩
  cases j with
  | null => exact scalar_null.opens
  | bool b => exact (scalar_bool b).opens
  | int i => exact (scalar_int (by simpa [fits] using h)).opens
  | float x => exact (scalar_float (by simpa [fits] using h)).opens
  | str s => exact other (by decide) (by decide)
  | arr xs => cases xs <;> exact other (by decide) (by decide)
  | obj ms => cases ms <;> exact other (by decide) (by decide)

theorem ends_spellItems (xs : List Json) : Ends (spellItems g level xs ++ r) := by
  cases xs with
  | nil =>
    rw [spellItems, List.append_assoc]
    exact ends_of_blank (g.last_blank level) (ends_cons.mpr (by decide))
  | cons x xs => exact ends_cons.mpr (by decide)

theorem ends_spellMembers (ms : List (String × Json)) : Ends (spellMembers g level ms ++ r) := by
  cases ms with
  | nil =>
    rw [spellMembers, List.append_assoc]
    exact ends_of_blank (g.last_blank level) (ends_cons.mpr (by decide))
  | cons m ms => exact ends_cons.mpr (by decide)

theorem Members.set_of_notMem {ms : Members} {k : String} (v : Json) (h : k ∉ ms.map (·.1)) :
    Members.set ms k v = ms ++ [(k, v)] := by
  induction ms with
  | nil => rfl
  | cons m ms ih =>
    simp only [List.map_cons, List.mem_cons, not_or] at h
    simp [Members.set, Ne.symm h.1, ih h.2]

/-- A key is not among those before it. -/
theorem Members.notMem_of_nodup {acc ms : Members} {k : String} {v : Json}
    (h : ((acc ++ (k, v) :: ms).map (·.1)).Nodup) : k ∉ acc.map (·.1) := by
  rw [List.map_append, List.nodup_append] at h
  exact fun mem => h.2.2 k mem k List.mem_cons_self rfl

/-! ## Members written one after another -/

section Members

variable {ms : Members} {key other : String} {v : Json}

theorem Members.get?_set : (ms.set key v).get? key = some v := by
  induction ms with
  | nil => simp [set, get?]
  | cons a ms ih =>
    unfold set
    split
    · next same => simp [get?, beq_iff_eq.mp same]
    · next other =>
      have skipped : Members.get? ((a.1, a.2) :: Members.set ms key v) key =
          (Members.set ms key v).get? key := by simp [get?, other]
      exact skipped.trans ih

theorem Members.get?_set_ne (ne : key ≠ other) : (ms.set key v).get? other = ms.get? other := by
  induction ms with
  | nil => simp [set, get?, ne]
  | cons a ms ih =>
    rw [set]
    split
    · next same =>
      obtain rfl := beq_iff_eq.mp same
      simp [get?, ne]
    · simp only [get?, List.find?_cons] at ih ⊢
      split
      · rfl
      · exact ih

/-- Leaving out members of other keys changes nothing for a key. -/
theorem Members.get?_filter {p : String → Bool} (kept : p key = true) :
    get? (ms.filter fun a => p a.1) key = ms.get? key := by
  rw [get?, List.find?_filter]
  refine congrArg _ (List.find?_congr fun a _ => ?_)
  by_cases own : a.1 = key
  · simp [own, kept]
  · simp [own]

/-- The member of a key is the one that was written last. -/
theorem Members.get?_ofList {ms : List (String × Json)} :
    (ofList ms).get? key = (ms.reverse.find? (·.1 == key)).map (·.2) := by
  induction ms using List.reverseRecOn with
  | nil => rfl
  | append_singleton ms a ih =>
    have step : ofList (ms ++ [a]) = (ofList ms).set a.1 a.2 := by simp [ofList]
    rw [step, List.reverse_append, List.reverse_singleton, List.singleton_append, List.find?_cons]
    by_cases same : a.1 = key
    · subst same
      simp [get?_set]
    · rw [get?_set_ne same, ih, beq_eq_false_iff_ne.mpr same]

end Members

/-! ## One step of a reader -/

section Step

variable {cs rest after : List Char} {v : Json}

theorem readValue_array {xs : List Json} (h : 0 < room) (opens : Opens (skipSpace cs))
    (read : readItems (room - 1) fuel (skipSpace cs) [] = .ok (xs, after)) :
    readValue room (fuel + 1) ('[' :: cs) = .ok (.arr xs, after) := by
  obtain ⟨c, items, items_eq, -, closing⟩ := opens
  rw [items_eq] at read
  simp [readValue, Nat.ne_of_gt h, items_eq, closing, read]

theorem readValue_object {ms : Members} (h : 0 < room) (opens : (skipSpace cs).head? = some '"')
    (read : readMembers (room - 1) fuel (skipSpace cs) [] = .ok (ms, after)) :
    readValue room (fuel + 1) ('\x7b' :: cs) = .ok (.obj ms, after) := by
  obtain ⟨members, members_eq⟩ := List.head?_eq_some_iff.mp opens
  rw [members_eq] at read
  simp [readValue, Nat.ne_of_gt h, members_eq, read]

theorem readItems_last {acc : List Json} (item : readValue room fuel cs = .ok (v, rest))
    (closing : skipSpace rest = ']' :: after) :
    readItems room (fuel + 1) cs acc = .ok ((v :: acc).reverse, after) := by
  simp [readItems, item, closing]

theorem readItems_more {acc : List Json} (item : readValue room fuel cs = .ok (v, rest))
    (comma : skipSpace rest = ',' :: after) :
    readItems room (fuel + 1) cs acc = readItems room fuel (skipSpace after) (v :: acc) := by
  simp [readItems, item, comma]

variable {k : String}

theorem readMembers_last {acc : Members} (value : readValue room fuel cs = .ok (v, rest))
    (start : skipSpace cs = cs) (closing : skipSpace rest = '\x7d' :: after) :
    readMembers room (fuel + 1) (writeString k ++ ':' :: ' ' :: cs) acc =
      .ok (Members.set acc k v, after) := by
  have text : writeString k ++ ':' :: ' ' :: cs = '"' :: (quotedTail k ++ ':' :: ' ' :: cs) := by
    simp [writeString, quotedTail]
  rw [text, readMembers, readString_quotedTail k _ _ (by simp)]
  have blank : skipSpace (' ' :: cs) = cs := start
  simp [skipSpace_cons (c := ':') rfl, blank, value, closing]

theorem readMembers_more {acc : Members} (value : readValue room fuel cs = .ok (v, rest))
    (start : skipSpace cs = cs) (comma : skipSpace rest = ',' :: after) :
    readMembers room (fuel + 1) (writeString k ++ ':' :: ' ' :: cs) acc =
      readMembers room fuel (skipSpace after) (Members.set acc k v) := by
  have text : writeString k ++ ':' :: ' ' :: cs = '"' :: (quotedTail k ++ ':' :: ' ' :: cs) := by
    simp [writeString, quotedTail]
  rw [text, readMembers, readString_quotedTail k _ _ (by simp)]
  have blank : skipSpace (' ' :: cs) = cs := start
  simp [skipSpace_cons (c := ':') rfl, blank, value, comma]

end Step

/-! ## Reading a text back -/

/-- A value is read back from its text with as much fuel as that is long. -/
def ReadsBack (g : Gaps) (level room : Nat) (j : Json) : Prop :=
  ∀ (fuel : Nat) (r : List Char), Ends r → (spell g level j).length ≤ fuel →
    readValue room fuel (spell g level j ++ r) = .ok (j, r)

theorem Scalar.readsBack {j : Json} (h : Scalar (spell g level j) j) :
    ReadsBack g level room j := by
  intro fuel r hr long
  have pos := h.opens.length_pos
  cases fuel with
  | zero => omega
  | succ fuel => exact h.readValue hr room fuel

theorem readsBack_str (s : String) : ReadsBack g level room (.str s) := by
  intro fuel r _ long
  cases fuel with
  | zero => simp [spell, writeAtom, writeString] at long
  | succ fuel =>
    have text : spell g level (.str s) ++ r = '"' :: (quotedTail s ++ r) := rfl
    rw [text, readValue, readString_quotedTail s r _ (by simp)]

theorem readsBack_nil (h : 0 < room) : ReadsBack g level room (.arr []) := by
  intro fuel r _ long
  cases fuel with
  | zero => simp [spell] at long
  | succ fuel => simp [spell, readValue, Nat.ne_of_gt h, skipSpace_cons (c := ']') rfl]

theorem readsBack_empty (h : 0 < room) : ReadsBack g level room (.obj []) := by
  intro fuel r _ long
  cases fuel with
  | zero => simp [spell] at long
  | succ fuel => simp [spell, readValue, Nat.ne_of_gt h, skipSpace_cons (c := '\x7d') rfl]

/-- The items from one on are read back. -/
def ReadsItems (g : Gaps) (level room : Nat) (x : Json) (xs : List Json) : Prop :=
  ∀ (fuel : Nat) (r : List Char) (acc : List Json),
    (spell g (level + 1) x ++ spellItems g level xs).length ≤ fuel →
    readItems room fuel (spell g (level + 1) x ++ (spellItems g level xs ++ r)) acc =
      .ok ((x :: acc).reverse ++ xs, r)

/-- The members from one on are read back after others. -/
def ReadsMembers (g : Gaps) (level room : Nat) (k : String) (v : Json) (ms : Members) : Prop :=
  ∀ (fuel : Nat) (r : List Char) (acc : Members), ((acc ++ (k, v) :: ms).map (·.1)).Nodup →
    (writeString k ++ ':' :: ' ' :: (spell g (level + 1) v ++ spellMembers g level ms)).length ≤
      fuel →
    readMembers room fuel (writeString k ++ ':' :: ' ' :: (spell g (level + 1) v ++
      (spellMembers g level ms ++ r))) acc = .ok (acc ++ (k, v) :: ms, r)

theorem readsBack_arr {x : Json} {xs : List Json} (h : 0 < room) (hx : fits (room - 1) x = true)
    (items : ReadsItems g level (room - 1) x xs) : ReadsBack g level room (.arr (x :: xs)) := by
  intro fuel r _ long
  have opens : Opens (spell g (level + 1) x) := opens_spell hx
  have start (cs : List Char) : skipSpace (g.first level ++ (spell g (level + 1) x ++ cs)) =
      spell g (level + 1) x ++ cs := by
    rw [skipSpace_append (g.first_blank level), opens.skipSpace]
  cases fuel with
  | zero => simp [spell] at long
  | succ fuel =>
    simp only [spell, List.cons_append, List.append_assoc]
    apply readValue_array h
    · rw [start]
      exact opens.append _
    · rw [start, items fuel r [] (by simp [spell] at long ⊢; omega)]
      rfl

theorem readsBack_obj {k : String} {v : Json} {ms : Members} (h : 0 < room)
    (distinct : (((k, v) :: ms).map (·.1)).Nodup)
    (members : ReadsMembers g level (room - 1) k v ms) :
    ReadsBack g level room (.obj ((k, v) :: ms)) := by
  intro fuel r _ long
  cases fuel with
  | zero => simp [spell] at long
  | succ fuel =>
    simp only [spell, List.cons_append, List.append_assoc]
    apply readValue_object h
    · rw [skipSpace_writeString (g.first_blank level)]
      rfl
    · rw [skipSpace_writeString (g.first_blank level),
        members fuel r [] distinct (by simp [spell] at long ⊢; omega)]
      rfl

theorem skipSpace_spellItems_nil :
    skipSpace (spellItems g level [] ++ r) = ']' :: r := by
  rw [spellItems, List.append_assoc, skipSpace_append (g.last_blank level)]
  exact skipSpace_cons rfl

theorem skipSpace_spellItems_cons {y : Json} {ys : List Json} :
    skipSpace (spellItems g level (y :: ys) ++ r) =
      ',' :: (g.next level ++ (spell g (level + 1) y ++ (spellItems g level ys ++ r))) := by
  simp only [spellItems, List.cons_append, List.append_assoc]
  exact skipSpace_cons rfl

theorem readsItems_nil {x : Json} (hx : ReadsBack g (level + 1) room x)
    (opens : Opens (spell g (level + 1) x)) : ReadsItems g level room x [] := by
  intro fuel r acc long
  have pos := opens.length_pos
  rw [List.length_append] at long
  cases fuel with
  | zero => omega
  | succ fuel =>
    have closing : 0 < (spellItems g level []).length := by simp [spellItems]
    rw [readItems_last (hx fuel _ (ends_spellItems []) (by omega)) skipSpace_spellItems_nil]
    simp

theorem readsItems_cons {x y : Json} {ys : List Json} (hx : ReadsBack g (level + 1) room x)
    (opens : Opens (spell g (level + 1) x)) (next : Opens (spell g (level + 1) y))
    (items : ReadsItems g level room y ys) : ReadsItems g level room x (y :: ys) := by
  intro fuel r acc long
  have pos := opens.length_pos
  simp only [spellItems, List.length_append, List.length_cons] at long
  cases fuel with
  | zero => omega
  | succ fuel =>
    rw [readItems_more (hx fuel _ (ends_spellItems (y :: ys)) (by omega))
      skipSpace_spellItems_cons, skipSpace_append (g.next_blank level), next.skipSpace,
      items fuel r (x :: acc) (by rw [List.length_append]; omega)]
    simp

theorem skipSpace_spellMembers_nil :
    skipSpace (spellMembers g level [] ++ r) = '\x7d' :: r := by
  rw [spellMembers, List.append_assoc, skipSpace_append (g.last_blank level)]
  exact skipSpace_cons rfl

theorem skipSpace_spellMembers_cons {l : String} {w : Json} {ms : Members} :
    skipSpace (spellMembers g level ((l, w) :: ms) ++ r) =
      ',' :: (g.next level ++ (writeString l ++ ':' :: ' ' :: (spell g (level + 1) w ++
        (spellMembers g level ms ++ r)))) := by
  simp only [spellMembers, List.cons_append, List.append_assoc]
  exact skipSpace_cons rfl

theorem readsMembers_nil {k : String} {v : Json} (hv : ReadsBack g (level + 1) room v)
    (opens : Opens (spell g (level + 1) v)) : ReadsMembers g level room k v [] := by
  intro fuel r acc distinct long
  simp only [spellMembers, List.length_append, List.length_cons] at long
  cases fuel with
  | zero => omega
  | succ fuel =>
    rw [readMembers_last (hv fuel _ (ends_spellMembers []) (by omega)) (opens.skipSpace _)
      skipSpace_spellMembers_nil, Members.set_of_notMem v (Members.notMem_of_nodup distinct)]

theorem readsMembers_cons {k l : String} {v w : Json} {ms : Members}
    (hv : ReadsBack g (level + 1) room v) (opens : Opens (spell g (level + 1) v))
    (members : ReadsMembers g level room l w ms) :
    ReadsMembers g level room k v ((l, w) :: ms) := by
  intro fuel r acc distinct long
  simp only [spellMembers, List.length_append, List.length_cons] at long
  cases fuel with
  | zero => omega
  | succ fuel =>
    rw [readMembers_more (hv fuel _ (ends_spellMembers ((l, w) :: ms)) (by omega))
      (opens.skipSpace _) skipSpace_spellMembers_cons, skipSpace_writeString (g.next_blank level),
      Members.set_of_notMem v (Members.notMem_of_nodup distinct),
      members fuel r (acc ++ [(k, v)]) (by simpa using distinct)
        (by simp only [List.length_append, List.length_cons]; omega)]
    simp

mutual

/-- A value within the limits is read back. -/
theorem readsBack : ∀ (j : Json) (room level : Nat), fits room j = true →
    ReadsBack g level room j
  | .null, _, _, _ => Scalar.readsBack scalar_null
  | .bool b, _, _, _ => Scalar.readsBack (scalar_bool b)
  | .int i, _, _, h => Scalar.readsBack (scalar_int (by simpa [fits] using h))
  | .float x, _, _, h => Scalar.readsBack (scalar_float (by simpa [fits] using h))
  | .str s, _, _, _ => readsBack_str s
  | .arr [], _, _, h => readsBack_nil (by simpa [fits, fitsItems] using h)
  | .arr (x :: xs), room, level, h => by
    simp only [fits, fitsItems, Bool.and_eq_true, decide_eq_true_eq] at h
    obtain ⟨hroom, hx, hxs⟩ := h
    exact readsBack_arr hroom hx (readsItems xs x (room - 1) level hx hxs
      (readsBack x (room - 1) (level + 1) hx))
  | .obj [], _, _, h => readsBack_empty (by simpa [fits, fitsMembers] using h)
  | .obj ((k, v) :: ms), room, level, h => by
    simp only [fits, fitsMembers, Bool.and_eq_true, decide_eq_true_eq] at h
    obtain ⟨⟨hroom, distinct⟩, hv, hms⟩ := h
    exact readsBack_obj hroom distinct (readsMembers ms k v (room - 1) level hv hms
      (readsBack v (room - 1) (level + 1) hv))

theorem readsItems : ∀ (xs : List Json) (x : Json) (room level : Nat), fits room x = true →
    fitsItems room xs = true → ReadsBack g (level + 1) room x → ReadsItems g level room x xs
  | [], _, _, _, h, _, hx => readsItems_nil hx (opens_spell h)
  | y :: ys, _, room, level, h, hs, hx => by
    simp only [fitsItems, Bool.and_eq_true] at hs
    exact readsItems_cons hx (opens_spell h) (opens_spell hs.1)
      (readsItems ys y room level hs.1 hs.2 (readsBack y room (level + 1) hs.1))

theorem readsMembers : ∀ (ms : Members) (k : String) (v : Json) (room level : Nat),
    fits room v = true → fitsMembers room ms = true → ReadsBack g (level + 1) room v →
    ReadsMembers g level room k v ms
  | [], _, _, _, _, h, _, hv => readsMembers_nil hv (opens_spell h)
  | (l, w) :: ms, _, _, room, level, h, hs, hv => by
    simp only [fitsMembers, Bool.and_eq_true] at hs
    exact readsMembers_cons hv (opens_spell h)
      (readsMembers ms l w room level hs.1 hs.2 (readsBack w room (level + 1) hs.1))

end

/-- A value within the limits is read back from its text, whatever blanks that has. -/
theorem parse_spell {j : Json} (h : fits maxDepth j = true) : parse (spell g 0 j) = .ok j := by
  have opens : Opens (spell g 0 j) := opens_spell h
  have read := readsBack (g := g) j maxDepth 0 h (2 * (spell g 0 j).length + 2) [] ends_nil
    (by omega)
  have start := opens.skipSpace []
  rw [List.append_nil] at read start
  rw [parse_eq_ok, readText_eq_ok]
  · exact ⟨[], by rw [start, read], rfl⟩
  · intro mark
    have ascii := List.all_eq_true.mp (all_isAscii_spell g j 0) _ (List.mem_of_mem_head? mark)
    revert ascii
    decide

/-- A value within the limits is read back from its compact text. -/
theorem parse_write {j : Json} (h : fits maxDepth j = true) : parse (write j) = .ok j := by
  rw [write_eq_spell j 0]
  exact parse_spell h

/-- A value within the limits is read back from its indented text. -/
theorem parse_layout {j : Json} (h : fits maxDepth j = true) : parse (layout 0 j) = .ok j := by
  rw [layout_eq_spell j 0]
  exact parse_spell h

end LspGateway.Json
