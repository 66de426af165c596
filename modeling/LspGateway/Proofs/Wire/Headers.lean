import LspGateway.Proofs.Text.Utf8
import LspGateway.Proofs.Wire.Frames
import LspGateway.Text.Case

/-! # Frames of any server

A header may have its lines in any order, ended in either way, with names in any letter
case, blanks around names and values, and lines that say nothing. Where the last line
about the length tells the number of bytes of the body, each body is read as its value,
and the next read starts after it.
-/

/-! ## Names in any letter case

No character beyond ASCII lowers to ASCII, but for one that lowers to a k. So a name
of ASCII characters without a k is met by its own letters in either case, and by
nothing else.
-/

namespace LspGateway.Text

variable {c : Char} {cs before target : List Char}

/-- What the runs of capitals beyond ASCII lower to: no ASCII, but for the sign of the
kelvin. -/
theorem capitals_beyond_ascii : ∀ run ∈ CaseTable.capitals,
    run = (0x41, 0x5A, 1, 32) ∨ run = (0x212A, 0x212A, 1, -8383) ∨
      128 ≤ run.1 + run.2.2.2 ∧ run.2.1 + run.2.2.2 < 0xD800 ∨
      0xE000 ≤ run.1 + run.2.2.2 ∧ run.2.1 + run.2.2.2 < 0x110000 := by
  decide +kernel

theorem toNat_ofNat_of_valid {n : Nat} (h : n < 0xD800 ∨ 0xE000 ≤ n ∧ n < 0x110000) :
    (Char.ofNat n).toNat = n := by
  have valid : n.isValidChar :=
    h.imp_right fun ⟨above, high⟩ => ⟨Nat.lt_of_lt_of_le (by omega) above, high⟩
  rw [Char.ofNat, dif_pos valid]
  rfl

theorem lowerChar_of_ascii (h : c.toNat < 128) : lowerChar c = c.toLower := by
  rw [lowerChar, if_pos h]

/-- A character beyond ASCII lowers to none of ASCII but to a k. -/
theorem lowerChar_beyond (beyond : 128 ≤ c.toNat) (ascii : (lowerChar c).toNat < 128) :
    lowerChar c = 'k' := by
  rw [lowerChar, if_neg (by omega)] at ascii ⊢
  split at ascii
  next a b step d found =>
    have mem := List.mem_of_find?_eq_some found
    have within := List.find?_some found
    simp only [Bool.and_eq_true, decide_eq_true_eq] at within
    obtain ⟨⟨first, last⟩, -⟩ := within
    obtain run | run | run := capitals_beyond_ascii _ mem
    · simp only [Prod.mk.injEq] at run
      omega
    · obtain ⟨rfl, rfl, -, rfl⟩ := by simpa only [Prod.mk.injEq] using run
      obtain same : c.toNat = 0x212A := by omega
      simp only [same]
      decide
    · rw [toNat_ofNat_of_valid (by dsimp only at run; omega)] at ascii
      dsimp only at run
      omega
  next => omega

/-! ### A whole text -/

theorem lowerAux_of_ascii (ascii : ∀ c ∈ cs, c.toNat < 128) :
    lowerAux before cs = cs.map Char.toLower := by
  induction cs generalizing before with
  | nil => rfl
  | cons c cs ih =>
    have small := ascii c List.mem_cons_self
    have plain : c ≠ 'Σ' ∧ c ≠ 'İ' := by
      constructor <;> (rintro rfl; exact absurd small (by decide))
    rw [lowerAux, if_neg plain.1, if_neg plain.2, lowerChar_of_ascii small,
      ih fun d hd => ascii d (List.mem_cons_of_mem c hd)]
    rfl

/-- What lowers to ASCII characters without a k is ASCII. -/
theorem ascii_of_lowerAux (ascii : ∀ d ∈ lowerAux before cs, d.toNat < 128 ∧ d ≠ 'k') :
    ∀ c ∈ cs, c.toNat < 128 := by
  induction cs generalizing before with
  | nil => simp
  | cons c cs ih =>
    simp only [lowerAux, List.mem_append] at ascii
    intro d hd
    rcases List.mem_cons.mp hd with rfl | hd
    · refine Nat.lt_of_not_le fun beyond => ?_
      split at ascii
      next =>
        split at ascii
        · exact absurd (ascii 'ς' (.inl (by simp))).1 (by decide)
        · exact absurd (ascii 'σ' (.inl (by simp))).1 (by decide)
      next =>
        split at ascii
        next => exact absurd (ascii (Char.ofNat 0x307) (.inl (by simp))).1 (by decide)
        next =>
          obtain ⟨small, other⟩ := ascii (lowerChar d) (.inl (by simp))
          exact other (lowerChar_beyond beyond small)
    · exact ih (fun e he => ascii e (.inr he)) d hd

theorem ascii_of_toLower (h : c.toLower.toNat < 128) : c.toNat < 128 := by
  refine Nat.lt_of_not_le fun beyond => ?_
  have small : ¬ (c.val ≥ 'A'.val ∧ c.val ≤ 'Z'.val) := fun ⟨_, z⟩ =>
    absurd (show c.toNat ≤ 90 from z) (by omega)
  have same : c.toLower = c := dif_neg small
  rw [same] at h
  omega

/-- A text in lower case is a name without a k if its letters are, in either case. -/
theorem lower_eq_iff (plain : ∀ d ∈ target, d.toNat < 128 ∧ d ≠ 'k') :
    lower (.ofList cs) = .ofList target ↔ cs.map Char.toLower = target := by
  rw [lower, String.toList_ofList, String.ofList_inj]
  constructor
  · intro same
    have ascii : ∀ c ∈ cs, c.toNat < 128 := ascii_of_lowerAux (same ▸ plain)
    exact (lowerAux_of_ascii ascii).symm.trans same
  · rintro rfl
    refine lowerAux_of_ascii fun c hc => ascii_of_toLower ?_
    exact (plain _ (List.mem_map_of_mem hc)).1

end LspGateway.Text

namespace LspGateway.Wire
open LspGateway.Text LspGateway.Json

/-! ## Lines -/

/-- A line of a header. -/
structure HeaderLine where
  text : List Char
  /-- Ended by a carriage return and a newline, and not by a newline alone. -/
  returns : Bool

namespace HeaderLine

/-- The characters before the newline. -/
def chars (l : HeaderLine) : List Char := l.text ++ if l.returns then ['\r'] else []

def bytes (l : HeaderLine) : List UInt8 := Utf8.encode (.ofList l.chars) ++ [10]

/-- One line within the limit. -/
structure Fits (l : HeaderLine) : Prop where
  single : '\n' ∉ l.text
  short : (Utf8.encode (.ofList l.chars)).length ≤ maxLine

/-- Nothing but blanks. -/
def Blank (l : HeaderLine) : Prop := ∀ c ∈ l.text, isBlank c = true

instance (l : HeaderLine) : Decidable l.Fits :=
  decidable_of_iff ('\n' ∉ l.text ∧ (Utf8.encode (.ofList l.chars)).length ≤ maxLine)
    ⟨fun ⟨a, b⟩ => ⟨a, b⟩, fun ⟨a, b⟩ => ⟨a, b⟩⟩

instance (l : HeaderLine) : Decidable l.Blank :=
  decidable_of_iff (l.text.all isBlank = true) List.all_eq_true

end HeaderLine

/-- The name of the header that tells the length, in any letter case and with blanks
around it. -/
def NamesLength (name : List Char) : Prop :=
  ∃ front core back : List Char, name = front ++ (core ++ back) ∧
    (∀ c ∈ front, isBlank c = true) ∧ (∀ c ∈ back, isBlank c = true) ∧
    core.map Char.toLower = lengthName.toList

/-- A line about the length. -/
def HeaderLine.AboutLength (l : HeaderLine) : Prop :=
  ∃ name value, l.text = name ++ ':' :: value ∧ NamesLength name

/-- A line that tells a length in decimal digits, no more than an integer is read with, and
with blanks around them. -/
def HeaderLine.Tells (l : HeaderLine) (n : Nat) : Prop :=
  ∃ (name front back : List Char) (ds : List Nat),
    l.text = name ++ ':' :: (front ++ (ds.map digitChar ++ back)) ∧ NamesLength name ∧
      (∀ c ∈ front, isBlank c = true) ∧ (∀ c ∈ back, isBlank c = true) ∧
      ds ≠ [] ∧ (∀ d ∈ ds, d < 10) ∧ ds.length ≤ maxDigits ∧ ofDigits ds = n

/-- A header, of whose lines about the length the given one is the last, the blank line
that ends it, and a body. -/
structure Frame where
  before : List HeaderLine
  length : HeaderLine
  after : List HeaderLine
  blank : HeaderLine
  body : List Char

def Frame.lines (f : Frame) : List HeaderLine := f.before ++ f.length :: f.after

def Frame.bytes (f : Frame) : List UInt8 :=
  f.lines.flatMap HeaderLine.bytes ++ (f.blank.bytes ++ Utf8.encode (.ofList f.body))

/-- A frame whose body is the text of a value. -/
structure Frame.Carries (f : Frame) (v : Json) : Prop where
  lines : ∀ l ∈ f.lines, l.Fits ∧ ¬ l.Blank
  tells : f.length.Tells (Utf8.encode (.ofList f.body)).length
  last : ∀ l ∈ f.after, ¬ l.AboutLength
  blank : f.blank.Fits ∧ f.blank.Blank
  body : parse f.body = .ok v
  something : v ≠ .null

variable {l : HeaderLine} {ls : List HeaderLine} {f : Frame} {v : Json} {name core : List Char}
  {n : Nat} {line rest : List UInt8} {ended : Bool} {length : Option String}

/-! ## Names -/

theorem isBlank_toLower {c : Char} (h : isBlank c = true) : c.toLower = c := by
  have small : ¬ (c.val ≥ 'A'.val ∧ c.val ≤ 'Z'.val) := by
    rintro ⟨a, z⟩
    have low : 65 ≤ c.toNat := a
    have high : c.toNat ≤ 90 := z
    simp [isBlank] at h
    omega
  exact dif_neg small

/-- The letters of the name are no blanks. -/
theorem not_isBlank_of_toLower (h : core.map Char.toLower = lengthName.toList) :
    ∀ c ∈ core, isBlank c = false := by
  intro c hc
  by_contra blank
  rw [Bool.not_eq_false] at blank
  have mem : c.toLower ∈ lengthName.toList := h ▸ List.mem_map_of_mem hc
  rw [isBlank_toLower blank] at mem
  have none : lengthName.toList.all (!isBlank ·) = true := by decide
  have other := List.all_eq_true.mp none c mem
  simp [blank] at other

theorem lower_strip_eq_iff : lower (strip (.ofList name)) = lengthName ↔ NamesLength name := by
  have plain : ∀ d ∈ lengthName.toList, d.toNat < 128 ∧ d ≠ 'k' := by
    have all : lengthName.toList.all (fun d => d.toNat < 128 ∧ d ≠ 'k') = true := by decide
    simpa using all
  have met (cs : List Char) :
      lower (.ofList cs) = lengthName ↔ cs.map Char.toLower = lengthName.toList := by
    rw [← lower_eq_iff plain, String.ofList_toList]
  constructor
  · intro same
    obtain ⟨front, back, split, before, after⟩ := exists_strip name
    rw [← String.ofList_toList (s := strip (.ofList name)), met] at same
    exact ⟨front, _, back, split, before, after, same⟩
  · rintro ⟨front, core, back, rfl, before, after, same⟩
    have full : core ≠ [] := by
      rintro rfl
      exact absurd same (by decide)
    rw [strip_around front back full (List.all_eq_true.mpr before) (List.all_eq_true.mpr after)
      (not_isBlank_of_toLower same), met, same]

theorem NamesLength.notMem_colon (h : NamesLength name) : ':' ∉ name := by
  obtain ⟨front, core, back, rfl, before, after, same⟩ := h
  have blank : isBlank ':' = false := by decide
  have other : ':' ∉ core := fun mem => by
    have letter : (':').toLower ∈ lengthName.toList := same ▸ List.mem_map_of_mem mem
    exact absurd letter (by decide)
  simp only [List.mem_append, not_or]
  exact ⟨fun mem => by simp [before _ mem] at blank, other,
    fun mem => by simp [after _ mem] at blank⟩

/-! ## What a line tells -/

/-- What ends a line. -/
def HeaderLine.ending (l : HeaderLine) : List Char := (if l.returns then ['\r'] else []) ++ ['\n']

theorem HeaderLine.chars_newline (l : HeaderLine) : l.chars ++ ['\n'] = l.text ++ l.ending :=
  List.append_assoc ..

theorem HeaderLine.isBlank_ending (l : HeaderLine) : ∀ c ∈ l.ending, isBlank c = true := by
  rw [← List.all_eq_true, ending]
  cases l.returns <;> decide

theorem lengthIn?_of_tells (h : l.Tells n) :
    ∃ text, lengthIn? (l.chars ++ ['\n']) = some text ∧ lengthOf (some text) = .ok n := by
  obtain ⟨name, front, back, ds, text, named, before, after, full, small, few, value⟩ := h
  refine ⟨.ofList (ds.map digitChar), ?_, by rw [lengthOf, readInt_map full small few, value]⟩
  have after' : ∀ c ∈ back ++ l.ending, isBlank c = true := fun c hc =>
    (List.mem_append.mp hc).elim (after c) (l.isBlank_ending c)
  rw [l.chars_newline, text, List.append_assoc, List.cons_append, lengthIn?,
    splitFirst_append named.notMem_colon]
  simp only [lower_strip_eq_iff.mpr named, if_true, List.append_assoc]
  rw [strip_around front (back ++ l.ending) (by simpa using full) (List.all_eq_true.mpr before)
    (List.all_eq_true.mpr after')]
  intro c hc
  obtain ⟨d, hd, rfl⟩ := List.mem_map.mp hc
  exact isBlank_digit d (small d hd)

theorem aboutLength_iff : l.AboutLength ↔ (lengthIn? l.text).isSome = true := by
  constructor
  · rintro ⟨name, value, text, named⟩
    rw [text, lengthIn?, splitFirst_append named.notMem_colon]
    simp only [lower_strip_eq_iff.mpr named, if_true, Option.isSome_some]
  · intro told
    rw [lengthIn?] at told
    split at told
    next name value split =>
      split at told
      next named =>
        exact ⟨name, value, (splitFirst_eq_some.mp split).1, lower_strip_eq_iff.mp named⟩
      next => simp at told
    next => simp at told

instance (l : HeaderLine) : Decidable l.AboutLength := decidable_of_iff _ aboutLength_iff.symm

/-- What ends a line is not about the length. -/
theorem lengthIn?_of_other (h : ¬ l.AboutLength) : lengthIn? (l.chars ++ ['\n']) = none := by
  rw [l.chars_newline, lengthIn?]
  split
  next name value split =>
    rw [if_neg]
    intro named
    have colon : ':' ∉ l.ending := fun mem => by
      have blank := l.isBlank_ending _ mem
      exact absurd blank (by decide)
    rcases List.append_eq_append_iff.mp (splitFirst_eq_some.mp split).1 with
      ⟨more, -, within⟩ | ⟨more, text, within⟩
    · exact colon (by simp [within])
    · cases more with
      | nil =>
        rw [List.nil_append] at within
        exact colon (within ▸ List.mem_cons_self)
      | cons c more =>
        obtain ⟨rfl, -⟩ := List.cons.inj within
        exact h ⟨name, more, text, lower_strip_eq_iff.mp named⟩
  next => rfl

/-! ## Reading lines -/

theorem breakLine_append (h : 10 ∉ line) : breakLine (line ++ 10 :: rest) = some (line, rest) := by
  induction line with
  | nil => rfl
  | cons b line ih =>
    simp only [List.mem_cons, not_or] at h
    simp [breakLine, Ne.symm h.1, ih h.2]

theorem HeaderLine.Fits.single_chars (h : l.Fits) : '\n' ∉ l.chars := by
  rw [chars, List.mem_append, not_or]
  refine ⟨h.single, ?_⟩
  cases l.returns <;> decide

theorem HeaderLine.Fits.readLine (h : l.Fits) :
    readLine ⟨l.bytes ++ rest, ended⟩ = .line (Utf8.encode (.ofList (l.chars ++ ['\n']))) rest := by
  have newline : Utf8.encode (.ofList ['\n']) = [10] := by decide
  rw [Wire.readLine, bytes, List.append_assoc, List.singleton_append,
    breakLine_append (Utf8.notMem_encode h.single_chars)]
  simp only [Nat.not_lt.mpr h.short, if_false, Utf8.encode_append, newline]

/-- A line is read, and tells what it tells. -/
theorem HeaderLine.Fits.next (h : l.Fits) :
    next ⟨l.bytes ++ rest, ended⟩ (.header length) =
      if l.text.all isBlank then takeAfterHeader ⟨rest, ended⟩ length
      else Wire.next ⟨rest, ended⟩ (.header ((lengthIn? (l.chars ++ ['\n'])).or length)) := by
  have ending : l.ending.all isBlank = true := List.all_eq_true.mpr l.isBlank_ending
  rw [next_header, h.readLine]
  simp only [Utf8.decode_encode]
  rw [l.chars_newline, List.all_append, ending, Bool.and_true]

theorem HeaderLine.Fits.next_full (h : l.Fits) (full : ¬ l.Blank) :
    Wire.next ⟨l.bytes ++ rest, ended⟩ (.header length) =
      Wire.next ⟨rest, ended⟩ (.header ((lengthIn? (l.chars ++ ['\n'])).or length)) := by
  rw [h.next, if_neg fun all => full (List.all_eq_true.mp all)]

theorem HeaderLine.Fits.next_blank (h : l.Fits) (blank : l.Blank) :
    Wire.next ⟨l.bytes ++ rest, ended⟩ (.header length) = takeAfterHeader ⟨rest, ended⟩ length := by
  rw [h.next, if_pos (List.all_eq_true.mpr blank)]

/-- Whatever lines come first, reading goes on after them. -/
theorem next_before (length : Option String) (h : ∀ l ∈ ls, l.Fits ∧ ¬ l.Blank) : ∃ told,
    next ⟨ls.flatMap HeaderLine.bytes ++ rest, ended⟩ (.header length) =
      next ⟨rest, ended⟩ (.header told) := by
  induction ls generalizing length with
  | nil => exact ⟨length, rfl⟩
  | cons l ls ih =>
    obtain ⟨fits, full⟩ := h l List.mem_cons_self
    rw [List.flatMap_cons, List.append_assoc, fits.next_full full]
    exact ih _ fun l' hl => h l' (List.mem_cons_of_mem _ hl)

/-- Lines that are not about the length leave it as it was told. -/
theorem next_after (h : ∀ l ∈ ls, l.Fits ∧ ¬ l.Blank) (other : ∀ l ∈ ls, ¬ l.AboutLength) :
    next ⟨ls.flatMap HeaderLine.bytes ++ rest, ended⟩ (.header length) =
      next ⟨rest, ended⟩ (.header length) := by
  induction ls with
  | nil => rfl
  | cons l ls ih =>
    obtain ⟨fits, full⟩ := h l List.mem_cons_self
    rw [List.flatMap_cons, List.append_assoc, fits.next_full full,
      lengthIn?_of_other (other l List.mem_cons_self), Option.none_or]
    exact ih (fun l' hl => h l' (List.mem_cons_of_mem _ hl))
      fun l' hl => other l' (List.mem_cons_of_mem _ hl)

/-! ## Reading frames -/

/-- A header is read up to its blank line, and tells the last length. -/
theorem Frame.Carries.next_header (h : f.Carries v) (rest : List UInt8) (ended : Bool) : ∃ text,
    lengthOf (some text) = .ok ((Utf8.encode (.ofList f.body)).length : Int) ∧
      next ⟨f.bytes ++ rest, ended⟩ .start =
        takeAfterHeader ⟨Utf8.encode (.ofList f.body) ++ rest, ended⟩ (some text) := by
  obtain ⟨text, told, value⟩ := lengthIn?_of_tells h.tells
  have before : ∀ l ∈ f.before, l.Fits ∧ ¬ l.Blank := fun l hl =>
    h.lines l (List.mem_append_left _ hl)
  have after : ∀ l ∈ f.after, l.Fits ∧ ¬ l.Blank := fun l hl =>
    h.lines l (List.mem_append_right _ (List.mem_cons_of_mem _ hl))
  obtain ⟨fits, full⟩ := h.lines f.length (List.mem_append_right _ List.mem_cons_self)
  refine ⟨text, value, ?_⟩
  simp only [Frame.bytes, Frame.lines, List.flatMap_append, List.flatMap_cons, List.append_assoc,
    Reading.start]
  obtain ⟨first, read⟩ := next_before none before
  rw [read, fits.next_full full, told, Option.some_or, next_after after h.last,
    h.blank.1.next_blank h.blank.2]

/-- A frame is read as the value of its body, and what follows the frame is left. -/
theorem Frame.Carries.next (h : f.Carries v) :
    Wire.next ⟨f.bytes ++ rest, ended⟩ .start = .message v rest := by
  obtain ⟨text, told, read⟩ := h.next_header rest ended
  have full : f.body ≠ [] := by
    intro none
    obtain ⟨e, failed⟩ : ∃ e, parse [] = .error e := ⟨_, rfl⟩
    simpa [none, failed] using h.body
  have size := List.length_pos_iff.mpr (Utf8.encode_ne_nil full)
  have whole : readBody (Utf8.encode (.ofList f.body)) = .ok v := by
    rw [readBody, Utf8.decode_encode]
    simp only [h.body]
  rw [read, takeAfterHeader, told]
  simp only [Int.toNat_natCast]
  rw [if_neg (by omega), if_neg (by omega), takeBody, if_pos (by simp), List.take_left, whole,
    List.drop_left]
  have something := h.something
  cases v <;> first | rfl | exact absurd rfl something

/-- The messages of several reads, one after another, and what is left after them; none
if one of the reads has no message. -/
def readAll : Nat → Feed → Option (List Json × Feed)
  | 0, feed => some ([], feed)
  | n + 1, feed =>
    match next feed .start with
    | .message m rest => (readAll n ⟨rest, feed.ended⟩).map fun (ms, left) => (m :: ms, left)
    | _ => none

/-- Frames are read one after another as the values of their bodies, in their order. The
next read starts at the first byte after the last frame. -/
theorem frames_read (fs : List (Frame × Json)) (h : ∀ f ∈ fs, f.1.Carries f.2)
    (rest : List UInt8) (ended : Bool) :
    readAll fs.length ⟨fs.flatMap (·.1.bytes) ++ rest, ended⟩ =
      some (fs.map (·.2), ⟨rest, ended⟩) := by
  induction fs with
  | nil => rfl
  | cons f fs ih =>
    rw [List.flatMap_cons, List.append_assoc, List.length_cons, readAll,
      (h f List.mem_cons_self).next]
    simp only [ih fun f' hf => h f' (List.mem_cons_of_mem _ hf)]
    rfl

/-- Two frames with both endings, a name in mixed case after another length, a line without
a colon, one about something else that names the length, and a body beyond ASCII. -/
theorem two_frames_read :
    let f : Frame := ⟨[⟨"Content-Length: 99".toList, false⟩, ⟨"no colon".toList, true⟩],
      ⟨" cOnTeNt-lEnGtH :\t008 ".toList, true⟩, [⟨"é: content-length: 1".toList, false⟩],
      ⟨[' '], true⟩, "\x7b\"é\":1\x7d".toList⟩
    let g : Frame := ⟨[], ⟨"content-length:4".toList, false⟩, [], ⟨[], false⟩, "true".toList⟩
    readAll 2 ⟨f.bytes ++ (g.bytes ++ [67]), false⟩ =
      some ([.obj [("é", .int 1)], .bool true], ⟨[67], false⟩) := by
  intro f g
  have first : f.Carries (.obj [("é", .int 1)]) :=
    { lines := by decide +kernel
      tells := ⟨" cOnTeNt-lEnGtH ".toList, ['\t'], [' '], [0, 0, 8], by decide,
        ⟨[' '], "cOnTeNt-lEnGtH".toList, [' '], by decide, by simp; decide, by simp; decide,
          by decide⟩, by simp; decide, by simp; decide, by decide⟩
      last := by decide +kernel
      blank := by decide +kernel
      body := by rfl
      something := by nofun }
  have second : g.Carries (.bool true) :=
    { lines := by decide +kernel
      tells := ⟨"content-length".toList, [], [], [4], by decide,
        ⟨[], "content-length".toList, [], by decide, nofun, nofun, by decide⟩, nofun, nofun,
        by decide⟩
      last := by decide
      blank := by decide +kernel
      body := by rfl
      something := by nofun }
  have both : ∀ p ∈ [(f, .obj [("é", .int 1)]), (g, .bool true)], p.1.Carries p.2 := by
    simp [first, second]
  have read := frames_read _ both [67] false
  simp only [List.flatMap_cons, List.flatMap_nil, List.append_nil, List.append_assoc] at read
  exact read

end LspGateway.Wire
