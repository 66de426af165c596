import Mathlib.Data.List.TakeWhile
import LspGateway.Text.Blank

/-! # Parts of a text

A text is split at its first or its last separator in one way only. Blanks are stripped
from its two ends, and nothing else; and so are dots from its start.
-/

namespace LspGateway.Text

variable {sep : Char} {cs a b : List Char}

/-! ## Before and after a separator -/

theorem splitFirst_eq_some : splitFirst sep cs = some (a, b) ↔ cs = a ++ sep :: b ∧ sep ∉ a := by
  induction cs generalizing a with
  | nil => simp [splitFirst]
  | cons c cs ih =>
    by_cases e : c = sep
    · subst e
      cases a with
      | nil => simp [splitFirst]
      | cons x xs => simp +contextual [splitFirst]
    · cases a with
      | nil => simp [splitFirst, e]
      | cons x xs =>
        simp only [splitFirst, if_neg e, Option.map_eq_some_iff, Prod.exists, Prod.mk.injEq,
          List.cons.injEq, List.cons_append, List.mem_cons, not_or]
        constructor
        · rintro ⟨a, b, found, ⟨rfl, rfl⟩, rfl⟩
          obtain ⟨split, free⟩ := ih.mp found
          exact ⟨⟨rfl, split⟩, Ne.symm e, free⟩
        · rintro ⟨⟨rfl, split⟩, -, free⟩
          exact ⟨xs, b, ih.mpr ⟨split, free⟩, ⟨rfl, rfl⟩, rfl⟩

theorem splitLast_eq_some : splitLast sep cs = some (a, b) ↔ cs = a ++ sep :: b ∧ sep ∉ b := by
  rw [splitLast, Option.map_eq_some_iff]
  constructor
  · rintro ⟨⟨x, y⟩, found, same⟩
    obtain ⟨rfl, rfl⟩ := Prod.mk.inj same
    obtain ⟨split, free⟩ := splitFirst_eq_some.mp found
    refine ⟨?_, by rwa [List.mem_reverse]⟩
    rw [← cs.reverse_reverse, split]
    simp
  · rintro ⟨rfl, free⟩
    refine ⟨(b.reverse, a.reverse), splitFirst_eq_some.mpr ⟨by simp, by simpa using free⟩, ?_⟩
    simp

theorem splitFirst_append (h : sep ∉ a) : splitFirst sep (a ++ sep :: b) = some (a, b) :=
  splitFirst_eq_some.mpr ⟨rfl, h⟩

/-! ## Between blanks -/

theorem dropWhile_blank {front : List Char} (before : front.all isBlank = true) (cs : List Char) :
    (front ++ cs).dropWhile isBlank = cs.dropWhile isBlank := by
  induction front with
  | nil => rfl
  | cons c front ih =>
    simp only [List.all_cons, Bool.and_eq_true] at before
    simp [before.1, ih before.2]

/-- Blanks around a text without blanks are stripped. -/
theorem strip_around (front back : List Char) (full : cs ≠ []) (before : front.all isBlank = true)
    (after : back.all isBlank = true) (h : ∀ c ∈ cs, isBlank c = false) :
    strip (.ofList (front ++ (cs ++ back))) = .ofList cs := by
  have start {ds es : List Char} (hd : ds ≠ []) (h : ∀ c ∈ ds, isBlank c = false) :
      (ds ++ es).dropWhile isBlank = ds ++ es := by
    obtain ⟨c, ds, rfl⟩ := List.exists_cons_of_ne_nil hd
    simp [h c List.mem_cons_self]
  have reversed : (cs ++ back).reverse = back.reverse ++ (cs.reverse ++ []) := by simp
  rw [strip, String.toList_ofList, dropWhile_blank before, start full h, dropEndWhile, reversed,
    dropWhile_blank (by simpa using after), start (by simpa using full) (by simpa using h)]
  simp

/-- A text is what is stripped from it, around what is left. -/
theorem exists_strip (cs : List Char) : ∃ front back : List Char,
    cs = front ++ ((strip (.ofList cs)).toList ++ back) ∧
      (∀ c ∈ front, isBlank c = true) ∧ ∀ c ∈ back, isBlank c = true := by
  refine ⟨cs.takeWhile isBlank, ((cs.dropWhile isBlank).reverse.takeWhile isBlank).reverse,
    ?_, fun c => List.mem_takeWhile_imp, fun c hc => ?_⟩
  · rw [strip, String.toList_ofList, String.toList_ofList, dropEndWhile, ← List.reverse_append,
      List.takeWhile_append_dropWhile, List.reverse_reverse, List.takeWhile_append_dropWhile]
  · exact List.mem_takeWhile_imp (List.mem_reverse.mp hc)

/-- Nothing is left of a text if and only if it is blank. -/
theorem strip_eq_empty_iff {s : String} : strip s = "" ↔ allBlank s = true := by
  obtain ⟨front, back, whole, before, after⟩ := exists_strip s.toList
  rw [String.ofList_toList] at whole
  constructor
  · intro none
    rw [allBlank, whole, none]
    simpa using ⟨before, after⟩
  · intro blank
    rw [allBlank, List.all_eq_true] at blank
    rw [strip, List.dropWhile_eq_nil_iff.mpr blank]
    rfl

/-- Dots are dropped from the start of a text, and nothing else. -/
theorem stripDots_eq_iff {s t : String} : stripDots s = t ↔
    ∃ n, s.toList = List.replicate n '.' ++ t.toList ∧ t.toList.head? ≠ some '.' := by
  constructor
  · rintro rfl
    refine ⟨(s.toList.takeWhile (· == '.')).length, ?_, fun first => ?_⟩
    · have dots : s.toList.takeWhile (· == '.') =
          List.replicate (s.toList.takeWhile (· == '.')).length '.' :=
        List.eq_replicate_iff.mpr ⟨rfl, fun c hc => by simpa using List.mem_takeWhile_imp hc⟩
      rw [← dots, stripDots, String.toList_ofList, List.takeWhile_append_dropWhile]
    · rw [stripDots, String.toList_ofList] at first
      simpa [first] using List.head?_dropWhile_not (· == '.') s.toList
  · rintro ⟨n, split, first⟩
    have rest : t.toList.dropWhile (· == '.') = t.toList := by
      cases h : t.toList with
      | nil => rfl
      | cons c cs =>
        rw [h] at first
        exact List.dropWhile_cons_of_neg (by simpa using first)
    have dots : (List.replicate n '.').all (· == '.') = true := by simp
    rw [stripDots, split, List.dropWhile_append_of_pos (List.all_eq_true.mp dots), rest,
      String.ofList_toList]

end LspGateway.Text
