import Mathlib.Data.List.Basic
import LspGateway.Path

/-! # Paths in normal form

A path from the root is in normal form if each of its segments names something: none is empty, a
dot, or a step up. Such a path is its own normal form and its own tidy form, and every path seen
from the root has a normal form of this kind.
-/

namespace LspGateway.Path
open LspGateway.Text

variable {a cs cwd root : List Char} {s : Segment} {ss stack : List Segment}

/-! ## Segments -/

theorem pieces_ne_nil (sep : Char) (cs : List Char) : pieces sep cs ≠ [] := by
  cases cs with
  | nil => simp [pieces]
  | cons c cs =>
    unfold pieces
    split
    · simp
    · split <;> simp

theorem pieces_of_notMem (free : '/' ∉ a) : pieces '/' a = [a] := by
  induction a with
  | nil => rfl
  | cons c a ih =>
    simp only [List.mem_cons, not_or] at free
    rw [pieces, if_neg (Ne.symm free.1), ih free.2]

theorem pieces_append (free : '/' ∉ a) : pieces '/' (a ++ '/' :: cs) = a :: pieces '/' cs := by
  induction a with
  | nil => simp [pieces]
  | cons c a ih =>
    simp only [List.mem_cons, not_or] at free
    rw [List.cons_append, pieces, if_neg (Ne.symm free.1), ih free.2]

theorem notMem_of_mem_pieces (mem : s ∈ pieces '/' cs) : '/' ∉ s := by
  induction cs generalizing s with
  | nil => simp_all [pieces]
  | cons c cs ih =>
    unfold pieces at mem
    split at mem
    · rcases List.mem_cons.mp mem with rfl | mem
      · exact List.not_mem_nil
      · exact ih mem
    · next other =>
      split at mem
      · next none' => exact absurd none' (pieces_ne_nil _ _)
      · next p ps rest =>
        rw [rest] at ih
        rcases List.mem_cons.mp mem with rfl | mem
        · simp only [List.mem_cons, not_or]
          exact ⟨Ne.symm other, ih List.mem_cons_self⟩
        · exact ih (List.mem_cons_of_mem _ mem)

/-- What stands between two slashes, but no empty text and no dot. -/
structure IsStep (s : Segment) : Prop where
  some : s ≠ []
  moves : s ≠ here
  free : '/' ∉ s

/-- A segment that leads further down. -/
structure IsName (s : Segment) : Prop extends IsStep s where
  down : s ≠ up

theorem isStep_of_mem_segments (mem : s ∈ segments cs) : IsStep s := by
  obtain ⟨mem, tells⟩ := List.mem_filter.mp mem
  obtain ⟨some, moves⟩ : s ≠ [] ∧ s ≠ here := by simpa using tells
  exact ⟨some, moves, notMem_of_mem_pieces mem⟩

theorem segments_slash : segments ('/' :: cs) = segments cs := by
  simp [segments, pieces]

theorem segments_join (steps : ∀ s ∈ ss, IsStep s) : segments (join ss) = ss := by
  fun_induction join ss with
  | case1 => rfl
  | case2 s =>
    obtain ⟨some, moves, free⟩ := steps s List.mem_cons_self
    simp [segments, pieces_of_notMem free, some, moves]
  | case3 s ss _ ih =>
    obtain ⟨some, moves, free⟩ := steps s List.mem_cons_self
    have rest := ih fun t mem => steps t (List.mem_cons_of_mem _ mem)
    simp only [segments] at rest ⊢
    rw [pieces_append free, List.filter_cons_of_pos (by simp [some, moves]), rest]

/-- Segments with slashes between them do not begin with a slash. -/
theorem head?_join (steps : ∀ s ∈ ss, IsStep s) : (join ss).head? ≠ some '/' := by
  cases ss with
  | nil => simp [join]
  | cons s ss =>
    obtain ⟨some, -, free⟩ := steps s List.mem_cons_self
    obtain ⟨c, s, rfl⟩ := List.exists_cons_of_ne_nil some
    simp only [List.mem_cons, not_or] at free
    cases ss <;> simpa [join] using Ne.symm free.1

/-! ## The root -/

/-- The slashes that a path from the root begins with. -/
def IsRoot (root : List Char) : Prop := root = ['/'] ∨ root = ['/', '/']

theorem isRoot_anchor (cs : List Char) : IsRoot (anchor ('/' :: cs)) := by
  unfold IsRoot anchor
  split <;> simp_all

theorem IsRoot.anchor_append (h : IsRoot root) (steps : ∀ s ∈ ss, IsStep s) :
    anchor (root ++ join ss) = root := by
  have first := head?_join steps
  rcases h with rfl | rfl <;> cases e : join ss with
  | nil => rfl
  | cons c cs =>
    rw [e] at first
    simp only [List.head?_cons, ne_eq, Option.some.injEq] at first
    simp [anchor, first]

theorem IsRoot.segments_append (h : IsRoot root) : segments (root ++ cs) = segments cs := by
  rcases h with rfl | rfl <;> simp [segments_slash]

theorem IsRoot.ne_nil (h : IsRoot root) : root ≠ [] := by
  rcases h with rfl | rfl <;> simp

theorem anchor_eq_nil_iff : anchor cs = [] ↔ cs.head? ≠ some '/' := by
  unfold anchor
  split <;> simp_all
  intro first
  obtain ⟨rest, rfl⟩ := List.head?_eq_some_iff.mp first
  simp_all

theorem head?_orHere_join (steps : ∀ s ∈ ss, IsStep s) : (orHere (join ss)).head? ≠ some '/' := by
  unfold orHere
  split
  · decide
  · exact head?_join steps

/-! ## Steps up -/

theorem steps_step {rooted : Bool} (steps : ∀ s ∈ stack, IsStep s) (step' : IsStep s) :
    ∀ t ∈ step rooted stack s, IsStep t := by
  have up' : IsStep up := ⟨by decide, by decide, by decide⟩
  unfold step
  split
  · cases stack with
    | nil =>
      dsimp only
      split <;> simp [up']
    | cons t rest =>
      dsimp only
      intro u mem
      split at mem
      · rcases List.mem_cons.mp mem with rfl | mem
        · exact up'
        · exact steps u mem
      · exact steps u (List.mem_cons_of_mem _ mem)
  · intro t mem
    rcases List.mem_cons.mp mem with rfl | mem
    · exact step'
    · exact steps t mem

/-- What one segment after another keeps true of the stack is true of what they come to. -/
theorem forall_resolve {P : Segment → Prop} {rooted : Bool}
    (keeps : ∀ stack s, (∀ t ∈ stack, P t) → IsStep s → ∀ t ∈ step rooted stack s, P t)
    (steps : ∀ s ∈ ss, IsStep s) : ∀ s ∈ resolve rooted ss, P s := by
  have walk : ∀ stack, (∀ s ∈ stack, P s) → ∀ s ∈ ss.foldl (step rooted) stack, P s := by
    induction ss with
    | nil => exact fun _ before => before
    | cons s ss ih =>
      intro stack before
      apply ih fun t mem => steps t (List.mem_cons_of_mem _ mem)
      exact keeps stack s before (steps s List.mem_cons_self)
  intro s mem
  exact walk [] (by simp) s (List.mem_reverse.mp mem)

theorem steps_resolve {rooted : Bool} (steps : ∀ s ∈ ss, IsStep s) :
    ∀ s ∈ resolve rooted ss, IsStep s := forall_resolve (fun _ _ => steps_step) steps

/-- From the root a step up leads to a name or nowhere. -/
theorem names_step (names : ∀ s ∈ stack, IsName s) (step' : IsStep s) :
    ∀ t ∈ step true stack s, IsName t := by
  unfold step
  split
  · cases stack with
    | nil => simp
    | cons t rest =>
      have down := (names t List.mem_cons_self).down
      simp only [if_neg down]
      intro u mem
      exact names u (List.mem_cons_of_mem _ mem)
  · next other =>
    intro t mem
    rcases List.mem_cons.mp mem with rfl | mem
    · exact ⟨step', other⟩
    · exact names t mem

theorem names_resolve (steps : ∀ s ∈ ss, IsStep s) : ∀ s ∈ resolve true ss, IsName s :=
  forall_resolve (fun _ _ => names_step) steps

theorem resolve_names (names : ∀ s ∈ ss, IsName s) (rooted : Bool) : resolve rooted ss = ss := by
  -- a name is never a step up, so whatever lies on the stack, it is put on top
  have walk : ∀ stack, ss.foldl (step rooted) stack = ss.reverse ++ stack := by
    induction ss with
    | nil => simp
    | cons s ss ih =>
      intro stack
      have down := (names s List.mem_cons_self).down
      have goes : step rooted stack s = s :: stack := if_neg down
      rw [List.foldl_cons, goes, ih fun t mem => names t (List.mem_cons_of_mem _ mem)]
      simp
  simp [resolve, walk]

/-! ## Normal forms -/

/-- A path from the root whose segments are all names. -/
inductive IsNormal : List Char → Prop
  | intro {root : List Char} {names : List Segment} (isRoot : IsRoot root)
    (all : ∀ s ∈ names, IsName s) : IsNormal (root ++ join names)

theorem isNormal_normalizeChars (cs : List Char) : IsNormal (normalizeChars ('/' :: cs)) := by
  have root := isRoot_anchor cs
  have names := names_resolve fun s (mem : s ∈ segments ('/' :: cs)) => isStep_of_mem_segments mem
  rw [normalizeChars, orHere, decide_eq_true root.ne_nil, if_neg (by simp [root.ne_nil])]
  exact .intro root names

namespace IsNormal

theorem normalizeChars_eq (h : IsNormal cs) : normalizeChars cs = cs := by
  rcases h with ⟨root, all⟩
  have steps := fun s mem => (all s mem).toIsStep
  rw [normalizeChars, root.anchor_append steps, root.segments_append, segments_join steps,
    resolve_names all, orHere, if_neg (by simp [root.ne_nil])]

theorem tidyChars_eq (h : IsNormal cs) : tidyChars cs = cs := by
  rcases h with ⟨root, all⟩
  have steps := fun s mem => (all s mem).toIsStep
  rw [tidyChars, root.anchor_append steps, root.segments_append, segments_join steps, orHere,
    if_neg (by simp [root.ne_nil])]

theorem anchor_ne_nil (h : IsNormal cs) : anchor cs ≠ [] := by
  rcases h with ⟨root, all⟩
  rw [root.anchor_append fun s mem => (all s mem).toIsStep]
  exact root.ne_nil

/-- It begins with a slash. -/
theorem exists_eq_cons (h : IsNormal cs) : ∃ rest, cs = '/' :: rest := by
  rcases h with ⟨rfl | rfl, all⟩ <;> exact ⟨_, rfl⟩

theorem absoluteChars_eq (h : IsNormal cs) : absoluteChars cwd cs = cs := by
  obtain ⟨rest, rfl⟩ := h.exists_eq_cons
  exact h.normalizeChars_eq

end IsNormal

theorem isNormal_iff : IsNormal cs ↔ (∃ rest, cs = '/' :: rest) ∧ absoluteChars cwd cs = cs := by
  constructor
  · intro h
    exact ⟨h.exists_eq_cons, h.absoluteChars_eq⟩
  · rintro ⟨⟨rest, rfl⟩, same⟩
    have normal := isNormal_normalizeChars rest
    rwa [show normalizeChars ('/' :: rest) = '/' :: rest from same] at normal

/-- A path that is no path from the root does not become one. -/
theorem isNormal_of_head? (first : (normalizeChars cs).head? = some '/') :
    IsNormal (normalizeChars cs) := by
  by_cases rooted : cs.head? = some '/'
  · obtain ⟨rest, rfl⟩ := List.head?_eq_some_iff.mp rooted
    exact isNormal_normalizeChars rest
  · rw [normalizeChars, anchor_eq_nil_iff.mpr rooted] at first
    exact absurd first (head?_orHere_join (steps_resolve fun s => isStep_of_mem_segments))

theorem isNormal_absoluteChars_of_head? (first : (absoluteChars cwd cs).head? = some '/') :
    IsNormal (absoluteChars cwd cs) := by
  obtain ⟨ds, same⟩ : ∃ ds, absoluteChars cwd cs = normalizeChars ds := by
    unfold absoluteChars
    split <;> exact ⟨_, rfl⟩
  rw [same] at first ⊢
  exact isNormal_of_head? first

theorem head?_tidyChars (first : (tidyChars cs).head? = some '/') : cs.head? = some '/' := by
  by_contra rooted
  rw [tidyChars, anchor_eq_nil_iff.mpr rooted] at first
  exact absurd first (head?_orHere_join fun s => isStep_of_mem_segments)

/-- A path seen from an absolute directory is in normal form. -/
theorem isNormal_absoluteChars (rooted : ∃ rest, cwd = '/' :: rest) :
    IsNormal (absoluteChars cwd cs) := by
  obtain ⟨rest, rfl⟩ := rooted
  unfold absoluteChars
  split
  · exact isNormal_normalizeChars _
  · unfold under
    split <;> exact isNormal_normalizeChars _

/-! ## Lengths -/

/-- The length of segments, each with a slash. -/
def extent : List Segment → Nat
  | [] => 0
  | s :: ss => s.length + 1 + extent ss

theorem extent_cons (s : Segment) (ss : List Segment) :
    extent (s :: ss) = s.length + 1 + extent ss := rfl

theorem extent_append (ss ts : List Segment) : extent (ss ++ ts) = extent ss + extent ts := by
  induction ss with
  | nil => exact (Nat.zero_add _).symm
  | cons s ss ih =>
    rw [List.cons_append, extent_cons, extent_cons, ih]
    omega

theorem extent_reverse (ss : List Segment) : extent ss.reverse = extent ss := by
  induction ss with
  | nil => rfl
  | cons s ss ih =>
    rw [List.reverse_cons, extent_append, ih, extent_cons, extent_cons, extent]
    omega

theorem length_join (some : ss ≠ []) : (join ss).length + 1 = extent ss := by
  fun_induction join ss with
  | case1 => exact absurd rfl some
  | case2 s => rfl
  | case3 s ss rest ih =>
    have goes := ih rest
    rw [extent_cons, ← goes, List.length_append, List.length_cons]
    omega

theorem extent_pieces (cs : List Char) : extent (pieces '/' cs) = cs.length + 1 := by
  induction cs with
  | nil => rfl
  | cons c cs ih =>
    rw [pieces]
    split
    · rw [extent_cons, ih, List.length_nil, List.length_cons]
      omega
    · split
      · next none' => exact absurd none' (pieces_ne_nil _ _)
      · next p ps rest =>
        rw [rest, extent_cons] at ih
        rw [extent_cons, List.length_cons, List.length_cons]
        omega

theorem extent_filter_le (keeps : Segment → Bool) (ss : List Segment) :
    extent (ss.filter keeps) ≤ extent ss := by
  induction ss with
  | nil => exact Nat.le_refl _
  | cons s ss ih =>
    rw [List.filter_cons, extent_cons]
    split
    · rw [extent_cons]
      omega
    · omega

theorem extent_segments_le (cs : List Char) : extent (segments cs) ≤ cs.length + 1 := by
  rw [← extent_pieces]
  exact extent_filter_le _ _

theorem extent_step_le (rooted : Bool) (stack : List Segment) (s : Segment) :
    extent (step rooted stack s) ≤ extent stack + (s.length + 1) := by
  unfold step
  split
  · next climbs =>
    subst climbs
    cases stack with
    | nil =>
      dsimp only
      split <;> simp [extent, up]
    | cons t rest =>
      dsimp only
      split
      · rw [extent_cons]
        omega
      · rw [extent_cons]
        omega
  · rw [extent_cons]
    omega

theorem extent_resolve_le (rooted : Bool) (ss : List Segment) :
    extent (resolve rooted ss) ≤ extent ss := by
  have walk : ∀ stack, extent (ss.foldl (step rooted) stack) ≤ extent stack + extent ss := by
    induction ss with
    | nil => exact fun stack => Nat.le_refl _
    | cons s ss ih =>
      intro stack
      have one := extent_step_le rooted stack s
      have goes := ih (step rooted stack s)
      rw [List.foldl_cons, extent_cons]
      omega
  rw [resolve, extent_reverse]
  exact Nat.le_trans (walk []) (Nat.le_of_eq (Nat.zero_add _))

theorem anchor_slash (cs : List Char) : anchor ('/' :: cs) = ['/'] ∨
    ∃ rest, cs = '/' :: rest ∧ anchor ('/' :: cs) = ['/', '/'] := by
  unfold anchor
  split <;> simp_all

/-- The normal form of a path from the root is no longer than the path. -/
theorem length_normalizeChars_le (cs : List Char) :
    (normalizeChars ('/' :: cs)).length ≤ ('/' :: cs).length := by
  have shortens := extent_resolve_le (decide (anchor ('/' :: cs) ≠ [])) (segments ('/' :: cs))
  -- the segments count with a slash each, of which the first is the last of the root
  have bound : (anchor ('/' :: cs)).length ≤ cs.length + 1 ∧
      (anchor ('/' :: cs)).length + extent (segments ('/' :: cs)) ≤ cs.length + 2 := by
    obtain root | ⟨rest, rfl, root⟩ := anchor_slash cs
    · have le := extent_segments_le cs
      rw [root, segments_slash, List.length_singleton]
      omega
    · have le := extent_segments_le rest
      rw [root, segments_slash, segments_slash, List.length_cons]
      simp only [List.length_cons, List.length_nil]
      omega
  rw [normalizeChars, orHere, if_neg (by simp [(isRoot_anchor cs).ne_nil]), List.length_append,
    List.length_cons]
  cases names : resolve (decide (anchor ('/' :: cs) ≠ [])) (segments ('/' :: cs)) with
  | nil => exact bound.1
  | cons s ss =>
    have joined := length_join (List.cons_ne_nil s ss)
    rw [names] at shortens
    omega

theorem isAbsolute_iff {p : String} : isAbsolute p = true ↔ ∃ rest, p.toList = '/' :: rest := by
  unfold isAbsolute
  split
  · next rest same => simp [same]
  · next other => simpa using fun rest => other rest

theorem isNormal_toList {dir p : String} (rooted : isAbsolute p = true)
    (same : absolute dir p = p) : IsNormal p.toList := by
  apply isNormal_iff.mpr ⟨isAbsolute_iff.mp rooted, ?_⟩
  · exact dir.toList
  · rw [absolute] at same
    rw [← String.toList_ofList (l := absoluteChars _ _), same]

end LspGateway.Path
