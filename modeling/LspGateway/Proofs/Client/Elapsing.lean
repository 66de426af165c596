import LspGateway.Proofs.Client.Waking
import Mathlib.Data.List.Sort

/-! # Time passes for a client

A client goes through the moments at which its own activities stop waiting. Moments at which
nobody stops waiting may be added or left out.
-/

namespace LspGateway.Client

variable {c : Client} {t d m : Nat} {ms ms' : List Nat}

/-- How long an attempt still waits that was told nothing. -/
def Attempt.until? (a : Attempt) : Option Nat := if a.signal.isNone then a.phase.deadline? else none

/-- How long a call still waits that was told nothing. -/
def Call.until? (k : Call) : Option Nat := if k.signal.isNone then k.phase.deadline? else none

/-- The moments at which activities stop waiting that were told nothing. -/
def moments (c : Client) : List Nat := c.attempts.filterMap (·.until?) ++ c.calls.filterMap (·.until?)

theorem AttemptPhase.isWaiting_of_isDue {p : AttemptPhase} (h : isDue d p.deadline?) :
    p.isWaiting := by
  cases p <;> first | rfl | cases h

theorem CallPhase.isWaiting_of_isDue {p : CallPhase} (h : isDue d p.deadline?) :
    p.isWaiting := by
  cases p <;> first | rfl | cases h

theorem none_of_isDue (o : Option Nat) : (if isDue d o then none else o) = o.filter (d < ·) := by
  cases o with
  | none => rfl
  | some e => by_cases due : e ≤ d <;> simp [isDue, Option.filter, due]

theorem Attempt.until_prompt (a : Attempt) :
    (if isDue d a.phase.deadline? then a.prompt .timedOut else a).until? =
      a.until?.filter (d < ·) := by
  obtain ⟨p, told⟩ := a
  cases told with
  | some s => simp [Attempt.until?, Attempt.prompt]
  | none =>
    rw [Attempt.until?, Attempt.until?, if_pos (by rfl : (none : Option Signal).isNone = true),
      ← none_of_isDue]
    by_cases due : isDue d p.deadline?
    · simp [Attempt.prompt, AttemptPhase.isWaiting_of_isDue due, due]
    · simp [due]

theorem Call.until_prompt (k : Call) :
    (if isDue d k.phase.deadline? then k.prompt .timedOut else k).until? =
      k.until?.filter (d < ·) := by
  obtain ⟨p, told⟩ := k
  cases told with
  | some s => simp [Call.until?, Call.prompt]
  | none =>
    rw [Call.until?, Call.until?, if_pos (by rfl : (none : Option Signal).isNone = true),
      ← none_of_isDue]
    by_cases due : isDue d p.deadline?
    · simp [Call.prompt, CallPhase.isWaiting_of_isDue due, due]
    · simp [due]

/-- Whoever waits no longer than until then is told. -/
theorem moments_passTo : (c.passTo t d).moments = c.moments.filter (d < ·) := by
  unfold passTo
  obtain ⟨ts, calls⟩ := wakeCalls_frame (s := .timedOut) (c := { c with now := t }.wakeAttempts
    (fun p => isDue d p.deadline?) .timedOut) (fun p => isDue d p.deadline?)
  obtain ⟨us, attempts⟩ := wakeAttempts_frame (s := .timedOut) (c := { c with now := t })
    (fun p => isDue d p.deadline?)
  rw [calls, attempts]
  simp only [moments, List.filterMap_map, List.filter_append, List.filter_filterMap]
  congr 1
  · exact congrArg (c.attempts.filterMap ·) (funext Attempt.until_prompt)
  · exact congrArg (c.calls.filterMap ·) (funext Call.until_prompt)

theorem foldl_still {α β : Type} {f : β → α → β} {b : β} {xs : List α}
    (still : ∀ x ∈ xs, f b x = b) : xs.foldl f b = b := by
  induction xs with
  | nil => rfl
  | cons x xs ih =>
    rw [List.foldl_cons, still x List.mem_cons_self]
    exact ih fun y mem => still y (List.mem_cons_of_mem _ mem)

theorem not_isDue {o : Option Nat} (late : ∀ e, o = some e → d < e) : ¬ isDue d o := by
  cases o with
  | none => exact Bool.false_ne_true
  | some e => exact fun due => Nat.not_le_of_lt (late e rfl) (of_decide_eq_true due)

/-- Time alone passes while nobody stops waiting. -/
theorem passTo_idle (idle : ∀ m ∈ c.moments, d < m) : c.passTo t d = { c with now := t } := by
  have attempts (b : Client) (same : b.attempts = c.attempts) :
      b.wakeAttempts (fun p => isDue d p.deadline?) .timedOut = b := by
    refine foldl_still fun n mem => ?_
    have due := (List.mem_filter.mp mem).2
    unfold wakeAttempt
    split
    · next p here =>
      rw [here] at due
      have listed : ⟨p, none⟩ ∈ c.attempts := same ▸ List.mem_of_getElem? here
      exact absurd due (not_isDue fun e waits =>
        idle e (List.mem_append_left _ (List.mem_filterMap.mpr ⟨_, listed, waits⟩)))
    · rfl
  have calls (b : Client) (same : b.calls = c.calls) :
      b.wakeCalls (fun p => isDue d p.deadline?) .timedOut = b := by
    refine foldl_still fun n mem => ?_
    have due := (List.mem_filter.mp mem).2
    unfold wakeCall
    split
    · next p here =>
      rw [here] at due
      have listed : ⟨p, none⟩ ∈ c.calls := same ▸ List.mem_of_getElem? here
      exact absurd due (not_isDue fun e waits =>
        idle e (List.mem_append_right _ (List.mem_filterMap.mpr ⟨_, listed, waits⟩)))
    · rfl
  unfold passTo
  rw [attempts, calls]
  · rfl
  · rfl

/-! ## One leap -/

/-- Time passes up to a moment in one leap, with stops on the way. -/
def leapBy (c : Client) (t : Nat) (stops : List Nat) : Client :=
  (stops ++ [t]).foldl (fun c due => c.passTo t due) c

/-- The stops are in order and leave out no moment at which somebody stops waiting. -/
structure Covers (c : Client) (t : Nat) (stops : List Nat) : Prop where
  sorted : stops.Pairwise (· ≤ ·)
  early : ∀ m ∈ stops, m < t
  complete : ∀ m ∈ c.moments, m < t → m ∈ stops

theorem Covers.rest (h : Covers c t (m :: ms)) : Covers (c.passTo t m) t ms := by
  refine ⟨(List.pairwise_cons.mp h.sorted).2, fun d mem => h.early d (List.mem_cons_of_mem _ mem),
    fun d mem before => ?_⟩
  rw [moments_passTo] at mem
  obtain ⟨mem, after⟩ := List.mem_filter.mp mem
  rcases List.mem_cons.mp (h.complete d mem before) with rfl | mem
  · simp at after
  · exact mem

/-- A stop at which nobody stops waiting makes no difference. -/
theorem Covers.skip (h : Covers c t (m :: ms)) (idle : m ∉ c.moments) :
    Covers c t ms ∧ c.leapBy t (m :: ms) = c.leapBy t ms := by
  have order := (List.pairwise_cons.mp h.sorted).1
  have later : ∀ d ∈ c.moments, m < d := by
    intro d mem
    by_cases before : d < t
    · rcases List.mem_cons.mp (h.complete d mem before) with rfl | here
      · exact absurd mem idle
      · have := order d here
        have : d ≠ m := fun e => idle (e ▸ mem)
        omega
    · have := h.early m List.mem_cons_self
      omega
  constructor
  · refine ⟨(List.pairwise_cons.mp h.sorted).2, fun d mem => h.early d (List.mem_cons_of_mem _ mem),
      fun d mem before => ?_⟩
    rcases List.mem_cons.mp (h.complete d mem before) with rfl | here
    · exact absurd mem idle
    · exact here
  · unfold leapBy
    rw [List.cons_append, List.foldl_cons, passTo_idle later]
    cases ms with
    | nil => rfl
    | cons m ms => rfl

/-- It does not matter at which moments time stops besides those at which somebody stops
waiting. -/
theorem leapBy_eq (h : Covers c t ms) (h' : Covers c t ms') : c.leapBy t ms = c.leapBy t ms' := by
  induction n : ms.length + ms'.length using Nat.strong_induction_on generalizing c ms ms' with
  | _ n ih =>
    subst n
    cases ms with
    | nil =>
      cases ms' with
      | nil => rfl
      | cons m' ms' =>
        have idle : m' ∉ c.moments := fun mem =>
          absurd (h.complete m' mem (h'.early m' List.mem_cons_self)) List.not_mem_nil
        obtain ⟨rest, same⟩ := h'.skip idle
        rw [same]
        exact ih _ (by simp) h rest rfl
    | cons m ms =>
      by_cases waits : m ∈ c.moments
      · cases ms' with
        | nil => exact absurd (h'.complete m waits (h.early m List.mem_cons_self)) List.not_mem_nil
        | cons m' ms' =>
          by_cases waits' : m' ∈ c.moments
          · -- Both stop at the first moment at which somebody stops waiting.
            have le : m' ≤ m := by
              rcases List.mem_cons.mp (h'.complete m waits (h.early m List.mem_cons_self)) with e | mem
              · exact Nat.le_of_eq e.symm
              · exact (List.pairwise_cons.mp h'.sorted).1 m mem
            have ge : m ≤ m' := by
              rcases List.mem_cons.mp (h.complete m' waits' (h'.early m' List.mem_cons_self)) with e | mem
              · exact Nat.le_of_eq e.symm
              · exact (List.pairwise_cons.mp h.sorted).1 m' mem
            obtain rfl : m = m' := Nat.le_antisymm ge le
            show (c.passTo t m).leapBy t ms = (c.passTo t m).leapBy t ms'
            exact ih _ (by simp; omega) h.rest h'.rest rfl
          · obtain ⟨rest, same⟩ := h'.skip waits'
            rw [same]
            exact ih _ (by simp) h rest rfl
      · obtain ⟨rest, same⟩ := h.skip waits
        rw [same]
        exact ih _ (by simp) rest h' rfl

/-- Time passes up to a moment, by way of those at which activities of the client stop waiting. -/
def leap (c : Client) (t : Nat) : Client :=
  c.leapBy t ((c.deadlines.filter (· < t)).mergeSort (· ≤ ·))

theorem moments_subset : c.moments ⊆ c.deadlines := by
  intro m mem
  rcases List.mem_append.mp mem with mem | mem
  · obtain ⟨a, here, waits⟩ := List.mem_filterMap.mp mem
    refine List.mem_append_left _ (List.mem_filterMap.mpr ⟨a, here, ?_⟩)
    unfold Attempt.until? at waits
    split at waits
    · exact waits
    · cases waits
  · obtain ⟨k, here, waits⟩ := List.mem_filterMap.mp mem
    refine List.mem_append_right _ (List.mem_filterMap.mpr ⟨k, here, ?_⟩)
    unfold Call.until? at waits
    split at waits
    · exact waits
    · cases waits

/-- Any deadlines besides its own may be among the stops. -/
theorem covers_of_subset {ds : List Nat} (all : c.deadlines ⊆ ds) :
    Covers c t ((ds.filter (· < t)).mergeSort (· ≤ ·)) := by
  constructor
  · have sorted : ((ds.filter (· < t)).mergeSort (· ≤ ·)).Pairwise fun a b => decide (a ≤ b) :=
      List.pairwise_mergeSort (by intro a b c; simpa using Nat.le_trans)
        (by intro a b; simpa using Nat.le_total a b) _
    exact sorted.imp (by simp)
  · intro m mem
    simpa using (List.mem_filter.mp (List.mem_mergeSort.mp mem)).2
  · intro m mem before
    exact List.mem_mergeSort.mpr (List.mem_filter.mpr ⟨all (moments_subset mem), by simpa using before⟩)

end LspGateway.Client
