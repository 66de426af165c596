import LspGateway.Proofs.Client.Queue

/-! # Requests and who waits for them

A request stays pending as long as somebody waits for its answer, unless it is lost:
then whoever waits for it is not told of its end.
-/

namespace LspGateway.Client

variable {hit : Nat → Prop} {c c₁ : Client} {d d₁ : Option Doer} {ls : List Loss} {x : Doer}
  {l k n id : Nat} {t u : Task} {s : Signal} {lost : List Loss} {o : Outcome} {found : Held}

/-- The request for which an activity waits, or which it has still to withdraw. -/
def claim (c : Client) (d : Option Doer) (t : Task) : Option (Nat × Nat) :=
  match d with
  | some x => if x.task = t then x.role.expects.or x.leaves else (c.role t).expects
  | none => (c.role t).expects

/-- Pending requests and the activities that wait for them, but for the lost ones. -/
structure Requests (c : Client) (d : Option Doer) (lost : List Loss) : Prop where
  pending : ∀ l id t, (id, t) ∈ (c.link l).pending → claim c d t = some (l, id)
  once : ∀ l, ((c.link l).pending.map Prod.fst).Nodup
  known : ∀ t l id, claim c d t = some (l, id) → 0 < id ∧ id ≤ (c.link l).lastId
  own : ∀ t u e, claim c d t = some e → claim c d u = some e → t = u
  waits : ∀ t l id, (roleBy c d t).expects = some (l, id) → c.told t = none →
    (id, t) ∈ (c.link l).pending ∨ ⟨l, id, t⟩ ∈ lost
  answered : ∀ t l id o, (roleBy c d t).expects = some (l, id) →
    c.told t = some (.answered o) → (id, t) ∉ (c.link l).pending ∧ o.isProper ∧ o ≠ .cancelled

namespace Requests

theorem congr (h : Requests c d lost) (claim : ∀ t, Client.claim c₁ d₁ t = Client.claim c d t)
    (expects : ∀ t, (roleBy c₁ d₁ t).expects = (roleBy c d t).expects)
    (told : ∀ t, (roleBy c d t).expects.isSome → c₁.told t = c.told t)
    (pending : ∀ l, (c₁.link l).pending = (c.link l).pending)
    (lastId : ∀ l, (c₁.link l).lastId = (c.link l).lastId) : Requests c₁ d₁ lost := by
  refine ⟨?_, ?_, ?_, ?_, ?_, ?_⟩
  · simpa only [pending, claim] using h.pending
  · simpa only [pending] using h.once
  · simpa only [claim, lastId] using h.known
  · simpa only [claim] using h.own
  · intro t l id e untold
    rw [expects] at e
    rw [told t (by rw [e]; rfl)] at untold
    rw [pending]
    exact h.waits t l id e untold
  · intro t l id o e answer
    rw [expects] at e
    rw [told t (by rw [e]; rfl)] at answer
    rw [pending]
    exact h.answered t l id o e answer

end Requests

theorem roleBy_some : roleBy c (some x) t = if x.task = t then x.role else c.role t := rfl

theorem claim_some :
    claim c (some x) t = if x.task = t then x.role.expects.or x.leaves else (c.role t).expects := rfl

theorem expects_turnTo {s : Strand} :
    (roleBy c (some (x.turnTo s)) t).expects = (roleBy c (some x) t).expects := by
  show Role.expects (if x.task = t then _ else _) = Role.expects (if x.task = t then _ else _)
  split <;> rfl

theorem isWaiting_of_attempt {p : AttemptPhase} (h : p.role.expects.isSome) : p.isWaiting := by
  cases p <;> first | rfl | cases h

theorem isWaiting_of_call {p : CallPhase} (h : p.role.expects.isSome) : p.isWaiting := by
  cases p <;> first | rfl | cases h

/-- Who waits for an answer and was told nothing heeds what it is told. -/
theorem heeds_of_expects (h : (c.role t).expects.isSome) (untold : c.isTold t = false) :
    c.heeds t := by
  cases t with
  | attempt n =>
    cases ha : c.attempts[n]? with
    | none => simp [isTold, ha] at untold
    | some a =>
      have := isWaiting_of_attempt (p := a.phase) (by
        simpa [role, standing, ha, Attempt.standing] using h)
      simp_all [isTold, heeds]
  | call n =>
    cases hq : c.calls[n]? with
    | none => simp [isTold, hq] at untold
    | some q =>
      have := isWaiting_of_call (p := q.phase) (by
        simpa [role, standing, hq, Call.standing] using h)
      simp_all [isTold, heeds]
  | _ => cases untold

/-- Who was told nothing is not told. -/
theorem isTold_eq (h : (c.role t).expects.isSome) : c.isTold t = (c.told t).isSome := by
  cases t with
  | attempt n =>
    cases ha : c.attempts[n]? with
    | none => simp [role, standing, ha, Standing.absent, Role.idle] at h
    | some a => simp [isTold, ha, told, standing, Attempt.standing]
  | call n =>
    cases hq : c.calls[n]? with
    | none => simp [role, standing, hq, Standing.absent, Role.idle] at h
    | some q => simp [isTold, hq, told, standing, Call.standing]
  | _ => cases h

/-- Two entries of a list without repeated keys that have the same key are the same. -/
theorem eq_of_nodup {α : Type} {ps : List (Nat × α)} {a b : α} (once : (ps.map Prod.fst).Nodup)
    (ha : (id, a) ∈ ps) (hb : (id, b) ∈ ps) : a = b := by
  have := List.inj_on_of_nodup_map once ha hb rfl
  exact congrArg Prod.snd this

theorem roleBy_ne (h : turnOf d ≠ some t) : roleBy c d t = c.role t := by
  cases d with
  | none => rfl
  | some x => exact if_neg fun e => h (congrArg some e)

theorem claim_ne (h : turnOf d ≠ some t) : claim c d t = (c.role t).expects := by
  cases d with
  | none => rfl
  | some x => exact if_neg fun e => h (congrArg some e)

theorem roleBy_congr (h : ∀ t, c₁.role t = c.role t) : roleBy c₁ d t = roleBy c d t := by
  cases d <;> simp [roleBy, h]

theorem claim_congr (h : ∀ t, c₁.role t = c.role t) : claim c₁ d t = claim c d t := by
  cases d <;> simp [claim, h]

/-- Nobody waits for an answer in its turn. -/
theorem IsIdle.turnOf_ne (idle : IsIdle d) (h : (roleBy c d t).expects.isSome) :
    turnOf d ≠ some t := by
  cases d with
  | none => nofun
  | some x =>
    intro e
    have e : x.task = t := Option.some.inj e
    rw [roleBy, if_pos e, (idle x rfl).1] at h
    cases h

namespace Requests

/-- A request is taken off the list. Whoever waited for it was told something, is told
something now, or waits for it as a lost one. -/
theorem remove (h : Requests c d lost) {lost₁ : List Loss} (idle : IsIdle d)
    (here : (id, t) ∈ (c.link l).pending)
    (role : ∀ u, c₁.role u = c.role u)
    (told : ∀ u, u ≠ t → c₁.told u = c.told u)
    (settled : (c.role t).expects = some (l, id) → c₁.told t = none → ⟨l, id, t⟩ ∈ lost₁)
    (proper : ∀ o, c₁.told t = some (.answered o) → c.told t = some (.answered o) ∨
      o.isProper ∧ o ≠ .cancelled)
    (pending : ∀ k, (c₁.link k).pending =
      if k = l then (c.link k).pending.filter (·.1 != id) else (c.link k).pending)
    (lastId : ∀ k, (c₁.link k).lastId = (c.link k).lastId) (grows : ∀ e ∈ lost, e ∈ lost₁) :
    Requests c₁ d lost₁ := by
  have sub {k : Nat} {q : Nat × Task} (hq : q ∈ (c₁.link k).pending) :
      q ∈ (c.link k).pending := by
    rw [pending] at hq
    split at hq
    · exact (List.mem_filter.mp hq).1
    · exact hq
  have gone : (id, t) ∉ (c₁.link l).pending := by simp [pending]
  -- Whoever waits as the one whose request it is, waits for this one.
  have mine {k i : Nat} (e : (roleBy c d t).expects = some (k, i)) :
      k = l ∧ i = id ∧ (c.role t).expects = some (l, id) := by
    have apart : turnOf d ≠ some t := idle.turnOf_ne (by rw [e]; rfl)
    have claimed := h.pending l id t here
    rw [claim_ne apart] at claimed
    rw [roleBy_ne apart, claimed] at e
    obtain ⟨rfl, rfl⟩ : l = k ∧ id = i := by simpa using e
    exact ⟨rfl, rfl, claimed⟩
  refine ⟨?_, ?_, ?_, ?_, ?_, ?_⟩
  · intro k i u hq
    rw [claim_congr role]
    exact h.pending k i u (sub hq)
  · intro k
    rw [pending]
    split
    · exact (h.once k).sublist (List.filter_sublist.map Prod.fst)
    · exact h.once k
  · intro u k i e
    rw [claim_congr role] at e
    rw [lastId]
    exact h.known u k i e
  · intro u v e hu hv
    rw [claim_congr role] at hu hv
    exact h.own u v e hu hv
  · intro u k i e untold
    rw [roleBy_congr role] at e
    by_cases same : u = t
    · subst same
      obtain ⟨rfl, rfl, waits⟩ := mine e
      exact .inr (settled waits untold)
    · rw [told u same] at untold
      obtain hq | hq := h.waits u k i e untold
      · refine .inl ?_
        rw [pending]
        split
        · next hk =>
          subst hk
          refine List.mem_filter.mpr ⟨hq, ?_⟩
          refine bne_iff_ne.mpr fun hi => same ?_
          change i = id at hi
          subst hi
          exact eq_of_nodup (h.once k) hq here
        · exact hq
      · exact .inr (grows _ hq)
  · intro u k i o e answer
    rw [roleBy_congr role] at e
    by_cases same : u = t
    · subst same
      obtain ⟨rfl, rfl, -⟩ := mine e
      obtain before | now := proper o answer
      · exact ⟨gone, (h.answered u k i o e before).2⟩
      · exact ⟨gone, now⟩
    · rw [told u same] at answer
      obtain ⟨out, good⟩ := h.answered u k i o e answer
      exact ⟨fun hq => out (sub hq), good⟩

/-- An activity is told something that is no answer, or waits for no answer. -/
theorem tell (h : Requests c d lost) (apart : turnOf d ≠ some t)
    (standing : ∀ u, c₁.standing u =
      if u = t then { c.standing u with told := some s } else c.standing u)
    (other : (c.role t).expects.isSome → ∀ o, s ≠ .answered o)
    (pending : ∀ l, (c₁.link l).pending = (c.link l).pending)
    (lastId : ∀ l, (c₁.link l).lastId = (c.link l).lastId) : Requests c₁ d lost := by
  have role u : c₁.role u = c.role u := by
    rw [Client.role, standing]
    split <;> rfl
  refine ⟨?_, ?_, ?_, ?_, ?_, ?_⟩
  · simpa only [pending, claim_congr role] using h.pending
  · simpa only [pending] using h.once
  · simpa only [claim_congr role, lastId] using h.known
  · simpa only [claim_congr role] using h.own
  · intro u l id e untold
    rw [roleBy_congr role] at e
    rw [told, standing] at untold
    split at untold
    · cases untold
    · rw [pending]
      exact h.waits u l id e untold
  · intro u l id o e answer
    rw [roleBy_congr role] at e
    rw [told, standing] at answer
    split at answer
    · next same =>
      subst same
      rw [roleBy_ne apart] at e
      exact absurd (Option.some.inj answer) (other (by rw [e]; rfl) o)
    · rw [pending]
      exact h.answered u l id o e answer

/-- An activity that is not in its turn comes to stand elsewhere, and waits for no answer. -/
theorem elsewhere (h : Requests c d lost) (apart : turnOf d ≠ some t)
    (standing : ∀ u, u ≠ t → c₁.standing u = c.standing u)
    (before : (c.role t).expects = none) (after : (c₁.role t).expects = none)
    (pending : ∀ l, (c₁.link l).pending = (c.link l).pending)
    (lastId : ∀ l, (c₁.link l).lastId = (c.link l).lastId) : Requests c₁ d lost := by
  have expects u : (c₁.role u).expects = (c.role u).expects := by
    by_cases e : u = t
    · rw [e, before, after]
    · rw [role, standing u e, role]
  refine h.congr (fun u => ?_) (fun u => ?_) (fun u waits => ?_) pending lastId
  · cases d <;> simp [claim, expects]
  · cases d with
    | none => exact expects u
    | some x =>
      rw [roleBy_some, roleBy_some]
      split
      · rfl
      · exact expects u
  · have e : u ≠ t := by
      rintro rfl
      rw [roleBy_ne apart, before] at waits
      cases waits
    rw [told, standing u e, told]

/-- A turn ends. -/
theorem rest (h : Requests c (some x) lost) (q : Queue c (some x.task)) {b : Bool} {r : Role}
    (standing : ∀ u, c₁.standing u =
      if u = x.task ∧ c.Has u then ⟨b, none, r⟩ else c.standing u)
    (role : r.expects = x.role.expects) (left : x.leaves = none)
    (pending : ∀ l, (c₁.link l).pending = (c.link l).pending)
    (lastId : ∀ l, (c₁.link l).lastId = (c.link l).lastId) : Requests c₁ none lost := by
  obtain ⟨-, here, -, untold⟩ := q.apart _ rfl
  have expects u : (c₁.role u).expects = (roleBy c (some x) u).expects := by
    rw [Client.role, standing, roleBy_some]
    by_cases e : u = x.task
    · subst e
      rw [if_pos ⟨rfl, here⟩, if_pos rfl]
      exact role
    · rw [if_neg fun h => e h.1, if_neg (Ne.symm e)]
      rfl
  refine h.congr (fun u => ?_) expects (fun u _ => ?_) pending lastId
  · refine (expects u).trans ?_
    rw [roleBy_some, claim_some, left, Option.or_none]
    split <;> rfl
  · rw [told, standing]
    split
    · next e => rw [e.1, untold]
    · rfl

/-- An activity that has its turn comes to stand elsewhere. -/
theorem within (h : Requests c (some x) lost)
    (standing : ∀ u, u ≠ x.task → c₁.standing u = c.standing u)
    (told : c₁.told x.task = c.told x.task)
    (pending : ∀ l, (c₁.link l).pending = (c.link l).pending)
    (lastId : ∀ l, (c₁.link l).lastId = (c.link l).lastId) : Requests c₁ (some x) lost := by
  refine h.congr (fun u => ?_) (fun u => ?_) (fun u _ => ?_) pending lastId
  · rw [claim_some, claim_some]
    split
    · rfl
    · next e => rw [role, standing u (Ne.symm e), role]
  · rw [roleBy_some, roleBy_some]
    split
    · rfl
    · next e => rw [role, standing u (Ne.symm e), role]
  · by_cases e : u = x.task
    · rw [e, told]
    · rw [Client.told, standing u e, Client.told]

end Requests

theorem pending_modifyLink (ps : List (Nat × Task) → List (Nat × Task)) (none : ps [] = []) :
    ((c.modifyLink l fun k => { k with pending := ps k.pending }).link k).pending =
      if k = l then ps (c.link k).pending else (c.link k).pending := by
  rw [link_modifyLink]
  by_cases e : l = k
  · subst e
    rcases Nat.lt_or_ge l c.links.length with here | out
    · simp [here]
    · rw [if_neg fun h => Nat.not_lt.mpr out h.2, if_pos rfl, link_of_le out]
      exact none.symm
  · rw [if_neg fun h => e h.1, if_neg (Ne.symm e)]

theorem pending_forget :
    ((c.forget l id).link k).pending =
      if k = l then (c.link k).pending.filter (·.1 != id) else (c.link k).pending :=
  pending_modifyLink (fun ps => ps.filter (·.1 != id)) rfl

theorem standing_forget : (c.forget l id).standing t = c.standing t :=
  standing_modifyLink (fun _ => rfl) fun _ => rfl

theorem lastId_forget : ((c.forget l id).link k).lastId = (c.link k).lastId :=
  link_modifyLink_same Link.lastId fun _ => rfl

namespace Requests

/-- A request becomes pending, for which the activity waits or which it is to withdraw. -/
theorem ask (h : Requests c (some x) lost) (q : Queue c (some x.task))
    (here : l < c.links.length) (idle : x.role.expects = none) (left : x.leaves = none) {y : Doer}
    (task : y.task = x.task)
    (claims : y.role.expects.or y.leaves = some (l, (c.link l).lastId + 1))
    (waits : ∀ e, y.role.expects = some e → e = (l, (c.link l).lastId + 1)) :
    Requests (c.register l x.task) (some y) lost := by
  have untold : c.told x.task = none := (q.apart _ rfl).2.2.2
  have stands {u : Task} : (c.register l x.task).standing u = c.standing u := standing_register
  have free : claim c (some x) x.task = none := by
    rw [claim_some, if_pos rfl, idle, left]
    rfl
  have claimed {u : Task} : claim (c.register l x.task) (some y) u =
      if x.task = u then some (l, (c.link l).lastId + 1) else claim c (some x) u := by
    rw [claim_some, task]
    split
    · exact claims
    · next e => rw [claim_some, if_neg e, role, stands]; rfl
  have expects {u : Task} : (roleBy (c.register l x.task) (some y) u).expects =
      if x.task = u then y.role.expects else (roleBy c (some x) u).expects := by
    rw [roleBy_some, task]
    split
    · rfl
    · next e => rw [roleBy_some, if_neg e, role, stands]; rfl
  have pending {k : Nat} : ((c.register l x.task).link k).pending =
      if k = l then (c.link l).pending ++ [((c.link l).lastId + 1, x.task)]
      else (c.link k).pending := by
    by_cases e : k = l
    · subst e
      rw [if_pos rfl, register, link_modifyLink_self here]
    · rw [if_neg e, register, link_modifyLink_ne (Ne.symm e)]
  have lastId {k : Nat} : ((c.register l x.task).link k).lastId =
      if k = l then (c.link l).lastId + 1 else (c.link k).lastId := by
    by_cases e : k = l
    · subst e
      rw [if_pos rfl, register, link_modifyLink_self here]
    · rw [if_neg e, register, link_modifyLink_ne (Ne.symm e)]
  have mem {k i : Nat} {u : Task} : (i, u) ∈ ((c.register l x.task).link k).pending ↔
      (i, u) ∈ (c.link k).pending ∨ k = l ∧ i = (c.link l).lastId + 1 ∧ u = x.task := by
    rw [pending]
    split
    · next e => simp [e]
    · next e => simp [e]
  -- The id is new.
  have new {u : Task} : claim c (some x) u ≠ some (l, (c.link l).lastId + 1) := fun e =>
    absurd (h.known u l _ e).2 (Nat.not_succ_le_self _)
  refine ⟨?_, ?_, ?_, ?_, ?_, ?_⟩
  · intro k i u hu
    rw [claimed]
    obtain hu | ⟨rfl, rfl, rfl⟩ := mem.mp hu
    · have claims := h.pending k i u hu
      rw [if_neg]
      · exact claims
      · rintro rfl
        rw [free] at claims
        cases claims
    · rw [if_pos rfl]
  · intro k
    rw [pending]
    split
    · rw [List.map_append, List.map_singleton]
      refine List.nodup_append.mpr ⟨h.once l, List.nodup_singleton _, ?_⟩
      rintro i hi _ hj rfl
      obtain ⟨⟨i, u⟩, hu, rfl⟩ := List.mem_map.mp hi
      obtain rfl := List.mem_singleton.mp hj
      exact new (h.pending l _ u hu)
    · exact h.once k
  · intro u k i e
    rw [claimed] at e
    rw [lastId]
    split at e
    · obtain ⟨rfl, rfl⟩ : l = k ∧ (c.link l).lastId + 1 = i := by simpa using e
      simp
    · have := h.known u k i e
      split
      · next e => subst e; exact ⟨this.1, by omega⟩
      · exact this
  · intro u v e hu hv
    rw [claimed] at hu hv
    split at hu
    · next eu =>
      obtain rfl := Option.some.inj hu
      split at hv
      · next ev => exact eu.symm.trans ev
      · exact absurd hv new
    · split at hv
      · obtain rfl := Option.some.inj hv
        exact absurd hu new
      · exact h.own u v e hu hv
  · intro u k i e none
    rw [expects] at e
    split at e
    · next eu =>
      obtain ⟨rfl, rfl⟩ : k = l ∧ i = (c.link l).lastId + 1 := by simpa using waits _ e
      exact .inl (mem.mpr (.inr ⟨rfl, rfl, eu.symm⟩))
    · rw [told, stands] at none
      exact (h.waits u k i e none).imp_left fun hu => mem.mpr (.inl hu)
  · intro u k i o e answer
    rw [told, stands] at answer
    rw [expects] at e
    split at e
    · next eu =>
      rw [← eu] at answer
      cases untold.symm.trans answer
    · next eu =>
      obtain ⟨out, good⟩ := h.answered u k i o e answer
      refine ⟨fun hu => ?_, good⟩
      obtain hu | ⟨-, -, same⟩ := mem.mp hu
      · exact out hu
      · exact eu same.symm

/-- A request is withdrawn by the one who sent it. -/
theorem withdraw (h : Requests c (some x) lost) {y : Doer} (task : y.task = x.task)
    (claims : claim c (some x) x.task = some (l, id)) (idle : y.role.expects = none)
    (left : y.leaves = none) : Requests (c.forget l id) (some y) lost := by
  have claimed {u : Task} : claim (c.forget l id) (some y) u =
      if x.task = u then none else claim c (some x) u := by
    rw [claim_some, task, idle, left, claim_some, role, standing_forget]
    split <;> rfl
  have expects {u : Task} : (roleBy (c.forget l id) (some y) u).expects =
      if x.task = u then none else (roleBy c (some x) u).expects := by
    rw [roleBy_some, task, roleBy_some, role, standing_forget]
    split
    · exact idle
    · rfl
  have told {u : Task} : (c.forget l id).told u = c.told u :=
    congrArg Standing.told standing_forget
  have mem {k i : Nat} {u : Task} : (i, u) ∈ ((c.forget l id).link k).pending ↔
      (i, u) ∈ (c.link k).pending ∧ ¬(k = l ∧ i = id) := by
    rw [pending_forget]
    split
    · next e => simp [e]
    · next e => simp [e]
  refine ⟨?_, ?_, ?_, ?_, ?_, ?_⟩
  · intro k i u hu
    obtain ⟨hu, other⟩ := mem.mp hu
    have e := h.pending k i u hu
    rw [claimed, if_neg]
    · exact e
    · rintro rfl
      rw [claims] at e
      obtain ⟨rfl, rfl⟩ : l = k ∧ id = i := by simpa using e
      exact other ⟨rfl, rfl⟩
  · intro k
    rw [pending_forget]
    split
    · exact (h.once k).sublist (List.filter_sublist.map Prod.fst)
    · exact h.once k
  · intro u k i e
    rw [claimed] at e
    rw [lastId_forget]
    split at e
    · cases e
    · exact h.known u k i e
  · intro u v e hu hv
    rw [claimed] at hu hv
    split at hu
    · cases hu
    · split at hv
      · cases hv
      · exact h.own u v e hu hv
  · intro u k i e none
    rw [expects] at e
    rw [told] at none
    split at e
    · cases e
    · next eu =>
      refine (h.waits u k i e none).imp_left fun hu => mem.mpr ⟨hu, ?_⟩
      rintro ⟨rfl, rfl⟩
      exact eu (h.own _ _ _ claims (h.pending k i u hu))
  · intro u k i o e answer
    rw [expects] at e
    rw [told] at answer
    split at e
    · cases e
    · obtain ⟨out, good⟩ := h.answered u k i o e answer
      exact ⟨fun hu => out (mem.mp hu).1, good⟩

end Requests

/-! ## Actions -/

/-- Whoever has its turn is not told anything. -/
theorem Queue.turn_ne (q : Queue c (turnOf d)) (live : (c.standing t).live) : turnOf d ≠ some t := by
  intro e
  rw [(q.apart t e).2.2.1] at live
  cases live

theorem WatcherPrompt.ne_answered {w : Watcher} (why : WatcherPrompt w s) (o : Outcome) :
    s ≠ .answered o := by
  cases why <;> nofun

theorem AttemptPrompt.ne_answered {a : Attempt} (why : AttemptPrompt a s) (o : Outcome) :
    s ≠ .answered o := by
  cases why <;> nofun

theorem CallPrompt.ne_answered {q : Call} (why : CallPrompt c q s)
    (waits : q.phase.role.expects.isSome) (o : Outcome) : s ≠ .answered o := by
  cases why with
  | relayed ended => cases waits
  | refused => simp [CallPhase.role] at waits
  | _ => simp

theorem isProper_of_isReply (h : o.isReply) : o.isProper ∧ o ≠ .cancelled := by
  unfold Outcome.isReply at h
  split at h
  · exact ⟨rfl, nofun⟩
  · exact ⟨rfl, nofun⟩
  · cases h

namespace Requests

/-- An answer comes, or the request is given up. -/
theorem answer (h : Requests c d lost) (idle : IsIdle d)
    (here : (id, t) ∈ (c.link l).pending) (good : o.isProper ∧ o ≠ .cancelled)
    (stands : ∀ u, c₁.standing u =
      if u = t ∧ c.heeds t then { c.standing u with told := some (.answered o) }
      else c.standing u)
    (pending : ∀ k, (c₁.link k).pending =
      if k = l then (c.link k).pending.filter (·.1 != id) else (c.link k).pending)
    (lastId : ∀ k, (c₁.link k).lastId = (c.link k).lastId) : Requests c₁ d lost := by
  refine h.remove idle here (fun u => ?_) (fun u e => ?_) (fun waits untold => ?_)
    (fun p answer => ?_) pending lastId fun _ h => h
  · rw [role, stands]
    split <;> rfl
  · rw [told, stands, if_neg fun h => e h.1, told]
  · rw [told, stands] at untold
    split at untold
    · cases untold
    · next deaf =>
      refine absurd ⟨rfl, heeds_of_expects (by rw [waits]; rfl) ?_⟩ deaf
      rw [isTold_eq (by rw [waits]; rfl), told, untold]
      rfl
  · rw [told, stands] at answer
    split at answer
    · obtain ⟨⟩ := answer
      exact .inr good
    · exact .inl answer

end Requests

theorem filter_first {rest : List (Nat × Task)} (once : (((id, t) :: rest).map Prod.fst).Nodup) :
    ((id, t) :: rest).filter (·.1 != id) = rest := by
  rw [List.map_cons, List.nodup_cons] at once
  rw [List.filter_cons_of_neg (by simp)]
  refine List.filter_eq_self.mpr fun q hq => bne_iff_ne.mpr ?_
  rintro e
  exact once.1 (List.mem_map.mpr ⟨q, hq, e⟩)

/-- Taking the first request off the list is forgetting it. -/
theorem forget_first {rest : List (Nat × Task)} (first : (c.link l).pending = (id, t) :: rest)
    (once : ((c.link l).pending.map Prod.fst).Nodup) :
    (c.modifyLink l fun k => { k with pending := rest }) = c.forget l id := by
  refine modifyLink_congr ?_
  rw [first] at once ⊢
  rw [filter_first once]

theorem Action.requests (act : Action hit c d c₁ d₁) (q : Queue c (turnOf d)) (holds : c.HoldsLinks)
    (h : Requests c d lost) : Requests c₁ d₁ lost := by
  -- Nothing is different for those who wait.
  have same (standing : c₁.standing = c.standing) (claims : ∀ t, claim c d₁ t = claim c d t)
      (roles : ∀ t, (roleBy c d₁ t).expects = (roleBy c d t).expects)
      (pending : ∀ l, (c₁.link l).pending = (c.link l).pending)
      (lastId : ∀ l, (c₁.link l).lastId = (c.link l).lastId) : Requests c₁ d₁ lost := by
    have role t : c₁.role t = c.role t := by rw [role, standing, role]
    refine h.congr (fun t => ?_) (fun t => ?_) (fun t _ => ?_) pending lastId
    · rw [claim_congr role, claims]
    · rw [roleBy_congr role, roles]
    · rw [told, standing, told]
  have frame (standing : c₁.standing = c.standing) (links : c₁.links = c.links)
      (claims : ∀ t, claim c d₁ t = claim c d t)
      (roles : ∀ t, (roleBy c d₁ t).expects = (roleBy c d t).expects) : Requests c₁ d₁ lost :=
    same standing claims roles (fun _ => by rw [link, links, link]) fun _ => by rw [link, links, link]
  have swap {x y : Doer} (e : d = some x) (e₁ : d₁ = some y) (task : y.task = x.task)
      (expects : y.role.expects = x.role.expects) (leaves : y.leaves = x.leaves) :
      (∀ t, claim c d₁ t = claim c d t) ∧
        ∀ t, (roleBy c d₁ t).expects = (roleBy c d t).expects := by
    subst e e₁
    refine ⟨fun u => ?_, fun u => ?_⟩
    · rw [claim_some, claim_some, task, expects, leaves]
    · rw [roleBy_some, roleBy_some, task]
      split
      · exact expects
      · rfl
  cases act with
  | flows l f same' =>
    refine same (funext fun _ => standing_modifyLink (fun _ => rfl) fun _ => rfl)
      (fun _ => rfl) (fun _ => rfl) (fun k => ?_) fun k => ?_
    · exact link_modifyLink_same Link.pending fun _ => rfl
    · exact link_modifyLink_same Link.lastId fun _ => rfl
  | exits f alive left =>
    refine same (funext fun _ => standing_modifyLink (fun _ => rfl) fun _ => rfl)
      (fun _ => rfl) (fun _ => rfl) (fun k => ?_) fun k => ?_
    · exact link_modifyLink_same Link.pending fun _ => rfl
    · exact link_modifyLink_same Link.lastId fun _ => rfl
  | @tellsListener d l s why shut =>
    refine h.tell (t := .listener l) (q.turn_ne why.isPending)
      (fun _ => standing_tellListener (lt_of_listener why.isPending)) (fun waits => by cases waits) (fun k => ?_) fun k => ?_
    · exact link_modifyLink_same Link.pending fun _ => rfl
    · exact link_modifyLink_same Link.lastId fun _ => rfl
  | @tellsDrain d l s why =>
    refine h.tell (t := .drain l) (q.turn_ne why.isPending)
      (fun _ => standing_tellDrain (lt_of_drain why.isPending)) (fun waits => by cases waits) (fun k => ?_) fun k => ?_
    · exact link_modifyLink_same Link.pending fun _ => rfl
    · exact link_modifyLink_same Link.lastId fun _ => rfl
  | @tellsAttempt d n a s here why =>
    refine h.tell (t := .attempt n) (q.turn_ne ?_) (fun _ => standing_tellAttempt here)
      (fun _ => why.ne_answered) (fun _ => rfl) fun _ => rfl
    simpa [standing, here, Attempt.standing] using why.isLive
  | @tellsCall d n a s here why =>
    refine h.tell (t := .call n) (q.turn_ne ?_) (fun _ => standing_tellCall here)
      (fun waits => why.ne_answered ?_) (fun _ => rfl) fun _ => rfl
    · simpa [standing, here, Call.standing] using why.isLive
    · simpa [role, standing, here, Call.standing] using waits
  | @asks x l method params idle left up used why =>
    have asked := h.ask q (holds l (.inr used)) idle left
      (y := x.expect (some (l, (c.link l).lastId + 1))) rfl rfl fun e same =>
        (Option.some.inj same).symm
    exact asked.congr (fun _ => rfl) (fun _ => rfl) (fun _ _ => rfl) (fun _ => rfl) fun _ => rfl
  | @mumbles x l idle left up used =>
    refine h.ask q (holds l (.inr used)) idle left (y := x.leave (l, (c.link l).lastId + 1)) rfl
      ?_ fun e same => by cases idle.symm.trans same
    show x.role.expects.or _ = _
    rw [idle]
    rfl
  | @retracts x l id expects left =>
    refine h.withdraw rfl ?_ rfl left
    rw [claim_some, if_pos rfl, expects]
    rfl
  | @withdraws x l id idle leaves =>
    refine h.withdraw rfl ?_ idle rfl
    rw [claim_some, if_pos rfl, idle, leaves]
    rfl
  | @answers d l id t o idle hears pending untold reply =>
    refine h.answer idle pending (isProper_of_isReply reply) (fun u => ?_) (fun k => ?_) fun k => ?_
    · rw [standing_prompt, standing_forget]
      rfl
    · exact pending_forget
    · exact lastId_forget
  | @drops d l id t idle hears pending told =>
    refine h.remove idle pending (fun u => ?_) (fun u _ => ?_) (fun waits untold => ?_)
      (fun o answer => .inl ?_) (fun _ => pending_forget) (fun _ => lastId_forget) fun _ h => h
    · rw [role, standing_forget, role]
    · rw [Client.told, standing_forget, Client.told]
    · rw [Client.told, standing_forget, ← Client.told] at untold
      rw [isTold_eq (by rw [waits]; rfl), untold] at told
      cases told
    · rw [Client.told, standing_forget] at answer
      exact answer
  | @fails d l id t rest idle reason first =>
    have here : (id, t) ∈ (c.link l).pending := by simp [first]
    rw [forget_first first (h.once l)]
    refine h.answer (o := .error (.ended reason)) idle here ⟨rfl, by simp⟩ (fun u => ?_)
      (fun k => ?_) fun k => ?_
    · rw [standing_prompt, standing_forget]
      rfl
    · exact pending_forget
    · exact lastId_forget
  | @rests x l task done go runs reading =>
    refine h.rest q (b := true) (r := .idle) (fun u => ?_) done.expects.symm done.leaves
      (fun k => ?_) fun k => ?_
    · rw [task]
      exact standing_restListener
    · exact link_modifyLink_same Link.pending fun _ => rfl
    · exact link_modifyLink_same Link.lastId fun _ => rfl
  | @halts x l crash task clear same why =>
    refine h.within (fun u e => ?_) ?_ (fun k => ?_) fun k => ?_
    · rw [standing_haltListener, if_neg fun h => e (task ▸ h.1)]
    · rw [told, standing_haltListener, (q.apart _ rfl).2.2.2]
      split
      · rfl
      · exact (q.apart _ rfl).2.2.2
    · exact link_modifyLink_same Link.pending fun _ => rfl
    · exact link_modifyLink_same Link.lastId fun _ => rfl
  | @supersedes x l crash listens clear =>
    refine same (funext fun _ => standing_modifyLink (fun _ => rfl) fun _ => rfl)
      (fun _ => rfl) (fun _ => rfl) (fun k => ?_) fun k => ?_
    · exact link_modifyLink_same Link.pending fun _ => rfl
    · exact link_modifyLink_same Link.lastId fun _ => rfl
  | @renews x l listens waits =>
    refine same (funext fun _ => standing_modifyLink (fun _ => rfl) fun _ => rfl)
      (fun _ => rfl) (fun _ => rfl) (fun k => ?_) fun k => ?_
    · exact link_modifyLink_same Link.pending fun _ => rfl
    · exact link_modifyLink_same Link.lastId fun _ => rfl
  | @restarts x n l task listens here ceased =>
    refine h.elsewhere (t := .listener l) (by simp [turnOf, task]) (fun u e => ?_) rfl ?_
      (fun k => ?_) fun k => ?_
    · rw [standing_restartListener here, if_neg e]
    · rfl
    · exact link_modifyLink_same Link.pending fun _ => rfl
    · exact link_modifyLink_same Link.lastId fun _ => rfl
  | @drains x n l task here absent =>
    refine h.elsewhere (t := .drain l) (by simp [turnOf, task]) (fun u e => ?_) rfl ?_
      (fun k => ?_) fun k => ?_
    · rw [standing_addDrain here, if_neg e]
    · rfl
    · exact link_modifyLink_same Link.pending fun _ => rfl
    · exact link_modifyLink_same Link.lastId fun _ => rfl
  | @drainRests x l task done =>
    refine h.rest q (b := true) (r := .idle) (fun u => ?_) done.expects.symm done.leaves
      (fun k => ?_) fun k => ?_
    · rw [task]
      exact standing_setDrain
    · exact link_modifyLink_same Link.pending fun _ => rfl
    · exact link_modifyLink_same Link.lastId fun _ => rfl
  | @drainEnds x l task =>
    refine h.within (fun u e => ?_) ?_ (fun k => ?_) fun k => ?_
    · rw [standing_setDrain, if_neg fun h => e (task ▸ h.1)]
    · rw [told, standing_setDrain, (q.apart _ rfl).2.2.2]
      split
      · rfl
      · exact (q.apart _ rfl).2.2.2
    · exact link_modifyLink_same Link.pending fun _ => rfl
    · exact link_modifyLink_same Link.lastId fun _ => rfl
  | takes how =>
    have := swap rfl rfl rfl rfl rfl
    cases how <;> exact frame rfl rfl this.1 this.2
  | shuts t first =>
    refine same (funext fun _ => standing_modifyLink (fun _ => rfl) fun _ => rfl)
      (fun _ => rfl) (fun _ => rfl) (fun k => ?_) fun k => ?_
    · exact link_modifyLink_same Link.pending fun _ => rfl
    · exact link_modifyLink_same Link.lastId fun _ => rfl
  | expectsEnd l =>
    refine same (funext fun _ => standing_modifyLink (fun _ => rfl) fun _ => rfl)
      (fun _ => rfl) (fun _ => rfl) (fun k => ?_) fun k => ?_
    · exact link_modifyLink_same Link.pending fun _ => rfl
    · exact link_modifyLink_same Link.lastId fun _ => rfl
  | @connects x n task done starts cold ps p =>
    suffices linked : Requests (c.addLink ps p) (some x) lost from
      linked.congr (fun _ => rfl) (fun _ => expects_turnTo) (fun _ _ => rfl) (fun _ => rfl)
        fun _ => rfl
    refine h.elsewhere (t := .listener c.links.length) (by simp [turnOf, task]) (fun u e => ?_)
      rfl rfl (fun k => ?_) fun k => ?_
    · rw [standing_addLink, if_neg fun h => e h.1]
    · rw [link_addLink]
      split
      · next e => rw [e, link_of_le (Nat.le_refl _)]; rfl
      · rfl
    · rw [link_addLink]
      split
      · next e => rw [e, link_of_le (Nat.le_refl _)]; rfl
      · rfl
  | @shares x sends cold ceased =>
    refine h.elsewhere (t := .attempt c.attempts.length) (fun e => ?_) (fun u e => ?_) ?_ ?_
      (fun _ => rfl) fun _ => rfl
    · exact absurd (q.apart _ e).2.1 (Nat.lt_irrefl _)
    · rw [standing_addAttempt, if_neg e]
    · simp [role, standing, Standing.absent, Role.idle]
    · rw [role, standing_addAttempt, if_pos rfl]
      rfl
  | greets | spends | startsUp | turnsBack | disposes | detaches =>
    have := swap rfl rfl rfl rfl rfl
    exact frame rfl rfl this.1 this.2
  | @parksAttempt x n p task role left waits ends =>
    refine h.rest q (b := p.isLive) (r := p.role) (fun u => ?_) (by rw [role]) left
      (fun _ => rfl) fun _ => rfl
    rw [task]
    exact standing_putAttempt
  | @endsAttempt x n o task done =>
    refine h.rest q (b := false) (r := .idle) (fun u => ?_) done.expects.symm done.leaves
      (fun _ => rfl) fun _ => rfl
    rw [task]
    exact standing_settleAttempt
  | @succeeds x n l k id j task done starts asked agreed used up =>
    refine h.rest q (b := false) (r := .idle) (fun u => ?_) done.expects.symm done.leaves
      (fun _ => rfl) fun _ => rfl
    rw [task]
    exact standing_settleAttempt
  | @parksCall x n p task role left waits ends stops go joins =>
    refine h.rest q (b := p.isLive) (r := p.role) (fun u => ?_) (by rw [role]) left
      (fun _ => rfl) fun _ => rfl
    rw [task]
    exact standing_putCall
  | @endsCall x n o task done reset proper =>
    refine h.rest q (b := false) (r := .idle) (fun u => ?_) done.expects.symm done.leaves
      (fun _ => rfl) fun _ => rfl
    rw [task]
    exact standing_putCall
  | @leaves x done told ceased =>
    have idle : (c.role x.task).expects = none := by
      obtain ⟨l, task, -⟩ | ⟨l, task, -⟩ := ceased <;> rw [task] <;> rfl
    refine h.congr (fun u => ?_) (fun u => ?_) (fun _ _ => rfl) (fun _ => rfl) fun _ => rfl
    · rw [claim_some]
      split
      · next e => rw [← e, done.expects, done.leaves]; exact idle
      · rfl
    · rw [roleBy_some]
      split
      · next e => rw [← e, done.expects]; exact idle
      · rfl
  | calls job fits =>
    refine h.elsewhere (t := .call c.calls.length) turnOf_none_ne (fun u e => ?_) ?_ ?_ (fun _ => rfl)
      fun _ => rfl
    · rw [standing_addCall, if_neg e]
    · simp [role, standing, Standing.absent, Role.idle]
    · rw [role, standing_addCall, if_pos rfl]
      rfl
  | _ => exact frame rfl rfl (fun _ => rfl) fun _ => rfl

theorem Path.requests (path : Path hit c d ls c₁ d₁) (q : Queue c (turnOf d)) (holds : c.HoldsLinks)
    (h : Requests c d lost) : Requests c₁ d₁ (lost ++ ls) := by
  induction path generalizing lost with
  | nil => simpa using h
  | step act _ ih => exact ih (act.queue q) (act.holdsLinks holds) (act.requests q holds h)
  | @loses c d l id t ls c₂ d₂ idle pending untold path ih =>
    have gone : Path hit c d [⟨l, id, t⟩] (c.forget l id) d :=
      .loses idle pending untold (.nil _ _)
    have removed : Requests (c.forget l id) d (lost ++ [⟨l, id, t⟩]) := by
      refine h.remove idle pending (fun u => ?_) (fun u _ => ?_) (fun _ _ => by simp)
        (fun o answer => .inl ?_) (fun _ => pending_forget) (fun _ => lastId_forget)
        fun _ h => List.mem_append_left _ h
      · rw [role, standing_forget, role]
      · rw [told, standing_forget, told]
      · rwa [told, standing_forget] at answer
    simpa using ih (gone.queue q) (gone.holdsLinks holds) removed

/-- Whoever was told an answer waits for it no longer when its turn comes. -/
theorem Requests.begin (h : Requests c none lost) (told : c.told t = some s)
    (standing : ∀ u, u ≠ t → c₁.standing u = c.standing u)
    (pending : ∀ l, (c₁.link l).pending = (c.link l).pending)
    (lastId : ∀ l, (c₁.link l).lastId = (c.link l).lastId) :
    Requests c₁ (some (.ofTurn t s (c.role t) found)) lost := by
  have role {u} (e : u ≠ t) : c₁.role u = c.role u := by rw [role, standing u e, role]
  have claimed u : claim c₁ (some (.ofTurn t s (c.role t) found)) u =
      if t = u then (Doer.ofTurn t s (c.role t) found).leaves else claim c none u := by
    show (if t = u then _ else _) = _
    split
    · rfl
    · next e => rw [role (Ne.symm e)]; rfl
  have claims {u e} (hu : claim c₁ (some (.ofTurn t s (c.role t) found)) u = some e) :
      claim c none u = some e := by
    rw [claimed] at hu
    split at hu
    · next e =>
      subst e
      cases s <;> first | exact hu | cases hu
    · exact hu
  have expects {u e} (hu : (roleBy c₁ (some (.ofTurn t s (c.role t) found)) u).expects = some e) :
      u ≠ t ∧ (roleBy c none u).expects = some e := by
    rw [roleBy_some] at hu
    split at hu
    · cases hu
    · next e => exact ⟨Ne.symm e, by rwa [role (Ne.symm e)] at hu⟩
  refine ⟨?_, ?_, ?_, ?_, ?_, ?_⟩
  · intro l id u hu
    rw [pending] at hu
    have e := h.pending l id u hu
    rw [claimed]
    split
    · next same =>
      subst same
      cases s with
      | answered o => exact absurd hu (h.answered t l id o e told).1
      | _ => exact e
    · exact e
  · simpa only [pending] using h.once
  · intro u l id e
    rw [lastId]
    exact h.known u l id (claims e)
  · exact fun u v e hu hv => h.own u v e (claims hu) (claims hv)
  · intro u l id e untold
    obtain ⟨other, e⟩ := expects e
    rw [Client.told, standing u other] at untold
    rw [pending]
    exact h.waits u l id e untold
  · intro u l id o e answer
    obtain ⟨other, e⟩ := expects e
    rw [Client.told, standing u other] at answer
    rw [pending]
    exact h.answered u l id o e answer

theorem Begins.requests {rest : List Task} (begins : Begins c rest c₁ d)
    (h : Requests c none lost) : Requests c₁ d lost := by
  cases begins with
  | @listener l s p ready here pending =>
    refine h.begin (t := .listener l) (s := s) ?_ (fun u e => ?_) (fun k => ?_) fun k => ?_
    · simp [told, standing, here, Watcher.standing]
    · rw [setListener, standing_modifyListener, if_neg fun h => e h.1]
      · rfl
      · exact fun _ => rfl
    · exact link_modifyLink_same Link.pending fun _ => rfl
    · exact link_modifyLink_same Link.lastId fun _ => rfl
  | @drain l s p ready here pending =>
    refine h.begin (t := .drain l) (s := s) ?_ (fun u e => ?_) (fun k => ?_) fun k => ?_
    · simp [told, standing, here, Watcher.standing]
    · rw [standing_setDrain, if_neg fun h => e h.1]
      rfl
    · exact link_modifyLink_same Link.pending fun _ => rfl
    · exact link_modifyLink_same Link.lastId fun _ => rfl
  | @attempt n p s ready here live =>
    have stands : c.standing (.attempt n) = ⟨p.isLive, some s, p.role⟩ := by
      simp [standing, here, Attempt.standing]
    rw [show p.role = c.role (.attempt n) by rw [role, stands]]
    refine h.begin (by rw [told, stands]) (fun u e => ?_) (fun _ => rfl) fun _ => rfl
    rw [standing_putAttempt, if_neg fun h => e h.1]
    rfl
  | @call n p s ready here live =>
    have stands : c.standing (.call n) = ⟨p.isLive, some s, p.role⟩ := by
      simp [standing, here, Call.standing]
    rw [show p.role = c.role (.call n) by rw [role, stands]]
    refine h.begin (by rw [told, stands]) (fun u e => ?_) (fun _ => rfl) fun _ => rfl
    rw [standing_putCall, if_neg fun h => e h.1]
    rfl
  | relay ready =>
    exact h.congr (fun _ => rfl) (fun _ => rfl) (fun _ _ => rfl) (fun _ => rfl) fun _ => rfl

end LspGateway.Client
