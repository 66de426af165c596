import LspGateway.Proofs.Client.Turns

/-! # The queue

The activities in the queue are the ones that were told something and have not had
their turn since. Nobody stands in the queue twice.
-/

namespace LspGateway.Client

variable {hit : Nat → Prop} {c c₁ : Client} {d d₁ : Option Doer} {ls : List Loss} {x : Doer}
  {l k n : Nat} {t u : Task} {s : Signal}

/-! ## Where activities stand after an action -/

theorem standing_modifyListener {f : Link → Link} (drain : ∀ k, (f k).drain = k.drain) :
    (c.modifyLink l f).standing t =
      if t = .listener l ∧ c.Has t then (f (c.link l)).listener.standing else c.standing t := by
  cases t with
  | listener k =>
    simp only [standing, link_modifyLink, Has, Task.listener.injEq]
    by_cases e : l = k ∧ k < c.links.length
    · obtain ⟨rfl, here⟩ := e
      simp [here]
    · rw [if_neg e, if_neg fun h => e ⟨h.1.symm, h.2⟩]
  | drain k =>
    have same : ((c.modifyLink l f).link k).drain = (c.link k).drain :=
      link_modifyLink_same Link.drain drain
    simp [standing, same]
  | _ => simp [standing, modifyLink]

theorem standing_modifyDrain {f : Link → Link} (listener : ∀ k, (f k).listener = k.listener) :
    (c.modifyLink l f).standing t =
      if t = .drain l ∧ c.Has t then (f (c.link l)).drain.standing else c.standing t := by
  cases t with
  | drain k =>
    simp only [standing, link_modifyLink, Has, Task.drain.injEq]
    by_cases e : l = k ∧ k < c.links.length
    · obtain ⟨rfl, here⟩ := e
      simp [here]
    · rw [if_neg e, if_neg fun h => e ⟨h.1.symm, h.2⟩]
  | listener k =>
    have same : ((c.modifyLink l f).link k).listener = (c.link k).listener :=
      link_modifyLink_same Link.listener listener
    simp [standing, same]
  | _ => simp [standing, modifyLink]

/-- Nobody stands elsewhere because something else of a link changes. -/
theorem standing_modifyLink {f : Link → Link} (listener : ∀ k, (f k).listener = k.listener)
    (drain : ∀ k, (f k).drain = k.drain) : (c.modifyLink l f).standing t = c.standing t := by
  rw [standing_modifyListener drain]
  split
  · next h =>
    rw [h.1, listener]
    rfl
  · rfl

theorem standing_register {u : Task} : (c.register l u).standing t = c.standing t :=
  standing_modifyLink (fun _ => rfl) fun _ => rfl

theorem standing_putAttempt {a : Attempt} :
    (c.putAttempt n a).standing t =
      if t = .attempt n ∧ c.Has t then a.standing else c.standing t := by
  cases t with
  | attempt m =>
    simp only [standing, putAttempt, List.getElem?_set, Has, Task.attempt.injEq]
    by_cases e : n = m
    · subst e
      by_cases here : n < c.attempts.length <;> simp [here]
    · simp [e, Ne.symm e]
  | _ => simp [standing, putAttempt, link]

theorem standing_settleAttempt {o : Outcome} :
    (c.settleAttempt n o).standing t =
      if t = .attempt n ∧ c.Has t then ⟨false, none, .idle⟩ else c.standing t := by
  show (c.putAttempt n ⟨.done o, none⟩).standing t = _
  rw [standing_putAttempt]
  rfl

theorem standing_putCall {q : Call} :
    (c.putCall n q).standing t = if t = .call n ∧ c.Has t then q.standing else c.standing t := by
  cases t with
  | call m =>
    simp only [standing, putCall, List.getElem?_set, Has, Task.call.injEq]
    by_cases e : n = m
    · subst e
      by_cases here : n < c.calls.length <;> simp [here]
    · simp [e, Ne.symm e]
  | _ => simp [standing, putCall, link]

theorem Attempt.standing_prompt (a : Attempt) :
    (a.prompt s).standing =
      if a.phase.isWaiting && a.signal.isNone then { a.standing with told := some s }
      else a.standing := by
  unfold Attempt.prompt
  split <;> rfl

theorem Call.standing_prompt (q : Call) :
    (q.prompt s).standing =
      if q.phase.isWaiting && q.signal.isNone then { q.standing with told := some s }
      else q.standing := by
  unfold Call.prompt
  split <;> rfl

theorem standing_prompt :
    (c.prompt u s).standing t =
      if t = u ∧ c.heeds u then { c.standing t with told := some s } else c.standing t := by
  cases t with
  | attempt m =>
    cases u with
    | attempt n =>
      simp only [standing, prompt, List.getElem?_modify, heeds, Task.attempt.injEq]
      by_cases e : n = m
      · subst e
        cases h : c.attempts[n]? with
        | none => simp
        | some a => simp [Attempt.standing_prompt]
      · simp [e, Ne.symm e]
    | _ => simp [standing, prompt]
  | call m =>
    cases u with
    | call n =>
      simp only [standing, prompt, List.getElem?_modify, heeds, Task.call.injEq]
      by_cases e : n = m
      · subst e
        cases h : c.calls[n]? with
        | none => simp
        | some a => simp [Call.standing_prompt]
      · simp [e, Ne.symm e]
    | _ => simp [standing, prompt]
  | listener m => cases u <;> simp [standing, prompt, heeds, link]
  | drain m => cases u <;> simp [standing, prompt, heeds, link]
  | relay a => cases u <;> simp [standing, heeds]

/-- The link that a new process gets. -/
theorem link_addLink {ps : List Policy} {p : Policy} :
    (c.addLink ps p).link k =
      if k = c.links.length then
        { Link.ofPolicy c.spawns p with
          listener := if p.hasInput then ⟨.fresh, some .go⟩ else ⟨.absent, none⟩ }
      else c.link k := by
  have grown : (c.addLink ps p).links.length = c.links.length + 1 := by simp [addLink]
  rcases Nat.lt_trichotomy k c.links.length with h | rfl | h
  · rw [if_neg (Nat.ne_of_lt h), link_eq, link_eq, addLink, List.getElem?_append_left h]
  · rw [if_pos rfl, link_last c.links rfl]
  · rw [if_neg (Nat.ne_of_gt h), link_of_le (Nat.le_of_lt h), link_of_le (by omega)]

theorem standing_addLink {ps : List Policy} {p : Policy} :
    (c.addLink ps p).standing t =
      if t = .listener c.links.length ∧ p.hasInput then ⟨true, some .go, .idle⟩
      else c.standing t := by
  have old : c.link c.links.length = default := link_of_le (Nat.le_refl _)
  cases t with
  | listener k =>
    simp only [standing, Task.listener.injEq, link_addLink]
    by_cases e : k = c.links.length
    · rw [if_pos e, e, old]
      cases p.hasInput <;> simp <;> rfl
    · rw [if_neg e, if_neg fun h => e h.1]
  | drain k =>
    simp only [standing, link_addLink]
    by_cases e : k = c.links.length
    · rw [if_pos e, e, old]
      rfl
    · simp [e]
  | _ => simp [standing, addLink]

theorem standing_addAttempt :
    c.addAttempt.standing t =
      if t = .attempt c.attempts.length then ⟨true, some .go, .idle⟩ else c.standing t := by
  cases t with
  | attempt m =>
    simp only [standing, addAttempt, push, Task.attempt.injEq]
    rcases Nat.lt_trichotomy m c.attempts.length with h | rfl | h
    · rw [List.getElem?_append_left h, if_neg (Nat.ne_of_lt h)]
    · simp [Attempt.standing, AttemptPhase.isLive, AttemptPhase.role]
    · rw [List.getElem?_eq_none (by simpa using Nat.succ_le_of_lt h),
        List.getElem?_eq_none (Nat.le_of_lt h), if_neg (Nat.ne_of_gt h)]
  | _ => simp [standing, addAttempt, push, link]

theorem standing_addCall {job : Job} :
    (c.addCall job).standing t =
      if t = .call c.calls.length then ⟨true, some .go, .begun job.errand⟩ else c.standing t := by
  cases t with
  | call m =>
    simp only [standing, addCall, push, Task.call.injEq]
    rcases Nat.lt_trichotomy m c.calls.length with h | rfl | h
    · rw [List.getElem?_append_left h, if_neg (Nat.ne_of_lt h)]
    · simp [Call.standing, CallPhase.isLive, CallPhase.role]
    · rw [List.getElem?_eq_none (by simpa using Nat.succ_le_of_lt h),
        List.getElem?_eq_none (Nat.le_of_lt h), if_neg (Nat.ne_of_gt h)]
  | _ => simp [standing, addCall, push, link]

/-! ## Who stands in the queue -/

/-- The queue and the activity in its turn. -/
structure Queue (c : Client) (who : Option Task) : Prop where
  canGo : ∀ t ∈ c.ready, c.CanGo t
  queued : ∀ t, (c.told t).isSome → t ∈ c.ready
  once : ∀ t, t.isRelay = false → c.ready.count t ≤ 1
  apart : ∀ t, who = some t → t.isRelay = false ∧ c.Has t ∧ (c.standing t).live = false ∧
    c.told t = none

theorem has_modifyLink {f : Link → Link} : (c.modifyLink l f).Has t ↔ c.Has t := by
  cases t <;> simp [Has, modifyLink]

theorem has_prompt : (c.prompt u s).Has t ↔ c.Has t := by
  cases t <;> cases u <;> simp [Has, prompt]

theorem AttemptPhase.isLive_of_isWaiting {p : AttemptPhase} (h : p.isWaiting) : p.isLive := by
  cases p <;> first | rfl | cases h

theorem CallPhase.isLive_of_isWaiting {p : CallPhase} (h : p.isWaiting) : p.isLive := by
  cases p <;> first | rfl | cases h

theorem live_of_heeds (h : c.heeds t) : (c.standing t).live ∧ c.told t = none := by
  cases t with
  | attempt n =>
    rcases ha : c.attempts[n]? with _ | a
    · simp [heeds, ha] at h
    · obtain ⟨waits, none⟩ : a.phase.isWaiting ∧ a.signal = none := by
        simpa [heeds, ha] using h
      simp [told, standing, ha, Attempt.standing, none, AttemptPhase.isLive_of_isWaiting waits]
  | call n =>
    rcases hq : c.calls[n]? with _ | q
    · simp [heeds, hq] at h
    · obtain ⟨waits, none⟩ : q.phase.isWaiting ∧ q.signal = none := by
        simpa [heeds, hq] using h
      simp [told, standing, hq, Call.standing, none, CallPhase.isLive_of_isWaiting waits]
  | _ => cases h

theorem standing_tellListener (here : l < c.links.length) :
    (c.tellListener l s).standing t =
      if t = .listener l then { c.standing t with told := some s } else c.standing t := by
  show (c.modifyLink l fun k => { k with listener := ⟨k.listener.phase, some s⟩ }).standing t = _
  rw [standing_modifyListener]
  · by_cases e : t = .listener l
    · subst e
      simp [Has, here, standing, Watcher.standing]
    · simp [e]
  · exact fun _ => rfl

theorem standing_restartListener (here : l < c.links.length) :
    (c.restartListener l).standing t =
      if t = .listener l then ⟨true, some .go, .idle⟩ else c.standing t := by
  show (c.modifyLink l fun k => { k with
    crash := none, superseded := false, listener := ⟨.fresh, some .go⟩ }).standing t = _
  rw [standing_modifyListener]
  · by_cases e : t = .listener l
    · subst e
      simp [Has, here, Watcher.standing, WatcherPhase.isPending]
    · simp [e]
  · exact fun _ => rfl

theorem standing_addDrain (here : l < c.links.length) :
    (c.addDrain l).standing t =
      if t = .drain l then ⟨true, some .go, .idle⟩ else c.standing t := by
  show (c.modifyLink l fun k => { k with drain := ⟨.fresh, some .go⟩ }).standing t = _
  rw [standing_modifyDrain]
  · by_cases e : t = .drain l
    · subst e
      simp [Has, here, Watcher.standing, WatcherPhase.isPending]
    · simp [e]
  · exact fun _ => rfl

theorem standing_restListener {reading : Wire.Reading} :
    (c.restListener l reading).standing t =
      if t = .listener l ∧ c.Has t then ⟨true, none, .idle⟩ else c.standing t :=
  standing_modifyListener fun _ => rfl

theorem standing_haltListener {crash : Option Json.Misuse} :
    (c.haltListener l crash).standing t =
      if t = .listener l ∧ c.Has t then ⟨false, none, .idle⟩ else c.standing t :=
  standing_modifyListener fun _ => rfl

theorem standing_setDrain {p : WatcherPhase} :
    (c.setDrain l p).standing t =
      if t = .drain l ∧ c.Has t then ⟨p.isPending, none, .idle⟩ else c.standing t :=
  standing_modifyDrain fun _ => rfl

theorem standing_tellDrain (here : l < c.links.length) :
    (c.tellDrain l s).standing t =
      if t = .drain l then { c.standing t with told := some s } else c.standing t := by
  show (c.modifyLink l fun k => { k with drain := ⟨k.drain.phase, some s⟩ }).standing t = _
  rw [standing_modifyDrain]
  · by_cases e : t = .drain l
    · subst e
      simp [Has, here, standing, Watcher.standing]
    · simp [e]
  · exact fun _ => rfl

theorem standing_tellAttempt {a : Attempt} (here : c.attempts[n]? = some a) :
    (c.tellAttempt n a s).standing t =
      if t = .attempt n then { c.standing t with told := some s } else c.standing t := by
  show (c.putAttempt n ⟨a.phase, some s⟩).standing t = _
  rw [standing_putAttempt]
  by_cases e : t = .attempt n
  · subst e
    simp only [Has, (List.getElem?_eq_some_iff.mp here).1, standing, here]
    simp [Attempt.standing]
  · simp [e]

theorem standing_tellCall {q : Call} (here : c.calls[n]? = some q) :
    (c.tellCall n q s).standing t =
      if t = .call n then { c.standing t with told := some s } else c.standing t := by
  show (c.putCall n ⟨q.phase, some s⟩).standing t = _
  rw [standing_putCall]
  by_cases e : t = .call n
  · subst e
    simp only [Has, (List.getElem?_eq_some_iff.mp here).1, standing, here]
    simp [Call.standing]
  · simp [e]

namespace Queue

variable {who : Option Task}

theorem notMem (h : Queue c who) (told : c.told t = none) (relay : t.isRelay = false) :
    t ∉ c.ready := by
  intro mem
  obtain r | ⟨-, some⟩ := h.canGo t mem
  · exact absurd (relay.symm.trans r) nofun
  · exact absurd (told ▸ some) nofun

/-- Whoever is told something is live, unless it has its turn. -/
theorem live (h : Queue c who) (told : (c.told t).isSome) : (c.standing t).live := by
  obtain r | ⟨live, -⟩ := h.canGo t (h.queued t told)
  · cases t with
    | relay a => exact absurd told nofun
    | _ => cases r
  · exact live

theorem congr (h : Queue c who) (standing : ∀ t, c₁.standing t = c.standing t)
    (ready : c₁.ready = c.ready) (has : ∀ t, c.Has t → c₁.Has t) : Queue c₁ who := by
  have told t : c₁.told t = c.told t := by rw [Client.told, standing, Client.told]
  refine ⟨?_, ?_, ?_, ?_⟩
  · simpa only [ready, CanGo, standing, told] using h.canGo
  · simpa only [ready, told] using h.queued
  · simpa only [ready] using h.once
  · intro x hx
    obtain ⟨relay, here, live, none⟩ := h.apart x hx
    exact ⟨relay, has _ here, by rwa [standing], by rwa [told]⟩

theorem count_push (h : Queue c who) (told : c.told t = none) (relay : t.isRelay = false) (u : Task)
    (hu : u.isRelay = false) : (c.ready ++ [t]).count u ≤ 1 := by
  rw [List.count_append, List.count_singleton]
  by_cases e : t = u
  · subst e
    simp [List.count_eq_zero.mpr (h.notMem told relay)]
  · simpa [e] using h.once u hu

/-- A live activity is told something, and stands in the queue from then on. -/
theorem tell (h : Queue c who) (relay : t.isRelay = false) (live : (c.standing t).live)
    (standing : ∀ u, c₁.standing u =
      if u = t then { c.standing u with told := some s } else c.standing u)
    (ready : c₁.ready = if (c.told t).isNone then c.ready ++ [t] else c.ready)
    (has : ∀ t, c.Has t → c₁.Has t) : Queue c₁ who := by
  have mem u : u ∈ c₁.ready ↔ u ∈ c.ready ∨ u = t := by
    rw [ready]
    split
    · simp
    · next told =>
      have := h.queued t (by simpa [Option.isSome_iff_ne_none] using told)
      exact ⟨.inl, by rintro (hu | rfl) <;> assumption⟩
  have other {u} (hu : u ≠ t) : c₁.standing u = c.standing u := by rw [standing, if_neg hu]
  have self : c₁.standing t = { c.standing t with told := some s } := by rw [standing, if_pos rfl]
  refine ⟨fun u hu => ?_, fun u hu => ?_, fun u hu => ?_, fun x hx => ?_⟩
  · by_cases e : u = t
    · subst e
      exact .inr ⟨by rw [self]; exact live, by rw [Client.told, self]; rfl⟩
    · rw [CanGo, Client.told, other e]
      exact h.canGo u (((mem u).mp hu).resolve_right e)
  · by_cases e : u = t
    · exact (mem u).mpr (.inr e)
    · rw [Client.told, other e] at hu
      exact (mem u).mpr (.inl (h.queued u hu))
  · rw [ready]
    split
    · next none => exact h.count_push (by simpa using none) relay u hu
    · exact h.once u hu
  · obtain ⟨rel, here, dead, none⟩ := h.apart x hx
    have e : x ≠ t := fun e => absurd live (by rw [← e, dead]; nofun)
    exact ⟨rel, has _ here, by rw [other e]; exact dead, by rw [Client.told, other e]; exact none⟩

/-- A new activity, or one that had ended, stands in the queue. -/
theorem add (h : Queue c who) (relay : t.isRelay = false) (dead : (c.standing t).live = false)
    (apart : who ≠ some t) {r : Role}
    (standing : ∀ u, c₁.standing u = if u = t then ⟨true, some s, r⟩ else c.standing u)
    (ready : c₁.ready = c.ready ++ [t]) (has : ∀ t, c.Has t → c₁.Has t) : Queue c₁ who := by
  have none : c.told t = none := by
    refine Option.not_isSome_iff_eq_none.mp fun told => ?_
    exact absurd (h.live told) (by rw [dead]; nofun)
  have other {u} (hu : u ≠ t) : c₁.standing u = c.standing u := by rw [standing, if_neg hu]
  have self : c₁.standing t = ⟨true, some s, r⟩ := by rw [standing, if_pos rfl]
  refine ⟨fun u hu => ?_, fun u hu => ?_, fun u hu => ?_, fun x hx => ?_⟩
  · by_cases e : u = t
    · subst e
      exact .inr ⟨by rw [self], by rw [Client.told, self]; rfl⟩
    · rw [CanGo, Client.told, other e]
      exact h.canGo u (by simpa [ready, e] using hu)
  · rw [ready, List.mem_append, List.mem_singleton]
    by_cases e : u = t
    · exact .inr e
    · rw [Client.told, other e] at hu
      exact .inl (h.queued u hu)
  · rw [ready]
    exact h.count_push none relay u hu
  · obtain ⟨rel, here, dead, none⟩ := h.apart x hx
    have e : x ≠ t := fun e => apart (e ▸ hx)
    exact ⟨rel, has _ here, by rw [other e]; exact dead, by rw [Client.told, other e]; exact none⟩

/-- An activity that was told nothing comes to stand elsewhere, at the end of its turn or in
the course of it. -/
theorem put (h : Queue c (some t)) {b : Bool} {r : Role}
    (standing : ∀ u, c₁.standing u = if u = t ∧ c.Has u then ⟨b, none, r⟩ else c.standing u)
    (ready : c₁.ready = c.ready ∨ ∃ a, c₁.ready = c.ready ++ [.relay a])
    (has : ∀ t, c.Has t → c₁.Has t) (apart : who = none ∨ who = some t ∧ b = false) :
    Queue c₁ who := by
  obtain ⟨rel, here, dead, none⟩ := h.apart t rfl
  have told u : c₁.told u = c.told u := by
    rw [Client.told, standing]
    split
    · next e => rw [e.1, none]
    · rfl
  have mem {u} (hu : u.isRelay = false) : u ∈ c₁.ready ↔ u ∈ c.ready := by
    obtain e | ⟨a, e⟩ := ready
    · rw [e]
    · rw [e, List.mem_append, List.mem_singleton]
      refine ⟨?_, .inl⟩
      rintro (h | rfl)
      · exact h
      · cases hu
  refine ⟨fun u hu => ?_, fun u hu => ?_, fun u hu => ?_, fun y hy => ?_⟩
  · cases relay : u.isRelay with
    | true => exact .inl relay
    | false =>
      have hu := (mem relay).mp hu
      have e : u ≠ t := fun e => h.notMem none rel (e ▸ hu)
      rw [CanGo, told, standing, if_neg fun h => e h.1]
      exact h.canGo u hu
  · rw [told] at hu
    have relay : u.isRelay = false := by cases u <;> first | rfl | exact absurd hu nofun
    exact (mem relay).mpr (h.queued u hu)
  · obtain e | ⟨a, e⟩ := ready
    · rw [e]
      exact h.once u hu
    · rw [e, List.count_append, List.count_singleton]
      have : (Task.relay a == u) = false := by
        cases u <;> first | rfl | cases hu
      simpa [this] using h.once u hu
  · obtain rfl | ⟨rfl, rfl⟩ := apart
    · cases hy
    · obtain rfl := Option.some.inj hy
      refine ⟨rel, has _ here, ?_, by rw [told, none]⟩
      rw [standing, if_pos ⟨rfl, here⟩]

theorem prompt (h : Queue c who) : Queue (c.prompt t s) who := by
  cases heeds : c.heeds t with
  | false =>
    refine h.congr (fun u => ?_) (by simp [Client.prompt, heeds]) fun u hu => ?_
    · rw [standing_prompt, if_neg (by simp [heeds])]
    · exact has_prompt.mpr hu
  | true =>
    obtain ⟨live, none⟩ := live_of_heeds heeds
    refine h.tell (s := s) ?_ live (fun u => ?_) ?_ fun u hu => has_prompt.mpr hu
    · cases t <;> first | rfl | cases heeds
    · rw [standing_prompt]
      simp [heeds]
    · simp [Client.prompt, heeds, none]

end Queue

theorem WatcherPrompt.isPending {w : Watcher} (why : WatcherPrompt w s) : w.phase.isPending := by
  cases why with
  | arrival => rfl
  | cancelled pending => exact pending

theorem AttemptPrompt.isLive {a : Attempt} (why : AttemptPrompt a s) : a.phase.isLive := by
  cases why with
  | @step p teardown => cases p <;> first | rfl | cases teardown
  | @late p deadline => cases p <;> first | rfl | cases deadline
  | cancelled yields =>
    obtain ⟨p, o⟩ := a
    cases p <;> first | rfl | simp [Attempt.yields, AttemptPhase.isWaiting] at yields

theorem CallPrompt.isLive {q : Call} (why : CallPrompt c q s) : q.phase.isLive := by
  cases why with
  | @step p teardown => cases p <;> first | rfl | cases teardown
  | @late p deadline => cases p <;> first | rfl | cases deadline
  | cancelled yields =>
    obtain ⟨p, o⟩ := q
    cases p <;> first | rfl | simp [Call.yields, CallPhase.isWaiting] at yields
  | _ => rfl

theorem has_of_live (h : (c.standing t).live) : c.Has t := by
  cases t with
  | listener l => exact lt_of_listener h
  | drain l => exact lt_of_drain h
  | attempt n =>
    refine Nat.lt_of_not_le fun hn => ?_
    simp [standing, List.getElem?_eq_none hn, Standing.absent] at h
  | call n =>
    refine Nat.lt_of_not_le fun hn => ?_
    simp [standing, List.getElem?_eq_none hn, Standing.absent] at h
  | relay a => trivial

namespace Queue

/-- The first activity leaves the queue when its turn begins. -/
theorem begin (h : Queue c none) {rest : List Task} (first : c.ready = t :: rest)
    (relay : t.isRelay = false) {r : Role}
    (standing : ∀ u, c₁.standing u = if u = t ∧ c.Has u then ⟨false, none, r⟩ else c.standing u)
    (ready : c₁.ready = rest) (has : ∀ t, c.Has t → c₁.Has t) : Queue c₁ (some t) := by
  have here : c.Has t := by
    obtain e | ⟨live, -⟩ := h.canGo t (by simp [first])
    · exact absurd (relay.symm.trans e) nofun
    · exact has_of_live live
  have gone : t ∉ rest := by
    have := h.once t relay
    rw [first, List.count_cons_self] at this
    exact List.count_eq_zero.mp (by omega)
  have self : c₁.standing t = ⟨false, none, r⟩ := by rw [standing, if_pos ⟨rfl, here⟩]
  have other {u} (hu : u ≠ t) : c₁.standing u = c.standing u := by
    rw [standing, if_neg fun e => hu e.1]
  refine ⟨fun u hu => ?_, fun u hu => ?_, fun u hu => ?_, ?_⟩
  · rw [ready] at hu
    have e : u ≠ t := fun e => gone (e ▸ hu)
    rw [CanGo, told, other e]
    exact h.canGo u (by rw [first]; exact List.mem_cons_of_mem t hu)
  · by_cases e : u = t
    · rw [told, e, self] at hu
      cases hu
    · rw [told, other e] at hu
      rw [ready]
      exact (List.mem_cons.mp (first ▸ h.queued u hu)).resolve_left e
  · rw [ready]
    have := h.once u hu
    rw [first] at this
    exact Nat.le_trans (List.count_le_count_cons ..) this
  · rintro _ ⟨⟩
    exact ⟨relay, has t here, by rw [self], by rw [told, self]⟩

/-- A relay leaves the queue. -/
theorem skip (h : Queue c none) {a : Nat} {rest : List Task} (first : c.ready = .relay a :: rest)
    (standing : ∀ u, c₁.standing u = c.standing u) (ready : c₁.ready = rest) :
    Queue c₁ none := by
  refine ⟨fun u hu => ?_, fun u hu => ?_, fun u hu => ?_, nofun⟩
  · rw [CanGo, told, standing]
    exact h.canGo u (by rw [first, ← ready]; exact List.mem_cons_of_mem _ hu)
  · rw [told, standing] at hu
    have e : u ≠ .relay a := by
      rintro rfl
      cases hu
    rw [ready]
    exact (List.mem_cons.mp (first ▸ h.queued u hu)).resolve_left e
  · have := h.once u hu
    rw [first] at this
    rw [ready]
    exact Nat.le_trans (List.count_le_count_cons ..) this

end Queue

/-- Whose turn it is. -/
def turnOf (d : Option Doer) : Option Task := d.map Doer.task

theorem turnOf_none_ne : turnOf none ≠ some t := by simp [turnOf]

theorem Action.queue (act : Action hit c d c₁ d₁) (h : Queue c (turnOf d)) :
    Queue c₁ (turnOf d₁) := by
  have has := act.has
  have links {f : Link → Link} {l : Nat} (listener : ∀ k, (f k).listener = k.listener)
      (drain : ∀ k, (f k).drain = k.drain) : Queue (c.modifyLink l f) (turnOf d) :=
    h.congr (fun _ => standing_modifyLink listener drain) rfl fun _ => has_modifyLink.mpr
  have same (standing : c₁.standing = c.standing) (ready : c₁.ready = c.ready)
      (who : turnOf d₁ = turnOf d) : Queue c₁ (turnOf d₁) := by
    rw [who]
    exact h.congr (congrFun standing) ready has
  cases act with
  | flows l f _ => exact links (fun _ => rfl) (fun _ => rfl)
  | exits f alive left =>
    exact h.congr (fun _ => standing_modifyLink (fun _ => rfl) fun _ => rfl) rfl has
  | @tellsListener d l s why shut =>
    exact h.tell (t := .listener l) rfl why.isPending
      (fun _ => standing_tellListener (lt_of_listener why.isPending)) rfl has
  | @tellsDrain d l s why =>
    exact h.tell (t := .drain l) rfl why.isPending
      (fun _ => standing_tellDrain (lt_of_drain why.isPending)) rfl has
  | @tellsAttempt d n a s here why =>
    refine h.tell (t := .attempt n) rfl ?_ (fun _ => standing_tellAttempt here) ?_ has
    · simpa [standing, here, Attempt.standing] using why.isLive
    · simp [told, standing, here, tellAttempt, summon, Attempt.standing, putAttempt]
  | @tellsCall d n q s here why =>
    refine h.tell (t := .call n) rfl ?_ (fun _ => standing_tellCall here) ?_ has
    · simpa [standing, here, Call.standing] using why.isLive
    · simp [told, standing, here, tellCall, summon, Call.standing, putCall]
  | asks | mumbles => exact h.congr (fun _ => standing_register) rfl has
  | retracts expects => exact links (fun _ => rfl) (fun _ => rfl)
  | withdraws leaves => exact links (fun _ => rfl) (fun _ => rfl)
  | @answers d l id t o idle hears pending untold reply =>
    have forgot : Queue (c.forget l id) (turnOf d) := links (fun _ => rfl) fun _ => rfl
    exact forgot.prompt
  | drops idle hears pending told => exact links (fun _ => rfl) (fun _ => rfl)
  | @fails d l id t rest idle reason first =>
    have gone : Queue (c.modifyLink l fun k => { k with pending := rest }) (turnOf d) :=
      links (fun _ => rfl) fun _ => rfl
    exact gone.prompt
  | @rests x l task done go runs reading =>
    refine h.put (b := true) (r := .idle) (fun u => ?_) (.inl rfl) has (.inl rfl)
    rw [task]
    exact standing_restListener
  | @halts x l crash task clear same why =>
    refine h.put (b := false) (r := .idle) (fun u => ?_) (.inl rfl) has (.inr ⟨rfl, rfl⟩)
    rw [task]
    exact standing_haltListener
  | supersedes listens clear => exact links (fun _ => rfl) (fun _ => rfl)
  | renews listens waits => exact links (fun _ => rfl) (fun _ => rfl)
  | @restarts x n l task listens here ceased =>
    refine h.add (t := .listener l) rfl ceased ?_ (fun _ => standing_restartListener here) rfl has
    simp [turnOf, task]
  | @drains x n l task here absent =>
    refine h.add (t := .drain l) rfl ?_ ?_ (fun _ => standing_addDrain here) rfl has
    · simp [standing, Watcher.standing, absent, WatcherPhase.isPending]
    · simp [turnOf, task]
  | @drainRests x l task done =>
    refine h.put (b := true) (r := .idle) (fun u => ?_) (.inl rfl) has (.inl rfl)
    rw [task]
    exact standing_setDrain
  | @drainEnds x l task =>
    refine h.put (b := false) (r := .idle) (fun u => ?_) (.inl rfl) has (.inr ⟨rfl, rfl⟩)
    rw [task]
    exact standing_setDrain
  | shuts takes first => exact links (fun _ => rfl) (fun _ => rfl)
  | expectsEnd l => exact links (fun _ => rfl) (fun _ => rfl)
  | @connects x n task done starts cold ps p =>
    cases input : p.hasInput with
    | true =>
      refine h.add (t := .listener c.links.length) (s := .go) (r := .idle) rfl ?_ ?_
        (fun u => ?_) ?_ has
      · rw [standing, link_of_le (Nat.le_refl _)]
        rfl
      · simp [turnOf, task]
      · rw [standing_addLink, input]
        simp
      · simp [addLink, input]
    | false =>
      refine h.congr (fun u => ?_) (by simp [addLink, input]) has
      rw [standing_addLink, if_neg (by simp [input])]
  | @shares x sends cold ceased =>
    refine h.add (t := .attempt c.attempts.length) rfl ?_ ?_ (fun _ => standing_addAttempt) rfl has
    · simp [standing, Standing.absent]
    · rintro e
      obtain ⟨-, here, -⟩ := h.apart _ e
      exact absurd here (Nat.lt_irrefl _)
  | @parksAttempt x n p task role left waits ends =>
    refine h.put (b := true) (r := p.role) (fun u => ?_) (.inl rfl) has (.inl rfl)
    rw [task, standing_putAttempt, Attempt.standing, AttemptPhase.isLive_of_isWaiting waits]
  | @endsAttempt x n o task done =>
    refine h.put (b := false) (r := .idle) (fun u => ?_) (.inr ⟨n, rfl⟩) has (.inl rfl)
    rw [task]
    exact standing_settleAttempt
  | @succeeds x n l k id j task done starts asked agreed used up =>
    refine h.put (b := false) (r := .idle) (fun u => ?_) (.inr ⟨n, rfl⟩) has (.inl rfl)
    rw [task]
    exact standing_settleAttempt
  | @parksCall x n p task role left waits ends stops go joins =>
    refine h.put (b := true) (r := p.role) (fun u => ?_) (.inl rfl) has (.inl rfl)
    rw [task, standing_putCall, Call.standing, CallPhase.isLive_of_isWaiting waits]
  | @endsCall x n o task done reset proper =>
    refine h.put (b := false) (r := .idle) (fun u => ?_) (.inl rfl) has (.inl rfl)
    rw [task]
    exact standing_putCall
  | leaves done told ceased => exact ⟨h.canGo, h.queued, h.once, fun _ turn => absurd turn turnOf_none_ne⟩
  | calls job fits =>
    refine h.add (t := .call c.calls.length) rfl ?_ turnOf_none_ne (fun _ => standing_addCall) rfl has
    simp [standing, Standing.absent]
  | takes how => cases how <;> exact same rfl rfl rfl
  | _ => exact same rfl rfl rfl

theorem Path.queue (path : Path hit c d ls c₁ d₁) (h : Queue c (turnOf d)) :
    Queue c₁ (turnOf d₁) := by
  induction path with
  | nil => exact h
  | step act _ ih => exact ih (act.queue h)
  | @loses c d l id t ls c₂ d₂ idle pending untold _ ih =>
    refine ih (h.congr (fun u => ?_) rfl fun _ => has_modifyLink.mpr)
    exact standing_modifyLink (fun _ => rfl) fun _ => rfl

theorem Begins.queue {rest : List Task} (begins : Begins c rest c₁ d) (h : Queue c none) :
    Queue c₁ (turnOf d) := by
  cases begins with
  | @listener l s p ready here pending =>
    refine h.begin ready rfl (r := .idle) (fun u => ?_) rfl fun _ => has_modifyLink.mpr
    rw [setListener, standing_modifyListener]
    · by_cases e : p = .fresh ∧ s = .cancelled
      · rw [if_pos e]
        rfl
      · rw [if_neg e]
        rfl
    · exact fun _ => rfl
  | @drain l s p ready here pending =>
    refine h.begin ready rfl (r := .idle) (fun u => ?_) rfl fun _ => has_modifyLink.mpr
    exact standing_setDrain
  | @attempt n p s ready here live =>
    refine h.begin ready rfl (r := .idle) (fun u => ?_) rfl fun t ht => ?_
    · exact standing_putAttempt
    · cases t <;> first | exact ht | simpa [Has, putAttempt] using ht
  | @call n p s ready here live =>
    refine h.begin ready rfl (r := .idle) (fun u => ?_) rfl fun t ht => ?_
    · exact standing_putCall
    · cases t <;> first | exact ht | simpa [Has, putCall] using ht
  | relay ready => exact h.skip ready (fun _ => rfl) rfl

end LspGateway.Client
