import LspGateway.Proofs.Client.Action

/-! # Waking and cancelling as actions

Whoever is woken or cancelled is told something by one action. An activity that
cannot be told anything is left alone.
-/

namespace LspGateway.Client

variable {hit : Nat → Prop} {c c₁ c₂ : Client} {d d₁ d₂ : Option Doer} {ls ms : List Loss}
  {l k n m : Nat} {s : Signal} {t : Task}

/-! ## Series of actions -/

theorem Path.one (act : Action hit c d c₁ d₁) : Path hit c d [] c₁ d₁ := .step act (.nil c₁ d₁)

theorem Path.trans (p : Path hit c d ls c₁ d₁) (q : Path hit c₁ d₁ ms c₂ d₂) :
    Path hit c d (ls ++ ms) c₂ d₂ := by
  induction p with
  | nil => exact q
  | step act _ ih => exact .step act (ih q)
  | loses idle pending untold _ ih => exact .loses idle pending untold (ih q)

/-- What goes on when nothing was lost before. -/
theorem Path.next (p : Path hit c d [] c₁ d₁) (q : Path hit c₁ d₁ ms c₂ d₂) : Path hit c d ms c₂ d₂ :=
  p.trans q

theorem Path.last (p : Path hit c d ls c₁ d₁) (act : Action hit c₁ d₁ c₂ d₂) : Path hit c d ls c₂ d₂ := by
  simpa using p.trans (.one act)

theorem summon_eq {told : Option Signal} :
    c.summon t told = if told.isNone then c.push t else c := by
  unfold summon
  split <;> rfl

theorem path_log (level : Log.Level) (text : String) : Path hit c d [] (c.log level text) d :=
  .one (.shows rfl)

/-! ## Watchers -/

theorem wakeListener_eq : c.wakeListener l = c ∨
    (c.link l).listener = ⟨.waiting, none⟩ ∧ c.wakeListener l = c.tellListener l .go := by
  unfold wakeListener
  split
  · next h =>
    refine .inr ⟨h, ?_⟩
    rw [tellListener, h, summon, modifyLink_congr (f := fun k => { k with listener := ⟨.waiting, some .go⟩ })
      (g := fun k => { k with listener := ⟨k.listener.phase, some .go⟩ }) (by rw [h])]
    rfl
  · exact .inl rfl

theorem wakeDrain_eq : c.wakeDrain l = c ∨
    (c.link l).drain = ⟨.waiting, none⟩ ∧ c.wakeDrain l = c.tellDrain l .go := by
  unfold wakeDrain
  split
  · next h =>
    refine .inr ⟨h, ?_⟩
    rw [tellDrain, h, summon, modifyLink_congr (f := fun k => { k with drain := ⟨.waiting, some .go⟩ })
      (g := fun k => { k with drain := ⟨k.drain.phase, some .go⟩ }) (by rw [h])]
    rfl
  · exact .inl rfl

theorem path_wakeListener (near : Reaches c d l) : Path hit c d [] (c.wakeListener l) d := by
  obtain e | ⟨h, e⟩ := wakeListener_eq (c := c) (l := l)
  · rw [e]
    exact .nil c d
  · rw [e]
    exact .one (.tellsListener (by rw [h]; exact .arrival) nofun (.inr near))

theorem path_wakeDrain : Path hit c d [] (c.wakeDrain l) d := by
  obtain e | ⟨h, e⟩ := wakeDrain_eq (c := c) (l := l)
  · rw [e]
    exact .nil c d
  · rw [e]
    exact .one (.tellsDrain (by rw [h]; exact .arrival))

/-- A watcher that is told to end is one that has begun to read or will. -/
theorem Watcher.cancel_eq (w : Watcher) :
    w.cancel = if w.phase.isPending then (⟨w.phase, some .cancelled⟩, w.signal.isNone)
      else (w, false) := by
  obtain ⟨phase, signal⟩ := w
  cases phase <;> rfl

theorem cancelListener_eq (h : (c.link l).listener.phase.isPending) :
    c.cancelListener l = c.tellListener l .cancelled := by
  simp only [cancelListener, tellListener, summon_eq, Watcher.cancel_eq, h, if_true]
  rw [modifyLink_congr (g := fun k => { k with listener := ⟨k.listener.phase, some .cancelled⟩ })
    rfl]

theorem cancelDrain_eq (h : (c.link l).drain.phase.isPending) :
    c.cancelDrain l = c.tellDrain l .cancelled := by
  simp only [cancelDrain, tellDrain, summon_eq, Watcher.cancel_eq, h, if_true]
  rw [modifyLink_congr (g := fun k => { k with drain := ⟨k.drain.phase, some .cancelled⟩ }) rfl]

theorem path_cancelListener (h : (c.link l).listener.phase.isPending) (shut : (c.link l).closed) :
    Path hit c d [] (c.cancelListener l) d := by
  rw [cancelListener_eq h]
  exact .one (.tellsListener (.cancelled h) (fun _ => shut) (.inl rfl))

theorem path_cancelDrain (h : (c.link l).drain.phase.isPending) :
    Path hit c d [] (c.cancelDrain l) d := by
  rw [cancelDrain_eq h]
  exact .one (.tellsDrain (.cancelled h))

/-! ## Attempts and calls -/

theorem wakeAttempt_eq :
    c.wakeAttempt n s = c ∨ ∃ p : AttemptPhase, c.attempts[n]? = some ⟨p, none⟩ ∧ p.isWaiting ∧
      c.wakeAttempt n s = c.tellAttempt n ⟨p, none⟩ s := by
  unfold wakeAttempt
  split
  · next p h =>
    split
    · next waits => exact .inr ⟨p, h, waits, rfl⟩
    · exact .inl rfl
  · exact .inl rfl

theorem wakeCall_eq :
    c.wakeCall n s = c ∨ ∃ p : CallPhase, c.calls[n]? = some ⟨p, none⟩ ∧ p.isWaiting ∧
      c.wakeCall n s = c.tellCall n ⟨p, none⟩ s := by
  unfold wakeCall
  split
  · next p h =>
    split
    · next waits => exact .inr ⟨p, h, waits, rfl⟩
    · exact .inl rfl
  · exact .inl rfl

theorem path_wakeAttempt
    (h : ∀ p : AttemptPhase, c.attempts[n]? = some ⟨p, none⟩ → p.isWaiting →
      AttemptPrompt ⟨p, none⟩ s) : Path hit c d [] (c.wakeAttempt n s) d := by
  obtain e | ⟨p, here, waits, e⟩ := wakeAttempt_eq (c := c) (n := n) (s := s)
  · rw [e]
    exact .nil c d
  · rw [e]
    exact .one (.tellsAttempt here (h p here waits))

theorem path_wakeCall (mild : s ≠ .cancelled)
    (h : ∀ p : CallPhase, c.calls[n]? = some ⟨p, none⟩ → p.isWaiting →
      CallPrompt c ⟨p, none⟩ s) : Path hit c d [] (c.wakeCall n s) d := by
  obtain e | ⟨p, here, waits, e⟩ := wakeCall_eq (c := c) (n := n) (s := s)
  · rw [e]
    exact .nil c d
  · rw [e]
    exact .one (.tellsCall here (h p here waits) fun e => absurd e mild)

@[simp] theorem Attempt.phase_prompt (a : Attempt) : (a.prompt s).phase = a.phase := by
  unfold prompt
  split <;> rfl

@[simp] theorem Call.phase_prompt (k : Call) : (k.prompt s).phase = k.phase := by
  unfold prompt
  split <;> rfl

theorem Attempt.prompt_prompt (a : Attempt) : (a.prompt s).prompt s = a.prompt s := by
  obtain ⟨p, o⟩ := a
  unfold prompt
  grind

theorem Call.prompt_prompt (k : Call) : (k.prompt s).prompt s = k.prompt s := by
  obtain ⟨p, o⟩ := k
  unfold prompt
  grind

theorem wakeAttempt_eq_prompt : c.wakeAttempt n s = c.prompt (.attempt n) s := by
  unfold wakeAttempt prompt
  split
  · next p h =>
    rw [show c.heeds (.attempt n) = p.isWaiting by simp [heeds, h]]
    cases waits : p.isWaiting with
    | false =>
      have same : c.attempts.modify n (.prompt s) = c.attempts :=
        modify_self fun _ h' => by simp_all [Attempt.prompt]
      simp [same]
    | true =>
      have set : c.attempts.set n ⟨p, some s⟩ = c.attempts.modify n (.prompt s) := by
        rw [List.set_eq_modify]
        exact modify_congr fun _ h' => by simp_all [Attempt.prompt]
      simp [push, set]
  · next h =>
    have told : ∀ a, c.attempts[n]? = some a → a.signal.isNone = false := by
      rintro ⟨p, _ | o⟩ ha
      · exact absurd ha (h p)
      · rfl
    have same : c.attempts.modify n (.prompt s) = c.attempts :=
      modify_self fun a ha => by simp [Attempt.prompt, told a ha]
    have heeds : c.heeds (.attempt n) = false := by
      simp only [heeds]
      cases ha : c.attempts[n]? with
      | none => rfl
      | some a => simp [told a ha]
    simp [same, heeds]

theorem wakeCall_eq_prompt : c.wakeCall n s = c.prompt (.call n) s := by
  unfold wakeCall prompt
  split
  · next p h =>
    rw [show c.heeds (.call n) = p.isWaiting by simp [heeds, h]]
    cases waits : p.isWaiting with
    | false =>
      have same : c.calls.modify n (.prompt s) = c.calls :=
        modify_self fun _ h' => by simp_all [Call.prompt]
      simp [same]
    | true =>
      have set : c.calls.set n ⟨p, some s⟩ = c.calls.modify n (.prompt s) := by
        rw [List.set_eq_modify]
        exact modify_congr fun _ h' => by simp_all [Call.prompt]
      simp [push, set]
  · next h =>
    have told : ∀ a, c.calls[n]? = some a → a.signal.isNone = false := by
      rintro ⟨p, _ | o⟩ ha
      · exact absurd ha (h p)
      · rfl
    have same : c.calls.modify n (.prompt s) = c.calls :=
      modify_self fun a ha => by simp [Call.prompt, told a ha]
    have heeds : c.heeds (.call n) = false := by
      simp only [heeds]
      cases ha : c.calls[n]? with
      | none => rfl
      | some a => simp [told a ha]
    simp [same, heeds]

theorem wake_eq_prompt : c.wake t s = c.prompt t s := by
  cases t with
  | attempt n => exact wakeAttempt_eq_prompt
  | call n => exact wakeCall_eq_prompt
  | _ => rfl

/-- Nothing but the attempts and the queue changes when an attempt is woken. -/
theorem wakeAttempt_frame : ∃ ts, c.wakeAttempt n s =
    { c with attempts := c.attempts.modify n (.prompt s), ready := ts } :=
  ⟨_, wakeAttempt_eq_prompt⟩

theorem wakeCall_frame : ∃ ts, c.wakeCall n s =
    { c with calls := c.calls.modify n (.prompt s), ready := ts } :=
  ⟨_, wakeCall_eq_prompt⟩

theorem foldl_wakeAttempt (ns : List Nat) : ∃ as ts,
    ns.foldl (fun c n => c.wakeAttempt n s) c = { c with attempts := as, ready := ts } ∧
      ∀ m : Nat, as[m]? = c.attempts[m]?.map fun a => if m ∈ ns then a.prompt s else a := by
  induction ns generalizing c with
  | nil => exact ⟨_, _, rfl, by simp⟩
  | cons n ns ih =>
    obtain ⟨ts, e⟩ := wakeAttempt_frame (c := c) (n := n) (s := s)
    obtain ⟨as, ts', e', h⟩ := ih (c := c.wakeAttempt n s)
    refine ⟨as, ts', ?_, fun m => ?_⟩
    · rw [List.foldl_cons, e', e]
    · rw [h m, e, List.getElem?_modify]
      rcases Decidable.em (n = m) with rfl | hm
      · cases c.attempts[n]? <;> simp [Attempt.prompt_prompt]
      · cases c.attempts[m]? <;> simp [hm, Ne.symm hm]

theorem foldl_wakeCall (ns : List Nat) : ∃ ks ts,
    ns.foldl (fun c n => c.wakeCall n s) c = { c with calls := ks, ready := ts } ∧
      ∀ m : Nat, ks[m]? = c.calls[m]?.map fun k => if m ∈ ns then k.prompt s else k := by
  induction ns generalizing c with
  | nil => exact ⟨_, _, rfl, by simp⟩
  | cons n ns ih =>
    obtain ⟨ts, e⟩ := wakeCall_frame (c := c) (n := n) (s := s)
    obtain ⟨ks, ts', e', h⟩ := ih (c := c.wakeCall n s)
    refine ⟨ks, ts', ?_, fun m => ?_⟩
    · rw [List.foldl_cons, e', e]
    · rw [h m, e, List.getElem?_modify]
      rcases Decidable.em (n = m) with rfl | hm
      · cases c.calls[n]? <;> simp [Call.prompt_prompt]
      · cases c.calls[m]? <;> simp [hm, Ne.symm hm]

theorem wakeAttempts_frame (p : AttemptPhase → Bool) : ∃ ts, c.wakeAttempts p s =
    { c with
      attempts := c.attempts.map fun a => if p a.phase then a.prompt s else a
      ready := ts } := by
  obtain ⟨as, ts, e, h⟩ := foldl_wakeAttempt (c := c) (s := s)
    ((List.range c.attempts.length).filter fun n =>
      (c.attempts[n]?.map fun a => p a.phase).getD false)
  refine ⟨ts, e.trans ?_⟩
  suffices as = c.attempts.map fun a => if p a.phase then a.prompt s else a by rw [this]
  apply List.ext_getElem?
  intro m
  rw [h m, List.getElem?_map]
  cases hm : c.attempts[m]? with
  | none => rfl
  | some a =>
    obtain ⟨lt, e⟩ := List.getElem?_eq_some_iff.mp hm
    simp [lt, e]

theorem wakeCalls_frame (p : CallPhase → Bool) : ∃ ts, c.wakeCalls p s =
    { c with calls := c.calls.map fun k => if p k.phase then k.prompt s else k, ready := ts } := by
  obtain ⟨ks, ts, e, h⟩ := foldl_wakeCall (c := c) (s := s)
    ((List.range c.calls.length).filter fun n =>
      (c.calls[n]?.map fun k => p k.phase).getD false)
  refine ⟨ts, e.trans ?_⟩
  suffices ks = c.calls.map fun k => if p k.phase then k.prompt s else k by rw [this]
  apply List.ext_getElem?
  intro m
  rw [h m, List.getElem?_map]
  cases hm : c.calls[m]? with
  | none => rfl
  | some k =>
    obtain ⟨lt, e⟩ := List.getElem?_eq_some_iff.mp hm
    simp [lt, e]

theorem wakeTeardowns_frame (p : Teardown → Bool) : ∃ ts, c.wakeTeardowns p s =
    { c with
      attempts := c.attempts.map fun a => if a.phase.teardown?.any p then a.prompt s else a
      calls := c.calls.map fun k => if k.phase.teardown?.any p then k.prompt s else k
      ready := ts } := by
  obtain ⟨ts, e⟩ := wakeCalls_frame (c := c) (s := s) fun q => q.teardown?.any p
  obtain ⟨ts', e'⟩ := wakeAttempts_frame (s := s)
    (c := c.wakeCalls (fun q => q.teardown?.any p) s) fun q => q.teardown?.any p
  exact ⟨ts', by rw [wakeTeardowns, e', e]⟩

@[simp] theorem AttemptPhase.teardown_role (q : AttemptPhase) : q.role.teardown = q.teardown? := by
  cases q <;> rfl

@[simp] theorem CallPhase.teardown_role (q : CallPhase) : q.role.teardown = q.teardown? := by
  cases q <;> rfl

theorem AttemptPhase.isWaiting_of_teardown {q : AttemptPhase} (h : q.teardown?.isSome) :
    q.isWaiting := by
  cases q <;> simp_all [teardown?, isWaiting]

theorem CallPhase.isWaiting_of_teardown {q : CallPhase} (h : q.teardown?.isSome) :
    q.isWaiting := by
  cases q <;> simp_all [teardown?, isWaiting]

theorem Attempt.signal_prompt {a : Attempt} (h : a.phase.isWaiting) :
    (a.prompt s).signal.isSome := by
  obtain ⟨q, o⟩ := a
  cases o <;> simp_all [prompt]

theorem Call.signal_prompt {k : Call} (h : k.phase.isWaiting) :
    (k.prompt s).signal.isSome := by
  obtain ⟨q, o⟩ := k
  cases o <;> simp_all [prompt]

/-- All teardowns in question are told when they are woken. -/
theorem told_wakeTeardowns {p : Teardown → Bool} {u : Teardown}
    (h : ((c.wakeTeardowns p s).role t).teardown = some u) (hu : p u) :
    ((c.wakeTeardowns p s).told t).isSome := by
  obtain ⟨ts, e⟩ := wakeTeardowns_frame (c := c) (s := s) p
  rw [e] at h ⊢
  unfold role told standing at *
  cases t with
  | attempt n =>
    simp only [List.getElem?_map] at h ⊢
    cases ha : c.attempts[n]? with
    | none => simp [ha, Standing.absent, Role.idle] at h
    | some a =>
      simp only [ha, Option.map_some, Option.getD_some, Attempt.standing] at h ⊢
      have hq : a.phase.teardown? = some u := by split at h <;> simpa using h
      rw [if_pos (by simp [hq, hu])]
      exact Attempt.signal_prompt (AttemptPhase.isWaiting_of_teardown (by simp [hq]))
  | call n =>
    simp only [List.getElem?_map] at h ⊢
    cases hk : c.calls[n]? with
    | none => simp [hk, Standing.absent, Role.idle] at h
    | some k =>
      simp only [hk, Option.map_some, Option.getD_some, Call.standing] at h ⊢
      have hq : k.phase.teardown? = some u := by split at h <;> simpa using h
      rw [if_pos (by simp [hq, hu])]
      exact Call.signal_prompt (CallPhase.isWaiting_of_teardown (by simp [hq]))
  | listener l => simp [Watcher.standing, Role.idle] at h
  | drain l => simp [Watcher.standing, Role.idle] at h
  | relay a => simp [Standing.absent, Role.idle] at h

/-! Those that are woken are the ones that satisfy a condition, since phases stay as they
are. -/

theorem path_foldl_wakeAttempt {p : AttemptPhase → Bool}
    (why : ∀ q : AttemptPhase, p q → q.isWaiting → AttemptPrompt ⟨q, none⟩ s) (ns : List Nat)
    (h : ∀ n ∈ ns, ∀ a, c.attempts[n]? = some a → p a.phase) :
    Path hit c d [] (ns.foldl (fun c n => c.wakeAttempt n s) c) d := by
  induction ns generalizing c with
  | nil => exact .nil c d
  | cons n ns ih =>
    have first : Path hit c d [] (c.wakeAttempt n s) d :=
      path_wakeAttempt fun q hq waits => why q (h n (by simp) _ hq) waits
    refine first.next (ih fun m hm a ha => ?_)
    obtain ⟨ts, e⟩ := wakeAttempt_frame (c := c) (n := n) (s := s)
    rw [e, List.getElem?_modify] at ha
    obtain ⟨b, hb, rfl⟩ := Option.map_eq_some_iff.mp ha
    have := h m (List.mem_cons_of_mem n hm) b hb
    split <;> simpa using this

theorem CallPrompt.congr {q : Call} (h : c₁.attempts = c.attempts) (why : CallPrompt c q s) :
    CallPrompt c₁ q s := by
  have same n : c₁.attemptOutcome? n = c.attemptOutcome? n := by simp [attemptOutcome?, h]
  cases why with
  | step teardown => exact .step teardown
  | late deadline => exact .late deadline
  | relayed ended => exact .relayed ((same _).trans ended)
  | stopped ended => exact .stopped (by rwa [same])
  | refused => exact .refused
  | cancelled yields => exact .cancelled yields

theorem path_foldl_wakeCall {p : CallPhase → Bool} (mild : s ≠ .cancelled)
    (why : ∀ q : CallPhase, p q → q.isWaiting → CallPrompt c ⟨q, none⟩ s) (ns : List Nat)
    (h : ∀ n ∈ ns, ∀ k, c.calls[n]? = some k → p k.phase) :
    Path hit c d [] (ns.foldl (fun c n => c.wakeCall n s) c) d := by
  induction ns generalizing c with
  | nil => exact .nil c d
  | cons n ns ih =>
    have first : Path hit c d [] (c.wakeCall n s) d :=
      path_wakeCall mild fun q hq waits => why q (h n (by simp) _ hq) waits
    obtain ⟨ts, e⟩ := wakeCall_frame (c := c) (n := n) (s := s)
    refine first.next (ih (fun q hq waits => (why q hq waits).congr (by rw [e]))
      fun m hm k hk => ?_)
    rw [e, List.getElem?_modify] at hk
    obtain ⟨b, hb, rfl⟩ := Option.map_eq_some_iff.mp hk
    have := h m (List.mem_cons_of_mem n hm) b hb
    split <;> simpa using this

theorem path_wakeAttempts {p : AttemptPhase → Bool}
    (why : ∀ q : AttemptPhase, p q → q.isWaiting → AttemptPrompt ⟨q, none⟩ s) :
    Path hit c d [] (c.wakeAttempts p s) d := by
  refine path_foldl_wakeAttempt why _ fun n hn a ha => ?_
  simpa [ha] using (List.mem_filter.mp hn).2

theorem path_wakeCalls {p : CallPhase → Bool} (mild : s ≠ .cancelled)
    (why : ∀ q : CallPhase, p q → q.isWaiting → CallPrompt c ⟨q, none⟩ s) :
    Path hit c d [] (c.wakeCalls p s) d := by
  refine path_foldl_wakeCall mild why _ fun n hn k hk => ?_
  simpa [hk] using (List.mem_filter.mp hn).2

theorem path_wakeTeardowns (p : Teardown → Bool) : Path hit c d [] (c.wakeTeardowns p .go) d := by
  have calls : Path hit c d [] (c.wakeCalls (fun q => q.teardown?.any p) .go) d :=
    path_wakeCalls nofun fun q hq _ => .step (Option.isSome_of_any hq)
  exact calls.next (path_wakeAttempts fun q hq _ => .step (Option.isSome_of_any hq))

/-- An attempt that was cancelled goes on only with what is ending anyway. -/
theorem halts_cancelAttempt : (c.cancelAttempt n).Halts n := by
  unfold cancelAttempt
  split
  · next a here =>
    have lt : n < c.attempts.length := (List.getElem?_eq_some_iff.mp here).1
    split
    · next yields =>
      intro b hb
      have told : b = ⟨a.phase, some .cancelled⟩ := by
        split at hb <;> simpa [push, lt, eq_comm] using hb
      exact .inl (by rw [told])
    · next firm =>
      intro b hb
      obtain rfl := Option.some.inj (here.symm.trans hb)
      exact .inr (by simpa using firm)
  · next none' =>
    intro b hb
    exact absurd (none'.symm.trans hb) nofun

theorem path_cancelAttempt : Path hit c d [] (c.cancelAttempt n) d := by
  unfold cancelAttempt
  split
  · next a here =>
    split
    · next yields =>
      have told : Path hit c d [] (c.tellAttempt n a .cancelled) d :=
        .one (.tellsAttempt here (.cancelled yields))
      rwa [tellAttempt, summon_eq] at told
    · exact .nil c d
  · exact .nil c d

theorem path_cancelCall (struck : n < c.calls.length → hit n) :
    Path hit c none [] (c.cancelCall n) none := by
  unfold cancelCall
  split
  · exact path_cancelAttempt
  · next k _ here =>
    split
    · next yields =>
      have told : Path hit c none [] (c.tellCall n k .cancelled) none :=
        .one (.tellsCall here (.cancelled yields) fun _ =>
          ⟨rfl, struck (List.getElem?_eq_some_iff.mp here).1⟩)
      rwa [tellCall, summon_eq] at told
    · exact .nil c none
  · exact .nil c none

end LspGateway.Client
