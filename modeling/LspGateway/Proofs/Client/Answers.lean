import LspGateway.Proofs.Client.Stopping

/-! # What becomes of a call that sends

Over a mere connection every call that sends something ends once its listener has
ended, unless its request was lost.
-/

namespace LspGateway.Client

variable {hit : Nat → Prop} {c c₁ : Client} {d d₁ : Option Doer} {ls lost : List Loss}
  {x y : Doer} {l k n id : Nat} {t u : Task} {s : Signal} {o : Outcome}

/-! ## Mere connections -/

/-- A connection that no client uses. -/
structure Mere (c : Client) (d : Option Doer) : Prop where
  observed : c.audience ≠ .client
  links : c.links.length = 1
  attempts : c.attempts = []
  ready : c.state = .ready
  used : c.held.connection = some 0
  /-- No call waits for an attempt. -/
  alone : ∀ (n : Nat) (k : Call) a sends, c.calls[n]? = some k → k.phase ≠ .joined a sends
  told : ∀ t o, c.told t = some (.answered o) → o.isProper
  signal : ∀ x o, d = some x → x.signal = .answered o → o.isProper

namespace Mere

theorem usableLink (h : Mere c d) : c.usableLink = .ok 0 := by
  rw [Client.usableLink, h.used, h.ready]
  rfl

theorem ne_attempt (h : Mere c (some x)) (q : Queue c (some x.task)) : x.task ≠ .attempt n := by
  intro task
  have here := (q.apart _ rfl).2.1
  rw [task] at here
  exact absurd here (by simp [Has, h.attempts])

theorem errand_ne (h : Mere c d) (b : Bounds c d) (t : Task) : (roleBy c d t).errand ≠ .disposes :=
  fun e => h.observed (b.owns t e)

/-- Nobody disposes a mere connection. -/
theorem ne_disposes (h : Mere c (some x)) (b : Bounds c (some x)) : x.role.errand ≠ .disposes := by
  have := h.errand_ne b x.task
  rwa [roleBy_self rfl] at this

theorem not_disposes (h : Mere c (some x)) (b : Bounds c (some x)) : x.role.disposes ≠ true := by
  intro disposes
  have := b.disposes x.task (by rwa [roleBy_self rfl])
  exact h.errand_ne b x.task this

end Mere

/-- What an activity is told by way of an answer over a mere connection. -/
theorem Action.told_proper (act : Action hit c d c₁ d₁) (q : Queue c (turnOf d)) (b : Bounds c d)
    (h : Mere c d) (t : Task) (o : Outcome) (answer : c₁.told t = some (.answered o)) :
    o.isProper := by
  by_cases apart : turnOf d = some t
  · obtain ⟨x, rfl, rfl⟩ := Option.map_eq_some_iff.mp apart
    rw [act.told_own q] at answer
    cases answer
  · obtain same | ⟨s, same, why⟩ | ⟨-, r, same⟩ := act.stirs apart
    · rw [told, same] at answer
      exact h.told t o answer
    · rw [told, same] at answer
      obtain rfl := Option.some.inj answer
      cases why with
      | listener why => exact absurd rfl (why.ne_answered o)
      | drain why => exact absurd rfl (why.ne_answered o)
      | attempt here why => exact absurd rfl (why.ne_answered o)
      | @call n k s here why =>
        cases why with
        | relayed ended => simp [attemptOutcome?, h.attempts] at ended
        | refused =>
          refine absurd ?_ (h.errand_ne b (.call n))
          rw [roleBy_ne apart]
          simp [role, standing, here, Call.standing, CallPhase.role, Role.disposing]
      | answer pending heeds good => exact good.1
    · rw [told, same] at answer
      cases answer

theorem Action.links_length (act : Action hit c d c₁ d₁) (quiet : ∀ x n, d = some x → x.task ≠ .attempt n) :
    c₁.links.length = c.links.length := by
  cases act with
  | connects task => exact absurd task (quiet _ _ rfl)
  | takes how => rw [how.frame]
  | _ => first | rfl | exact links_length_modifyLink _

theorem Action.mere (act : Action hit c d c₁ d₁) (q : Queue c (turnOf d)) (b : Bounds c d)
    (h : Mere c d) : Mere c₁ d₁ := by
  have signal (x : Doer) (o : Outcome) (e : d₁ = some x) (answer : x.signal = .answered o) :
      o.isProper := by
    subst e
    cases d with
    | none => exact absurd act.none_eq nofun
    | some y => exact h.signal y o rfl (act.task_eq.2.1 ▸ answer)
  have told := act.told_proper q b h
  have alone (n : Nat) (k : Call) (a : Nat) (sends : List Send) (after : c₁.calls[n]? = some k) :
      k.phase ≠ .joined a sends := by
    obtain ⟨s, before, -⟩ | ⟨x, -, -, -, -, -, joins⟩ | ⟨job, -, rfl⟩ := act.call_cases after
    · exact h.alone n ⟨k.phase, s⟩ a sends before
    · exact fun e => (joins a sends e).1 h.ready
    · nofun
  have links : c₁.links.length = 1 := by
    rw [act.links_length, h.links]
    rintro x n rfl
    exact h.ne_attempt q
  cases act with
  | spends task | drains task | startsUp task | turnsBack task | fallsBack task
  | parksAttempt task | endsAttempt task | succeeds task | connects task =>
    exact absurd task (h.ne_attempt q)
  | givesUp hears who => exact absurd who h.observed
  | resets who => exact absurd who (h.not_disposes b)
  | shares sends cold ceased => exact absurd h.ready cold
  | takes how =>
    cases how with
    | releases idle who =>
      obtain ⟨n, task⟩ | disposes := who
      · exact absurd task (h.ne_attempt q)
      · exact absurd disposes (h.not_disposes b)
    | _ => exact ⟨h.observed, links, h.attempts, h.ready, h.used, alone, told, signal⟩
  | @answers d l id t o idle hears pending untold reply =>
    refine ⟨h.observed, links, ?_, h.ready, h.used, alone, told, signal⟩
    cases t <;> simp [prompt, forget, modifyLink, h.attempts]
  | @fails d l id t rest idle reason first =>
    refine ⟨h.observed, links, ?_, h.ready, h.used, alone, told, signal⟩
    cases t <;> simp [prompt, modifyLink, h.attempts]
  | tellsAttempt here => simp [h.attempts] at here
  | disposes errand => exact absurd errand (h.ne_disposes b)
  | detaches errand => exact absurd errand (h.ne_disposes b)
  | _ => exact ⟨h.observed, links, h.attempts, h.ready, h.used, alone, told, signal⟩

theorem Mere.lose (h : Mere c d) : Mere (c.forget l id) d := by
  refine ⟨h.observed, ?_, h.attempts, h.ready, h.used, h.alone, fun t o answer => ?_, h.signal⟩
  · exact (links_length_modifyLink _).trans h.links
  · rw [Client.told, standing_forget] at answer
    exact h.told t o answer

theorem Begins.mere {rest : List Task} (begins : Begins c rest c₁ d) (q : Queue c none)
    (h : Mere c none) : Mere c₁ d := by
  obtain ⟨held, audience, state, -, links⟩ := begins.frame
  refine ⟨audience ▸ h.observed, links.trans h.links, ?_, state.trans h.ready,
    (congrArg Held.connection held).trans h.used, ?_, fun t o answer => ?_, fun x o e answer => ?_⟩
  · cases begins with
    | attempt ready here => simp [h.attempts] at here
    | _ => exact h.attempts
  · cases begins with
    | @call m p s ready here live =>
      intro n k a sends after
      simp only [putCall, List.getElem?_set] at after
      split at after
      · split at after
        · obtain rfl := Option.some.inj after
          simp
        · cases after
      · exact h.alone n k a sends after
    | _ => exact h.alone
  · cases d with
    | none =>
      cases begins
      exact h.told t o answer
    | some x =>
      obtain ⟨-, -, -, other⟩ := begins.turn
      by_cases e : t = x.task
      · rw [e, ((begins.queue q).apart x.task rfl).2.2.2] at answer
        cases answer
      · rw [told, other t e] at answer
        exact h.told t o answer
  · subst e
    exact h.told x.task o (begins.turn.1.trans (congrArg some answer))

theorem invariant_mere : Invariant Always fun c d _ => Mere c d :=
  ⟨fun sound h act => act.mere sound.queue sound.bounds h, fun _ h _ _ _ => h.lose,
    fun _ sound h begins => begins.mere sound.queue h⟩

/-! ## Calls that wait -/

/-- A call that was told nothing waits, unless it has its turn or ended. -/
def Waits (c : Client) : Prop :=
  ∀ (n : Nat) (k : Call), c.calls[n]? = some k → k.phase.isLive → k.signal = none →
    k.phase.isWaiting

theorem Action.waits (act : Action hit c d c₁ d₁) (h : Waits c) : Waits c₁ := by
  intro n k after live untold
  obtain ⟨s, before, same | told⟩ | ⟨x, -, -, -, -, waits | ⟨o, ceased⟩, -⟩ | ⟨job, -, rfl⟩ :=
    act.call_cases after
  · exact h n ⟨k.phase, s⟩ before live (same ▸ untold)
  · rw [untold] at told
    cases told
  · exact waits
  · rw [ceased] at live
    cases live
  · cases untold

theorem Begins.waits {rest : List Task} (begins : Begins c rest c₁ d) (h : Waits c) : Waits c₁ := by
  cases begins with
  | @call m p s ready here live =>
    intro n k after live untold
    simp only [putCall, List.getElem?_set] at after
    split at after
    · split at after
      · obtain rfl := Option.some.inj after
        cases live
      · cases after
    · exact h n k after live untold
  | _ => exact h

theorem invariant_waits : Invariant Always fun c _ _ => Waits c :=
  ⟨fun _ h act => act.waits h, fun _ h _ _ _ => h, fun _ _ h begins => begins.waits h⟩

/-! ## A call that sends -/

/-- The call goes on to send, or ended as it may. -/
def Sends (n : Nat) (c : Client) (d : Option Doer) : Prop :=
  n < c.calls.length ∧ ((roleBy c d (.call n)).errand = .sends ∨
    turnOf d ≠ some (.call n) ∧ ∃ o, c.callOutcome? n = some o ∧ o.isProper)

/-- How the call ends its turn. -/
theorem Action.sends_own (act : Action hit c (some x) c₁ none) (q : Queue c (some x.task))
    (mere : Mere c (some x)) (task : x.task = .call n) (errand : x.role.errand = .sends) :
    (c₁.role (.call n)).errand = .sends ∨ ∃ o, c₁.callOutcome? n = some o ∧ o.isProper := by
  have here := (q.apart _ rfl).2.1
  cases act with
  | rests other | drainRests other | parksAttempt other | endsAttempt other | succeeds other =>
    exact absurd (other.symm.trans task) nofun
  | @parksCall x m p other role left waits ends =>
    obtain rfl := Task.call.inj (other.symm.trans task)
    left
    rw [Client.role, standing_putCall, if_pos ⟨rfl, task ▸ here⟩]
    exact (congrArg Role.errand role).trans errand
  | @endsCall x m o other done reset proper =>
    obtain rfl := Task.call.inj (other.symm.trans task)
    right
    rw [task] at here
    refine ⟨o, callOutcome_eq_some.mpr ⟨none, ?_⟩, ?_⟩
    · rw [putCall, List.getElem?_set_self here]
    · have := proper errand
      split at this
      · next e => rw [this]; rfl
      · obtain good | answer | unusable := this
        · exact good
        · exact mere.signal x o rfl answer
        · exact absurd mere.usableLink (unusable 0)
  | leaves done told ceased =>
    obtain ⟨l, other, -⟩ | ⟨l, other, -⟩ := ceased <;> exact absurd (other.symm.trans task) nofun

theorem Action.sends (act : Action hit c d c₁ d₁) (q : Queue c (turnOf d)) (mere : Mere c d)
    (h : Sends n c d) : Sends n c₁ d₁ := by
  obtain ⟨here, h⟩ := h
  refine ⟨Nat.lt_of_lt_of_le here act.calls_le, ?_⟩
  obtain errand | ⟨apart, o, ended, proper⟩ := h
  · by_cases apart : turnOf d = some (.call n)
    · obtain ⟨x, rfl, task⟩ := Option.map_eq_some_iff.mp apart
      rw [roleBy_self task] at errand
      cases d₁ with
      | some y =>
        left
        rw [roleBy_self (act.task_eq.1.trans task), act.task_eq.2.2.2]
        exact errand
      | none => exact (act.sends_own q mere task errand).imp_right fun ended => ⟨nofun, ended⟩
    · obtain same | ⟨-, job, -, e, -⟩ := act.roleBy_other apart
      · exact .inl (same ▸ errand)
      · exact absurd (Task.call.inj e) (Nat.ne_of_lt here)
  · exact .inr ⟨act.apart apart, o, act.callOutcome apart ended, proper⟩

theorem Begins.sends {rest : List Task} (begins : Begins c rest c₁ d) (h : Sends n c none) :
    Sends n c₁ d := by
  obtain ⟨here, h⟩ := h
  have calls : c.calls.length = c₁.calls.length := by
    cases begins <;> first | rfl | exact (List.length_set ..).symm
  refine ⟨calls ▸ here, ?_⟩
  obtain errand | ⟨-, o, ended, proper⟩ := h
  · left
    obtain same | ⟨-, same⟩ := begins.role (.call n)
    · rwa [same]
    · rwa [same]
  · right
    obtain ⟨s, ended⟩ := callOutcome_eq_some.mp ended
    cases begins with
    | @call m p s' ready there live =>
      have other : m ≠ n := by
        rintro rfl
        obtain ⟨rfl, -⟩ : p = .done o ∧ some s' = s := by simpa [there] using ended
        cases live
      refine ⟨fun e => other (Task.call.inj (Option.some.inj e)), o,
        callOutcome_eq_some.mpr ⟨s, ?_⟩, proper⟩
      exact (List.getElem?_set_ne other).trans ended
    | _ => exact ⟨nofun, o, callOutcome_eq_some.mpr ⟨s, ended⟩, proper⟩

theorem invariant_sends : Invariant Always fun c d _ => Mere c d ∧ Sends n c d := by
  refine ⟨fun sound h act => ⟨act.mere sound.queue sound.bounds h.1, act.sends sound.queue h.1 h.2⟩,
    fun _ h _ _ _ => ⟨h.1.lose, ?_⟩,
    fun _ sound h begins => ⟨begins.mere sound.queue h.1, begins.sends h.2⟩⟩
  refine ⟨h.2.1, h.2.2.imp_left fun errand => ?_⟩
  rwa [roleBy_congr fun u => congrArg Standing.role standing_forget]

/-! ## A call whose request is lost -/

/-- The call waits for an answer that cannot come, or is cancelled. -/
inductive Lingers (n l id : Nat) (c : Client) : Option Doer → Prop
  | waits {d : Option Doer} {rest : List Send} {s : Option Signal} (apart : turnOf d ≠ some (.call n))
    (here : c.calls[n]? = some ⟨.awaiting l id rest, s⟩) (told : s = none ∨ s = some .cancelled)
    (gone : (id, .call n) ∉ (c.link l).pending) : Lingers n l id c d
  | leaves {x : Doer} (task : x.task = .call n) (signal : x.signal = .cancelled)
    (errand : x.role.errand = .sends) : Lingers n l id c (some x)
  | ceased {d : Option Doer} (apart : turnOf d ≠ some (.call n))
    (ended : c.callOutcome? n = some .cancelled) : Lingers n l id c d

/-- A request is that of the activity in its turn. -/
theorem Action.pending_new (act : Action hit c d c₁ d₁) (apart : turnOf d ≠ some t)
    (h : (id, t) ∈ (c₁.link l).pending) : (id, t) ∈ (c.link l).pending := by
  let r (k j : Link) : Prop := (id, t) ∈ j.pending → (id, t) ∈ k.pending
  have refl k : r k k := fun h => h
  cases act with
  | asks | mumbles =>
    refine rel_link (r := r) refl rfl (fun h => ?_) l h
    obtain h | h := List.mem_append.mp h
    · exact h
    · exact absurd (congrArg some (Prod.mk.inj (List.mem_singleton.mp h)).2.symm) apart
  | fails idle reason first =>
    refine rel_link (r := r) refl rfl (fun h => ?_) l h
    rw [first]
    exact List.mem_cons_of_mem _ h
  | retracts | withdraws | answers | drops =>
    exact rel_link (r := r) refl rfl (fun h => (List.mem_filter.mp h).1) l h
  | connects task done starts cold ps policy =>
    rw [link_addLink] at h
    split at h
    · cases h
    · exact h
  | takes how =>
    rw [how.frame] at h
    exact h
  | flows | exits | tellsListener | tellsDrain | rests | halts | supersedes | renews | restarts
  | drains | drainRests | drainEnds | shuts | expectsEnd =>
    exact rel_link (r := r) refl rfl (fun h => h) l h
  | _ => exact h

/-- What a call is told that waits for a lost answer. -/
theorem Prompts.lingers {rest : List Send} {s₁ : Option Signal} (why : Prompts hit c d (.call n) s)
    (here : c.calls[n]? = some ⟨.awaiting l id rest, s₁⟩) (r : Requests c d lost)
    (apart : turnOf d ≠ some (.call n)) (gone : (id, .call n) ∉ (c.link l).pending) :
    s = .cancelled := by
  cases why with
  | call there why =>
    obtain rfl := Option.some.inj (there.symm.trans here)
    cases why with
    | step teardown => cases teardown
    | late deadline => cases deadline
    | cancelled => rfl
  | @answer m i _ o pending heeds good =>
    have claims := r.pending m i _ pending
    rw [claim_ne apart] at claims
    obtain ⟨rfl, rfl⟩ : l = m ∧ id = i := by
      simpa [role, standing, here, Call.standing, CallPhase.role] using claims
    exact absurd pending gone

theorem Action.lingers (act : Action hit c d c₁ d₁) (q : Queue c (turnOf d)) (r : Requests c d lost)
    (h : Lingers n l id c d) : Lingers n l id c₁ d₁ := by
  cases h with
  | @waits _ rest s apart here told gone =>
    have gone₁ : (id, .call n) ∉ (c₁.link l).pending := fun h => gone (act.pending_new apart h)
    obtain ⟨s₁, here₁⟩ := act.call_phase here (.inl apart)
    have told₁ : c₁.told (.call n) = s₁ := by simp [Client.told, standing, here₁, Call.standing]
    refine .waits (act.apart apart) here₁ ?_ gone₁
    obtain same | ⟨s', same, why⟩ | ⟨dead, -⟩ := act.stirs apart
    · rw [Client.told, same] at told₁
      simpa [standing, here, Call.standing, ← told₁] using told
    · obtain rfl := why.lingers here r apart gone
      rw [Client.told, same] at told₁
      exact .inr told₁.symm
    · simp [standing, here, Call.standing, CallPhase.isLive] at dead
  | @leaves x task signal errand =>
    cases d₁ with
    | some y =>
      obtain ⟨task', signal', -, errand'⟩ := act.task_eq
      exact .leaves (task'.trans task) (signal'.trans signal) (errand'.trans errand)
    | none =>
      have here := (q.apart _ rfl).2.1
      cases act with
      | rests other | drainRests other | parksAttempt other | endsAttempt other | succeeds other =>
        cases other.symm.trans task
      | parksCall other role left waits ends stops go => exact absurd signal (go errand)
      | @endsCall x m o other done reset proper =>
        obtain rfl := Task.call.inj (other.symm.trans task)
        rw [task] at here
        refine .ceased (by simp [turnOf]) (callOutcome_eq_some.mpr ⟨none, ?_⟩)
        have := proper errand
        rw [if_pos signal] at this
        rw [putCall, List.getElem?_set_self here, this]
      | leaves done told ceased =>
        obtain ⟨l, other, -⟩ | ⟨l, other, -⟩ := ceased <;>
          cases other.symm.trans task
  | ceased apart ended => exact .ceased (act.apart apart) (act.callOutcome apart ended)

theorem Lingers.lose {m i : Nat} (h : Lingers n l id c d) : Lingers n l id (c.forget m i) d := by
  cases h with
  | waits apart here told gone =>
    refine .waits apart here told fun h => gone ?_
    rw [pending_forget] at h
    split at h
    · exact (List.mem_filter.mp h).1
    · exact h
  | leaves task signal errand => exact .leaves task signal errand
  | ceased apart ended => exact .ceased apart ended

/-- A call over a mere connection lingers when its request is lost. -/
theorem Requests.lingers (r : Requests c d lost) (b : Bounds c d) (mere : Mere c d)
    (idle : IsIdle d) (pending : (id, .call n) ∈ (c.link l).pending)
    (untold : c.isTold (.call n) = false) : Lingers n l id (c.forget l id) d := by
  have claims := r.pending l id _ pending
  have apart : turnOf d ≠ some (.call n) := by
    intro e
    obtain ⟨x, rfl, task⟩ := Option.map_eq_some_iff.mp e
    rw [claim_some, if_pos task, (idle x rfl).1, (idle x rfl).2] at claims
    cases claims
  rw [claim_ne apart] at claims
  have errand := mere.errand_ne b (.call n)
  rw [roleBy_ne apart] at errand
  rcases here : c.calls[n]? with _ | ⟨p, s⟩
  · simp [isTold, here] at untold
  · obtain rfl : s = none := by simpa [isTold, here] using untold
    have role : c.role (.call n) = p.role := by simp [role, standing, here, Call.standing]
    rw [role] at claims errand
    cases p with
    | awaiting l' id' rest =>
      obtain ⟨rfl, rfl⟩ : l' = l ∧ id' = id := by simpa [CallPhase.role] using claims
      exact .waits apart here (.inl rfl) (by simp [pending_forget])
    | shuttingDown => exact absurd rfl errand
    | _ => cases claims

theorem Begins.pending {rest : List Task} (begins : Begins c rest c₁ d) :
    (c₁.link l).pending = (c.link l).pending := by
  let r (k j : Link) : Prop := j.pending = k.pending
  have refl k : r k k := rfl
  cases begins with
  | listener => exact rel_link (c := c) (r := r) refl rfl rfl l
  | drain => exact rel_link (c := c) (r := r) refl rfl rfl l
  | _ => exact refl _

theorem Begins.lingers {rest : List Task} (begins : Begins c rest c₁ d)
    (h : Lingers n l id c none) : Lingers n l id c₁ d := by
  cases h with
  | @waits _ todo s apart here told gone =>
    have gone : (id, .call n) ∉ (c₁.link l).pending := by rwa [begins.pending]
    cases begins with
    | @call m p s' ready there live =>
      by_cases e : m = n
      · subst e
        obtain ⟨rfl, rfl⟩ : p = .awaiting l id todo ∧ some s' = s := by
          simpa [there] using here
        have cancelled : s' = .cancelled := by simpa using told
        exact .leaves rfl cancelled rfl
      · have still : ({ c with ready := rest }.putCall m ⟨.running, none⟩).calls[n]? =
            some ⟨.awaiting l id todo, s⟩ := (List.getElem?_set_ne e).trans here
        exact .waits (fun e' => e (Task.call.inj (Option.some.inj e'))) still told gone
    | _ => exact .waits nofun here told gone
  | ceased apart ended =>
    obtain ⟨s, ended⟩ := callOutcome_eq_some.mp ended
    cases begins with
    | @call m p s' ready there live =>
      have other : m ≠ n := by
        rintro rfl
        obtain ⟨rfl, -⟩ : p = .done .cancelled ∧ some s' = s := by simpa [there] using ended
        cases live
      refine .ceased (fun e => other (Task.call.inj (Option.some.inj e)))
        (callOutcome_eq_some.mpr ⟨s, ?_⟩)
      exact (List.getElem?_set_ne other).trans ended
    | _ => exact .ceased nofun (callOutcome_eq_some.mpr ⟨s, ended⟩)

/-- Every call whose request was lost lingers. -/
theorem invariant_lingers : Invariant Always fun c d lost =>
    Mere c d ∧ ∀ l id n, ⟨l, id, .call n⟩ ∈ lost → Lingers n l id c d := by
  refine ⟨fun sound h act => ⟨act.mere sound.queue sound.bounds h.1, fun l id n lost => ?_⟩,
    fun sound h idle pending untold => ⟨h.1.lose, fun l id n lost => ?_⟩,
    fun _ sound h begins => ⟨begins.mere sound.queue h.1, fun l id n lost => ?_⟩⟩
  · exact act.lingers sound.queue sound.requests (h.2 l id n lost)
  · obtain lost | lost := List.mem_append.mp lost
    · exact (h.2 l id n lost).lose
    · obtain ⟨⟩ := List.mem_singleton.mp lost
      exact sound.requests.lingers sound.bounds h.1 idle pending untold
  · exact begins.lingers (h.2 l id n lost)

/-- A call that sends and has neither ended nor anything to do waits for an answer. -/
theorem Sends.awaiting (h : Sends n c none) (mere : Mere c none) (waits : Waits c)
    (untold : c.told (.call n) = none) :
    (∃ o, c.callOutcome? n = some o ∧ o.isProper) ∨
      ∃ l id rest, c.calls[n]? = some ⟨.awaiting l id rest, none⟩ := by
  obtain errand | ⟨-, ended⟩ := h.2
  · right
    change (c.role (.call n)).errand = .sends at errand
    obtain ⟨⟨p, s⟩, here⟩ : ∃ k, c.calls[n]? = some k := ⟨_, List.getElem?_eq_getElem h.1⟩
    simp only [told, standing, here, Call.standing, Option.map_some, Option.getD_some] at untold
    simp only [role, standing, here, Call.standing, Option.map_some, Option.getD_some] at errand
    subst untold
    cases p with
    | awaiting l id rest => exact ⟨l, id, rest, here⟩
    | fresh job => cases waits n _ here rfl rfl
    | joined a sends => exact absurd rfl (mere.alone n _ a sends here)
    | _ => cases errand
  · exact .inl ended

/-! ## The end of a connection -/

/-- The listener of the link has ended, or the one that took its place has. -/
def HasStopped (c : Client) (l : Nat) : Prop :=
  (c.link l).listener.phase = .done ∨ (c.link l).superseded

instance : Decidable (c.HasStopped l) :=
  inferInstanceAs (Decidable ((c.link l).listener.phase = .done ∨ (c.link l).superseded))

section Connection

variable {name : String} {policy : Policy} {observed : Bool} {before after : List Input}
  {sends : List Send}

theorem closing_of_standing (standing : ∀ t, c.standing t = .absent)
    (pending : ∀ l, (c.link l).pending = []) (settled : ∀ l, (c.link l).Settled) :
    Closing c none := by
  refine ⟨settled, fun l _ some => absurd (pending l) some, fun l t _ ⟨u, takes, _⟩ => ?_⟩
  rw [roleBy, role, standing] at takes
  cases takes

theorem standing_ofProcess : (ofProcess name policy observed).standing t = .absent := by
  refine standing_eq_absent rfl rfl (fun l => ?_) (fun l => ?_) t
  · rw [link_ofProcess]
    split <;> rfl
  · rw [link_ofProcess]
    split <;> rfl

theorem closing_ofProcess : Closing (ofProcess name policy observed) none := by
  refine closing_of_standing (fun _ => standing_ofProcess) (fun l => ?_) fun l => ?_
  · rw [link_ofProcess]
    split <;> rfl
  · rw [link_ofProcess]
    split <;> exact ⟨nofun, nofun, nofun⟩

theorem mere_ofProcess : Mere (ofProcess name policy observed) none := by
  refine ⟨?_, rfl, rfl, rfl, rfl, fun n k a sends here => ?_, fun t o answer => ?_,
    fun x o e => nomatch e⟩
  · cases observed <;> nofun
  · simp [ofProcess] at here
  · rw [told, standing_ofProcess] at answer
    cases answer

theorem waits_ofProcess : Waits (ofProcess name policy observed) := fun n k here => by
  simp [ofProcess] at here

/-- A call over a mere connection that has begun to send. -/
theorem sends_addCall : Sends c.calls.length (c.addCall (.sends sends)) none := by
  refine ⟨by simp [addCall, push], .inl ?_⟩
  show ((c.addCall (.sends sends)).role (.call c.calls.length)).errand = .sends
  rw [role, standing_addCall, if_pos rfl]
  rfl

theorem sends_run (fits : ∀ i ∈ before ++ after, i.Fits (ofProcess name policy observed)) :
    Sends ((ofProcess name policy observed).run before).calls.length
      ((ofProcess name policy observed).run (before ++ .call (.sends sends) :: after)) none := by
  have fits₁ : ∀ i ∈ before ++ [.call (.sends sends)], i.Fits (ofProcess name policy observed) := by
    intro i hi
    obtain hi | hi := by simpa using hi
    · exact fits i (by simp [hi])
    · subst hi
      trivial
  obtain ⟨sound, mere⟩ := invariant_mere.run throughout_always fits₁ sound_ofProcess mere_ofProcess
  rw [run_append] at sound mere
  have fits₂ i (hi : i ∈ after) :
      i.Fits (((ofProcess name policy observed).run before).run [.call (.sends sends)]) := by
    refine (fits i (by simp [hi])).congr ?_
    rw [← run_append]
    exact audience_run sound_ofProcess fits₁
  rw [run_append, show Input.call (.sends sends) :: after = [.call (.sends sends)] ++ after from rfl,
    run_append]
  exact (invariant_sends.run throughout_always fits₂ sound ⟨mere, sends_addCall⟩).2.2

/-- Once the listener of a connection has ended and every activity has had its turn, a call that
sends has ended with a result, with an error of the server or the connection, or cancelled, unless
its request was lost: then it still waits if it was not cancelled. A request is lost to a response
whose error is neither null nor an object. -/
theorem send_ends_iff_not_lost (fits : ∀ i ∈ before ++ after, i.Fits (ofProcess name policy observed))
    (ready : ((ofProcess name policy observed).run (before ++ .call (.sends sends) :: after)).ready = [])
    (stopped : ((ofProcess name policy observed).run
      (before ++ .call (.sends sends) :: after)).HasStopped 0) :
    let first := ofProcess name policy observed
    let inputs := before ++ .call (.sends sends) :: after
    let n := (first.run before).calls.length
    ((∀ l id, ⟨l, id, .call n⟩ ∉ first.losses inputs) →
      ∃ o, (first.run inputs).callOutcome? n = some o ∧ o.isProper) ∧
    ∀ l id, ⟨l, id, .call n⟩ ∈ first.losses inputs →
      (first.run inputs).callOutcome? n = some .cancelled ∨
        ∃ rest, (first.run inputs).calls[n]? = some ⟨.awaiting l id rest, none⟩ := by
  intro first inputs n
  have fits' : ∀ i ∈ inputs, i.Fits first := by
    intro i hi
    obtain hi | hi | hi := by simpa [inputs] using hi
    · exact fits i (by simp [hi])
    · subst hi
      trivial
    · exact fits i (by simp [hi])
  obtain ⟨sound, ⟨⟨mere, lingers⟩, closing⟩, waits⟩ :=
    ((invariant_lingers.and invariant_closing).and invariant_waits).run throughout_always fits' sound_ofProcess
      ⟨⟨⟨mere_ofProcess, nofun⟩, closing_ofProcess⟩, waits_ofProcess⟩
  rw [List.nil_append] at sound lingers
  have untold t : (first.run inputs).told t = none :=
    Option.not_isSome_iff_eq_none.mp fun some => by
      have := sound.queue.queued t some
      rw [ready] at this
      cases this
  refine ⟨fun kept => ?_, fun l id lost => ?_⟩
  · obtain ended | ⟨l, id, rest, here⟩ := (sends_run fits).awaiting mere waits (untold _)
    · exact ended
    · exfalso
      have here : (first.run inputs).calls[n]? = some ⟨.awaiting l id rest, none⟩ := here
      have expects : (roleBy (first.run inputs) none (.call n)).expects = some (l, id) := by
        simp [roleBy, role, standing, here, Call.standing, CallPhase.role]
      obtain pending | lost := sound.requests.waits _ l id expects (untold _)
      · obtain rfl : l = 0 := by
          have := lt_of_pending pending
          have := mere.links
          omega
        rw [closing.pending_eq_nil sound.queue ready stopped] at pending
        cases pending
      · exact kept l id lost
  · cases lingers l id n lost with
    | @waits _ rest s apart here told gone =>
      right
      have : (first.run inputs).told (.call n) = s := by
        simp [Client.told, standing, here, Call.standing]
      rw [untold] at this
      exact ⟨rest, this ▸ here⟩
    | ceased apart ended => exact .inl ended

end Connection

/-- A server answers a request with an error that is a text. -/
def oddAnswer : List Input :=
  [.turn, .output (Wire.encode (.obj [("id", .int 1), ("error", .str "x")])), .turn]

theorem send_ends_iff_not_lost_oddAnswer :
    ((ofProcess "lsp" default false).run
      ([.call .listen, .turn, .turn] ++ .call (.sends [.request "m" .null]) :: oddAnswer)).ready = [] ∧
    ((ofProcess "lsp" default false).run
      ([.call .listen, .turn, .turn] ++
        .call (.sends [.request "m" .null]) :: oddAnswer)).HasStopped 0 ∧
    ∃ rest, ((ofProcess "lsp" default false).run
      ([.call .listen, .turn, .turn] ++
        .call (.sends [.request "m" .null]) :: oddAnswer)).calls[1]? =
      some ⟨.awaiting 0 1 rest, none⟩ := by
  have ready : ((ofProcess "lsp" default false).run
      ([.call .listen, .turn, .turn] ++
        .call (.sends [.request "m" .null]) :: oddAnswer)).ready = [] := by decide +kernel
  have stopped : ((ofProcess "lsp" default false).run
      ([.call .listen, .turn, .turn] ++
        .call (.sends [.request "m" .null]) :: oddAnswer)).HasStopped 0 := by decide +kernel
  have lost := (@send_ends_iff_not_lost "lsp" default false [.call .listen, .turn, .turn] oddAnswer
    [.request "m" .null] (by decide +kernel) ready stopped).2 0 1 (by decide +kernel)
  exact ⟨ready, stopped, lost.resolve_left (by decide +kernel)⟩

/-- A request whose answer is odd waits on when its connection has ended. -/
theorem send_waits_oddAnswer :
    ((ofProcess "lsp" default false).run
      ([.call .listen, .turn, .turn] ++ .call (.sends [.request "m" .null]) :: oddAnswer)).ready = [] ∧
    ((ofProcess "lsp" default false).run
      ([.call .listen, .turn, .turn] ++
        .call (.sends [.request "m" .null]) :: oddAnswer)).HasStopped 0 ∧
    ((ofProcess "lsp" default false).run
      ([.call .listen, .turn, .turn] ++
        .call (.sends [.request "m" .null]) :: oddAnswer)).callOutcome? 1 = none := by
  decide +kernel

end LspGateway.Client
