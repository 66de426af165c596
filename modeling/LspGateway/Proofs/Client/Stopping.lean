import LspGateway.Proofs.Client.Invariants

/-! # Listeners that have ended

When a listener has ended and every activity has had its turn, nothing is pending.
A listener that is cancelled before it has begun leaves the requests to the activity
that closes the connection.
-/

namespace LspGateway.Client

variable {hit : Nat → Prop} {c c₁ : Client} {d d₁ : Option Doer} {ls lost : List Loss} {x : Doer}
  {l k n id : Nat} {t : Task} {u : Teardown} {s : Signal}

namespace Link

variable {k j : Link}

theorem isClosed_of_closed (h : k.closed) : k.isClosed := by simp [isClosed, h]

theorem isClosed_of_superseded (h : k.superseded) : k.isClosed := by simp [isClosed, h]

theorem isClosed_of_over (h : k.listener.phase = .done) : k.isClosed := by simp [isClosed, h]

/-- What the end of a listener leaves of a link. -/
structure Settled (k : Link) : Prop where
  ceased : k.listener.phase = .done → k.pending = [] ∨ k.closed
  later : k.superseded → k.pending = []
  crashed : k.crash.isSome → k.pending = [] ∧ k.isClosed

/-- Requests come only with an open connection. -/
theorem Settled.ask {m : Nat} {ps : List (Nat × Task)} (h : k.Settled) (up : k.isClosed = false) :
    ({ k with lastId := m, pending := ps } : Link).Settled := by
  have closed (e : k.isClosed) {p : Prop} : p := absurd (up.symm.trans e) nofun
  exact ⟨fun ceased => closed (isClosed_of_over ceased), fun later => closed (isClosed_of_superseded later),
    fun crash => closed (h.crashed crash).2⟩

/-- Fewer requests are no harm. -/
theorem Settled.mono (h : k.Settled) (pending : k.pending = [] → j.pending = [])
    (phase : j.listener.phase = .done → k.listener.phase = .done) (later : j.superseded → k.superseded)
    (crash : j.crash.isSome → k.crash.isSome) (closed : k.closed → j.closed)
    (up : k.isClosed → j.isClosed) : j.Settled :=
  ⟨fun ceased => (h.ceased (phase ceased)).imp pending closed, fun e => pending (h.later (later e)),
    fun e => ⟨pending (h.crashed (crash e)).1, up (h.crashed (crash e)).2⟩⟩

end Link

theorem Action.settled (act : Action hit c d c₁ d₁) (h : ∀ l, (c.link l).Settled) :
    ∀ l, (c₁.link l).Settled := by
  cases act with
  | asks idle left up used | mumbles idle left up used =>
    exact forall_link h rfl fun h => h.ask up
  | halts task clear same why =>
    refine forall_link h rfl fun _ =>
      ⟨fun _ => .inl clear, fun _ => clear, fun _ => ⟨clear, Link.isClosed_of_over rfl⟩⟩
  | supersedes listens clear =>
    refine forall_link h rfl fun h =>
      ⟨h.ceased, fun _ => clear, fun _ => ⟨clear, Link.isClosed_of_superseded rfl⟩⟩
  | renews listens waits =>
    exact forall_link h rfl fun h => ⟨h.ceased, by rintro ⟨⟩, by rintro ⟨⟩⟩
  | restarts => exact forall_link h rfl fun h => ⟨by rintro ⟨⟩, by rintro ⟨⟩, by rintro ⟨⟩⟩
  | @rests x l task done go runs reading =>
    refine forall_link h rfl fun h => h.mono (fun e => e) (by rintro ⟨⟩) (fun e => e) (fun e => e)
      (fun e => e) ?_
    simp [Link.isClosed, runs]
  | shuts =>
    exact forall_link h rfl fun h => h.mono (fun e => e) (fun e => e) (fun e => e) (fun e => e)
      (fun _ => rfl) fun _ => Link.isClosed_of_closed rfl
  | connects task done starts cold ps policy =>
    intro k
    rw [link_addLink]
    split
    · cases policy.hasInput <;> exact ⟨by rintro ⟨⟩, by rintro ⟨⟩, by rintro ⟨⟩⟩
    · exact h k
  | takes how =>
    rw [how.frame]
    exact h
  | fails idle reason first =>
    exact forall_link h rfl fun h => h.mono (fun none => absurd (first.symm.trans none) (by rintro ⟨⟩))
      (fun e => e) (fun e => e) (fun e => e) (fun e => e) fun e => e
  | retracts | withdraws | answers | drops =>
    refine forall_link h rfl fun h => h.mono ?_ (fun e => e) (fun e => e) (fun e => e) (fun e => e)
      fun e => e
    intro none
    simp [none]
  | flows | exits | tellsListener | tellsDrain | drains | drainRests | drainEnds | expectsEnd =>
    exact forall_link h rfl fun h => h.mono (fun e => e) (fun e => e) (fun e => e) (fun e => e)
      (fun e => e) fun e => e
  | _ => exact h

/-! ## Closing -/

/-- The activity waits for the end of the listener of the link, to take the link down. -/
def AwaitsEnd (c : Client) (d : Option Doer) (l : Nat) (t : Task) : Prop :=
  ∃ u, (roleBy c d t).teardown = some u ∧ u.link = l ∧ u.stage = .listener

/-- The listener of the link is cancelled, or has its turn as one that is. -/
def IsEnding (c : Client) (d : Option Doer) (l : Nat) : Prop :=
  c.told (.listener l) = some .cancelled ∨
    ∃ x, d = some x ∧ x.task = .listener l ∧
      (x.signal = .cancelled ∨ (c.link l).listener.phase = .done)

/-- How connections are closed. -/
structure Closing (c : Client) (d : Option Doer) : Prop where
  links : ∀ l, (c.link l).Settled
  /-- Requests of a closed connection are given up when its listener has ended. -/
  awaited : ∀ l, (c.link l).closed → (c.link l).pending ≠ [] → ∃ t, AwaitsEnd c d l t
  ending : ∀ l t, turnOf d ≠ some t → AwaitsEnd c d l t → c.told t = none → IsEnding c d l

/-- A connection is closed by who takes it down, and requests come only with an open one. -/
theorem Action.closed_pending (act : Action hit c d c₁ d₁) (closed : (c₁.link l).closed)
    (pending : (c₁.link l).pending ≠ []) :
    (c.link l).closed ∧ (c.link l).pending ≠ [] ∨
      ∃ x u, d = some x ∧ d₁ = some x ∧ x.role.teardown = some u ∧ u.link = l ∧
        u.stage = .listener := by
  let r (k j : Link) : Prop := j.closed → j.pending ≠ [] → k.closed ∧ k.pending ≠ []
  have refl k : r k k := fun closed pending => ⟨closed, pending⟩
  cases act with
  | @shuts x t takes first =>
    by_cases e : t.link = l
    · exact .inr ⟨x, t, rfl, rfl, takes, e, first⟩
    · rw [link_modifyLink_ne e] at closed pending
      exact .inl ⟨closed, pending⟩
  | asks idle left up used | mumbles idle left up used =>
    refine .inl (rel_link (r := r) refl rfl (fun closed _ => ?_) l closed pending)
    exact absurd (up.symm.trans (Link.isClosed_of_closed closed)) nofun
  | fails idle reason first =>
    refine .inl (rel_link (r := r) refl rfl (fun closed _ => ⟨closed, ?_⟩) l closed pending)
    rw [first]
    nofun
  | retracts | withdraws | answers | drops =>
    refine .inl (rel_link (r := r) refl rfl (fun closed some => ⟨closed, ?_⟩) l closed pending)
    exact fun none => some (by simp [none])
  | connects task done starts cold ps policy =>
    rw [link_addLink] at closed pending
    split at closed
    · cases closed
    · next e =>
      rw [if_neg e] at pending
      exact .inl ⟨closed, pending⟩
  | takes how =>
    rw [how.frame] at closed pending
    exact .inl ⟨closed, pending⟩
  | flows | exits | tellsListener | tellsDrain | rests | halts | supersedes | renews | restarts
  | drains | drainRests | drainEnds | expectsEnd =>
    exact .inl (rel_link (r := r) refl rfl (fun closed some => ⟨closed, some⟩) l closed pending)
  | _ => exact .inl ⟨closed, pending⟩

theorem Action.awaited (act : Action hit c d c₁ d₁) (q : Queue c (turnOf d)) (h : Closing c d)
    (l : Nat) (closed : (c₁.link l).closed) (pending : (c₁.link l).pending ≠ []) :
    ∃ t, AwaitsEnd c₁ d₁ l t := by
  obtain ⟨before, some⟩ | ⟨x, u, rfl, rfl, takes, same, first⟩ := act.closed_pending closed pending
  · obtain ⟨t, u, takes, same, first⟩ := h.awaited l before some
    refine ⟨t, ?_⟩
    obtain e | ⟨x, v, rfl, task, rfl, how⟩ := act.teardown_eq q t
    · exact ⟨u, e ▸ takes, same, first⟩
    · -- Whoever goes on has given the requests up.
      rw [roleBy_self task] at takes
      exfalso
      cases how with
      | releases idle => exact absurd (idle.symm.trans takes) nofun
      | closes idle => exact absurd (idle.symm.trans takes) nofun
      | advances taken _ _ off =>
        obtain rfl := Option.some.inj (taken.symm.trans takes)
        exact some (same ▸ off first)
      | settles taken _ off =>
        obtain rfl := Option.some.inj (taken.symm.trans takes)
        exact some (same ▸ off first)
      | abandons taken _ why =>
        obtain rfl := Option.some.inj (taken.symm.trans takes)
        obtain crash | ⟨patient, -⟩ := why
        · exact some (same ▸ ((h.links _).crashed crash).1)
        · rw [first] at patient
          cases patient
  · exact ⟨x.task, u, by rw [roleBy_self rfl]; exact takes, same, first⟩

/-- A listener in its turn does not begin again. -/
theorem Action.phase_done {y : Doer} (act : Action hit c (some x) c₁ (some y))
    (task : x.task = .listener l) (ceased : (c.link l).listener.phase = .done) :
    (c₁.link l).listener.phase = .done := by
  let r (k j : Link) : Prop := k.listener.phase = .done → j.listener.phase = .done
  have refl k : r k k := fun h => h
  cases act with
  | restarts call => exact absurd (task.symm.trans call) nofun
  | connects attempt => exact absurd (task.symm.trans attempt) nofun
  | takes how =>
    rw [how.frame]
    exact ceased
  | halts => exact rel_link (r := r) refl rfl (fun _ => rfl) l ceased
  | flows | exits | tellsListener | tellsDrain | asks | mumbles | retracts | withdraws | answers | drops
  | fails | supersedes | renews | drains | drainEnds | shuts | expectsEnd =>
    exact rel_link (r := r) refl rfl (fun h => h) l ceased
  | _ => exact ceased

/-- A listener that has its turn does not wait again if it is cancelled, and tells those who
wait for its end when it leaves. -/
theorem Action.isEnding (act : Action hit c d c₁ d₁) (q : Queue c (turnOf d))
    (apart : turnOf d ≠ some t) (awaits : AwaitsEnd c d l t) (untold : c.told t = none)
    (h : IsEnding c d l) : IsEnding c₁ d₁ l := by
  obtain cancelled | ⟨x, rfl, task, why⟩ := h
  · refine .inl (act.told_cancelled q (fun e => ?_) cancelled)
    rw [(q.apart _ e).2.2.2] at cancelled
    cases cancelled
  · cases d₁ with
    | some y =>
      refine .inr ⟨y, rfl, act.task_eq.1.trans task, ?_⟩
      rw [act.task_eq.2.1]
      exact why.imp_right (act.phase_done task)
    | none =>
      obtain ⟨u, takes, rfl, first⟩ := awaits
      rw [roleBy_ne apart] at takes
      exfalso
      cases act with
      | rests task' done go runs =>
        obtain rfl := Task.listener.inj (task'.symm.trans task)
        obtain cancelled | ceased := why
        · exact go cancelled
        · rw [runs] at ceased
          cases ceased
      | leaves done told ceased =>
        have := told t u takes (.inl ⟨task, first⟩)
        rw [untold] at this
        cases this
      | drainRests task' | parksAttempt task' | endsAttempt task' | succeeds task' | parksCall task'
      | endsCall task' => exact absurd (task'.symm.trans task) nofun

theorem Action.closing (act : Action hit c d c₁ d₁) (q : Queue c (turnOf d)) (h : Closing c d) :
    Closing c₁ d₁ := by
  refine ⟨act.settled h.links, act.awaited q h, fun l t apart₁ awaits untold => ?_⟩
  by_cases apart : turnOf d = some t
  · obtain ⟨x, rfl, rfl⟩ := Option.map_eq_some_iff.mp apart
    cases d₁ with
    | some y => exact absurd (congrArg some act.task_eq.1) apart₁
    | none =>
      obtain ⟨u, takes, rfl, first⟩ := awaits
      exact .inl ((act.parks q takes).listener first)
  · have before : c.told t = none := by
      refine Option.not_isSome_iff_eq_none.mp fun some => ?_
      have := act.told_isSome apart some
      rw [untold] at this
      cases this
    obtain ⟨u, takes, same, first⟩ := awaits
    obtain e | ⟨-, job, -, -, -, begun⟩ := act.roleBy_other apart
    · have awaits : AwaitsEnd c d l t := ⟨u, e ▸ takes, same, first⟩
      exact act.isEnding q apart awaits before (h.ending l t apart awaits before)
    · rw [begun] at takes
      cases takes

theorem AwaitsEnd.congr (teardown : (roleBy c₁ d₁ t).teardown = (roleBy c d t).teardown) :
    AwaitsEnd c₁ d₁ l t ↔ AwaitsEnd c d l t := by
  rw [AwaitsEnd, teardown, AwaitsEnd]

theorem Closing.lose (h : Closing c d) : Closing (c.forget l id) d := by
  have role u : (c.forget l id).role u = c.role u := congrArg Standing.role standing_forget
  have teardown u : (roleBy (c.forget l id) d u).teardown = (roleBy c d u).teardown := by
    rw [roleBy_congr role]
  have told u : (c.forget l id).told u = c.told u := congrArg Standing.told standing_forget
  have closed k : ((c.forget l id).link k).closed = (c.link k).closed :=
    link_modifyLink_same Link.closed fun _ => rfl
  have phase k : ((c.forget l id).link k).listener.phase = (c.link k).listener.phase :=
    link_modifyLink_same (·.listener.phase) fun _ => rfl
  refine ⟨?_, fun k shut some => ?_, fun k t apart awaits untold => ?_⟩
  · refine forall_link h.links rfl fun h => h.mono ?_ (fun e => e) (fun e => e) (fun e => e)
      (fun e => e) fun e => e
    intro none
    simp [none]
  · rw [closed] at shut
    obtain ⟨t, awaits⟩ := h.awaited k shut fun none => some (by simp [pending_forget, none])
    exact ⟨t, (AwaitsEnd.congr (teardown t)).mpr awaits⟩
  · rw [told] at untold
    obtain cancelled | ⟨x, e, task, why⟩ :=
      h.ending k t apart ((AwaitsEnd.congr (teardown t)).mp awaits) untold
    · exact .inl ((told _).trans cancelled)
    · exact .inr ⟨x, e, task, why.imp_right fun ceased => (phase k).trans ceased⟩

theorem Begins.settled {rest : List Task} (begins : Begins c rest c₁ d) (b : Bounds c none)
    (h : ∀ l, (c.link l).Settled) : ∀ l, (c₁.link l).Settled := by
  cases begins with
  | @listener l s p ready here pending =>
    have signal : (c.link l).listener.signal = some s := congrArg Watcher.signal here
    have phase : (c.link l).listener.phase = p := congrArg Watcher.phase here
    refine forall_link h rfl fun h => ⟨fun ceased => .inr ?_, h.later, fun crash => ?_⟩
    · refine b.shut l ?_
      change (if p = .fresh ∧ s = .cancelled then WatcherPhase.done else .running) = .done at ceased
      split at ceased
      · next e => rw [signal, e.2]
      · cases ceased
    · obtain ⟨clear, closed⟩ := h.crashed crash
      refine ⟨clear, ?_⟩
      have waits : (c.link l).listener.phase ≠ .done := by
        rw [phase]
        rintro rfl
        cases pending
      simp only [Link.isClosed, decide_eq_false waits, Bool.or_false] at closed
      exact (Bool.or_eq_true _ _).mpr (.inl closed)
  | drain =>
    exact forall_link h rfl fun h => h.mono (fun e => e) (fun e => e) (fun e => e)
      (fun e => e) (fun e => e) fun e => e
  | _ => exact h

theorem Begins.closing {rest : List Task} (begins : Begins c rest c₁ d) (b : Bounds c none)
    (h : Closing c none) : Closing c₁ d := by
  have teardown t : (roleBy c₁ d t).teardown = (roleBy c none t).teardown := by
    obtain same | ⟨-, same⟩ := begins.role t <;> rw [same] <;> rfl
  have links k : (c₁.link k).closed = (c.link k).closed ∧
      (c₁.link k).pending = (c.link k).pending := by
    let r (k j : Link) : Prop := j.closed = k.closed ∧ j.pending = k.pending
    have refl k : r k k := ⟨rfl, rfl⟩
    cases begins with
    | listener => exact rel_link (c := c) (r := r) refl rfl ⟨rfl, rfl⟩ k
    | drain => exact rel_link (c := c) (r := r) refl rfl ⟨rfl, rfl⟩ k
    | _ => exact refl _
  refine ⟨begins.settled b h.links, fun k shut some => ?_, fun k t apart awaits untold => ?_⟩
  · rw [(links k).1] at shut
    rw [(links k).2] at some
    obtain ⟨t, awaits⟩ := h.awaited k shut some
    exact ⟨t, (AwaitsEnd.congr (teardown t)).mpr awaits⟩
  · have before := (AwaitsEnd.congr (teardown t)).mp awaits
    cases d with
    | none =>
      cases begins
      exact h.ending k t nofun before untold
    | some x =>
      obtain ⟨signal, -, -, other⟩ := begins.turn
      have untold : c.told t = none := by
        rwa [told, other t fun e => apart (congrArg some e.symm)] at untold
      obtain cancelled | ⟨x, ⟨⟩, -⟩ := h.ending k t nofun before untold
      by_cases e : x.task = .listener k
      · refine .inr ⟨x, rfl, e, .inl ?_⟩
        rw [← e, signal] at cancelled
        exact Option.some.inj cancelled
      · exact .inl (by rwa [told, other _ (Ne.symm e)])

theorem invariant_closing : Invariant Always fun c d _ => Closing c d :=
  ⟨fun sound h act => act.closing sound.queue h, fun _ h _ _ _ => h.lose,
    fun _ sound h begins => begins.closing sound.bounds h⟩

/-- When every activity has had its turn, a listener that has ended leaves nothing pending. -/
theorem Closing.pending_eq_nil (h : Closing c none) (q : Queue c none) (ready : c.ready = [])
    (ceased : (c.link l).listener.phase = .done ∨ (c.link l).superseded) :
    (c.link l).pending = [] := by
  have untold t : c.told t = none :=
    Option.not_isSome_iff_eq_none.mp fun some => by simpa [ready] using q.queued t some
  obtain ceased | later := ceased
  · obtain clear | closed := (h.links l).ceased ceased
    · exact clear
    · by_contra some
      obtain ⟨t, awaits⟩ := h.awaited l closed some
      obtain cancelled | ⟨x, ⟨⟩, -⟩ := h.ending l t nofun awaits (untold t)
      rw [untold] at cancelled
      cases cancelled
  · exact (h.links l).later later

end LspGateway.Client
