import LspGateway.Proofs.Client.Handshake
import LspGateway.Proofs.Client.Minding
import LspGateway.Proofs.Client.Poise

/-! # What becomes of a client that is disposed of

From the time a disposal begins a client uses no new process, as long as nobody asks for another
start. So when the disposal has ended, nothing is in use and nobody changes that, and a second
disposal finds nothing to do.
-/

namespace LspGateway.Client

/-! ## Who listens to what

A client that starts no server listens to the connection in use alone, apart from connections that
were closed. So the end of a stream makes no difference to a client that uses none.
-/

section Attending

variable {hit : Nat → Prop} {c c₁ : Client} {d d₁ : Option Doer} {ls lost : List Loss} {x : Doer}
  {l k n id : Nat} {t : Task} {state : State}

/-- The connection is in use, or was closed, or the activity in its turn is about to close it. -/
inductive Attended (c : Client) (d : Option Doer) (l : Nat) : Prop
  | closed (shut : (c.link l).closed)
  | used (used : c.held.connection = some l)
  | taken {x : Doer} {u : Teardown} (turn : d = some x) (takes : x.role.teardown = some u)
    (first : u.stage = .listener) (same : u.link = l)

/-- Whoever has something to hear listens to a connection that is attended to. -/
structure Attentive (c : Client) (d : Option Doer) : Prop where
  told : ∀ l, (c.link l).listener.signal.isSome → Attended c d l
  turn : ∀ x l, d = some x → x.task = .listener l →
    (c.link l).closed ∨ c.held.connection = some l

/-- No activity connects to a process in its turn. -/
def StartsNothing (d : Option Doer) : Prop :=
  ∀ x n, d = some x → x.task = .attempt n → x.role.strand ≠ .starts

/-! ### Actions -/

theorem Attended.act (h : Attended c d l) (act : Action hit c d c₁ d₁) (q : Queue c (turnOf d))
    (b : Bounds c d) (idle : StartsNothing d) : Attended c₁ d₁ l := by
  cases h with
  | closed shut => exact .closed (act.closed_mono shut)
  | used used =>
    obtain ⟨-, same⟩ | ⟨x, rfl, rfl, rfl⟩ | ⟨x, n, ps, p, turn, task, starts, -⟩ := act.held_step
    · exact .used (same.trans used)
    · have takes : c.held.teardown? = some ⟨l, c.held.drain, .listener⟩ := by
        rw [Held.teardown?, used]
      exact .taken rfl takes rfl rfl
    · exact absurd starts (idle x n turn task)
  | taken turn takes first same =>
    subst turn same
    obtain closed | ⟨y, turn, takes₁⟩ := act.closes_taken q b takes first
    · exact .closed closed
    · exact .taken turn takes₁ first rfl

/-- A listener that can be told something listens to what its client minds. -/
theorem Minds.attended (h : Minds c d) (pending : (c.link l).listener.phase.isPending)
    (near : (c.link l).closed ∨ Reaches c d l) : Attended c d l := by
  have sealed_closed (shut : c.IsSealed l) : Attended c d l := by
    obtain closed | e | e := shut
    · exact .closed closed
    · rw [e] at pending; cases pending
    · rw [e] at pending; cases pending
  have here := lt_of_listener pending
  cases h.minds l here with
  | shut shut => exact sealed_closed shut
  | used used => exact .used used
  | taken turn takes first same => exact .taken turn takes first same
  | left left =>
    obtain closed | last | process | used | ⟨x, u, rfl, takes, rfl⟩ := near
    · exact .closed closed
    · exact absurd last (Nat.ne_of_lt left.earlier)
    · exact absurd process left.unused
    · exact .used used
    · by_cases first : u.stage = .listener
      · exact .taken rfl takes first rfl
      · exact sealed_closed (h.down x.task u (by rwa [roleBy_self rfl]) first)

theorem Action.links_length_of_idle (act : Action hit c d c₁ d₁) (idle : StartsNothing d) :
    c₁.links.length = c.links.length := by
  cases act with
  | connects task done starts => exact absurd starts (idle _ _ rfl task)
  | takes how => rw [how.frame]
  | _ => first | rfl | exact links_length_modifyLink _

/-- What a listener uses does not change in its turn. -/
theorem Action.connection_listener (act : Action hit c (some x) c₁ d₁) (b : Bounds c (some x))
    (task : x.task = .listener l) : c₁.held.connection = c.held.connection := by
  cases act with
  | takes how =>
    cases how with
    | releases idle who =>
      exfalso
      obtain ⟨n, own⟩ | disposes := who
      · cases own.symm.trans task
      · have disposes : (roleBy c (some x) x.task).disposes := by rwa [roleBy_self rfl]
        have call := b.calls x.task (by rw [b.disposes _ disposes]; nofun)
        rw [task] at call
        cases call
    | _ => rfl
  | connects own => cases own.symm.trans task
  | _ => rfl

theorem Attentive.act (h : Attentive c d) (minds : Minds c d) (act : Action hit c d c₁ d₁)
    (q : Queue c (turnOf d)) (b : Bounds c d) (client : c.audience = .client)
    (idle : StartsNothing d) : Attentive c₁ d₁ := by
  refine ⟨fun l told => ?_, fun y l turn task => ?_⟩
  · refine Attended.act ?_ act q b idle
    have live := (act.queue q).live (t := .listener l) told
    have here : l < c.links.length := act.links_length_of_idle idle ▸ lt_of_listener live
    by_cases before : (c.link l).listener.signal.isSome
    · exact h.told l before
    · have step := act.listener_step here (b.mute client)
      generalize (c₁.link l).listener = w at step told
      cases step with
      | stays => exact absurd told before
      | told why shut near => exact minds.attended why.isPending (near.imp_left shut)
      | rests => cases told
      | ends => cases told
  · cases d with
    | none => rw [act.none_eq] at turn; cases turn
    | some x =>
      subst turn
      have own : x.task = .listener l := act.task_eq.1.symm.trans task
      obtain closed | used := h.turn x l rfl own
      · exact .inl (act.closed_mono closed)
      · exact .inr ((act.connection_listener b own).trans used)

theorem Attentive.lose (h : Attentive c d) : Attentive (c.forget k id) d := by
  have closed l : ((c.forget k id).link l).closed = (c.link l).closed :=
    link_modifyLink_same Link.closed fun _ => rfl
  have listener l : ((c.forget k id).link l).listener = (c.link l).listener :=
    link_modifyLink_same Link.listener fun _ => rfl
  refine ⟨fun l told => ?_, fun x l turn task => ?_⟩
  · rw [listener] at told
    cases h.told l told with
    | closed shut => exact .closed ((closed l).trans shut)
    | used used => exact .used used
    | taken turn takes first same => exact .taken turn takes first same
  · exact (h.turn x l turn task).imp_left (closed l).trans

theorem Begins.closed {rest : List Task} (begins : Begins c rest c₁ d) (shut : (c.link l).closed) :
    (c₁.link l).closed := by
  let r (k j : Link) : Prop := k.closed → j.closed
  have refl k : r k k := fun shut => shut
  have same : r (c.link l) (c₁.link l) := by
    cases begins with
    | listener => exact rel_link (c := c) (r := r) refl rfl (fun shut => shut) l
    | drain => exact rel_link (c := c) (r := r) refl rfl (fun shut => shut) l
    | _ => exact refl _
  exact same shut

theorem Begins.attentive {rest : List Task} (begins : Begins c rest c₁ d) (h : Attentive c none) :
    Attentive c₁ d := by
  have attended {l : Nat} (told : (c.link l).listener.signal.isSome) :
      (c₁.link l).closed ∨ c₁.held.connection = some l := by
    cases h.told l told with
    | closed shut => exact .inl (begins.closed shut)
    | used used => exact .inr (begins.frame.1 ▸ used)
    | taken turn => cases turn
  refine ⟨fun l told => ?_, ?_⟩
  · by_cases own : c.ready = .listener l :: rest
    · rw [begins.signal_none own] at told
      cases told
    · rw [begins.signal own] at told
      exact (attended told).elim .closed .used
  · rintro x l rfl task
    refine attended (l := l) ?_
    have told := begins.turn.1
    rw [task] at told
    rw [show (c.link l).listener.signal = some x.signal from told]
    rfl

/-- A client of which nothing can go on is attentive. -/
theorem attentive_of_untold (untold : ∀ l, c.told (.listener l) = none) : Attentive c none := by
  refine ⟨fun l told => ?_, fun x l turn => by cases turn⟩
  rw [show (c.link l).listener.signal = none from untold l] at told
  cases told

/-! ### Turns -/

/-- The client shares no attempt, or it is not the turn of an attempt. -/
def Unstarting (c : Client) (d : Option Doer) : Prop :=
  c.attempt = none ∨ ∀ x n, d = some x → x.task ≠ .attempt n

theorem Unstarting.startsNothing (h : Unstarting c d) (handshake : Handshake c d) :
    StartsNothing d := by
  rintro x n rfl task starts
  obtain alone | apart := h
  · have leads := (handshake.turn x rfl).leads n task starts
    rw [alone] at leads
    cases leads
  · exact apart x n rfl task

theorem Action.apart_attempt (act : Action hit c d c₁ d₁) (apart : ∀ x n, d = some x → x.task ≠ .attempt n) :
    ∀ x n, d₁ = some x → x.task ≠ .attempt n := by
  rintro y n rfl task
  cases d with
  | none => cases act.none_eq
  | some x => exact apart x n rfl (act.task_eq.1.symm.trans task)

theorem Unstarting.act (h : Unstarting c d) (b : Bounds c d) (act : Action hit c d c₁ d₁) :
    Unstarting c₁ d₁ := by
  by_cases apart : ∀ x n, d = some x → x.task ≠ .attempt n
  · exact .inr (act.apart_attempt apart)
  · simp only [not_forall, not_not] at apart
    obtain ⟨x, n, rfl, task⟩ := apart
    left
    rw [act.attempt_eq b task]
    exact h.resolve_right fun apart => apart x n rfl task

/-- What a client keeps while none of its activities starts a server. -/
def Oversees (c : Client) (d : Option Doer) : Prop :=
  (Sharing c d ∧ Handshake c d) ∧ (c.audience = .client ∧ Sharing c d ∧ Minds c d) ∧
    Unstarting c d ∧ Attentive c d

theorem invariant_oversees : Invariant Never fun c d _ => Oversees c d := by
  refine ⟨fun sound h act => ?_, fun sound h idle pending untold => ?_, fun given => given.elim⟩
  · obtain ⟨shakes, minds, unstarting, attentive⟩ := h
    refine ⟨invariant_handshake.acts sound shakes act, invariant_minds.acts sound minds act,
      unstarting.act sound.bounds act, ?_⟩
    exact attentive.act minds.2.2 act sound.queue sound.bounds minds.1
      (unstarting.startsNothing shakes.2)
  · obtain ⟨shakes, minds, unstarting, attentive⟩ := h
    exact ⟨invariant_handshake.loses (t := _) sound shakes idle pending untold,
      invariant_minds.loses (t := _) sound minds idle pending untold, unstarting, attentive.lose⟩

/-- Nothing is in use in the turn of an activity that is no attempt, in which the client may be
reset. -/
structure Hollow (state : State) (c : Client) (d : Option Doer) : Prop where
  apart : ∀ x n, d = some x → x.task ≠ .attempt n
  empty : c.held = .nothing
  kept : c.state = state ∨ c.state = .notStarted

theorem Hollow.act (h : Hollow state c d) (attentive : Attentive c d) (b : Bounds c d)
    (client : c.audience = .client) (act : Action hit c d c₁ d₁) : Hollow state c₁ d₁ := by
  have both : c₁.held = .nothing ∧ (c₁.state = state ∨ c₁.state = .notStarted) := by
    cases act with
    | connects task | drains task | startsUp task | fallsBack task | succeeds task =>
      exact absurd task (h.apart _ _ rfl)
    | takes how =>
      cases how with
      | releases => exact ⟨rfl, h.kept⟩
      | _ => exact ⟨h.empty, h.kept⟩
    | @givesUp _ l hears who up sudden =>
      exfalso
      obtain ⟨x, rfl, task | listens⟩ := hears
      · obtain closed | used := attentive.turn x l rfl task
        · rw [up] at closed
          cases closed
        · rw [h.empty] at used
          cases used
      · exact b.mute client x rfl listens
    | resets => exact ⟨h.empty, .inr rfl⟩
    | _ => exact ⟨h.empty, h.kept⟩
  exact ⟨act.apart_attempt h.apart, both.1, both.2⟩

/-- A client that uses nothing stays as it is in the turn of an activity that is no attempt, unless
it is reset. -/
theorem invariant_hollow :
    Invariant Never fun c d _ => Oversees c d ∧ Hollow state c d := by
  refine ⟨fun sound h act => ?_, fun sound h idle pending untold => ?_, fun given => given.elim⟩
  · exact ⟨invariant_oversees.acts sound h.1 act,
      h.2.act h.1.2.2.2 sound.bounds h.1.2.1.1 act⟩
  · exact ⟨invariant_oversees.loses (t := _) sound h.1 idle pending untold,
      h.2.apart, h.2.empty, h.2.kept⟩

end Attending

variable {hit : Nat → Prop} {c c₁ : Client} {d d₁ : Option Doer} {ls lost : List Loss} {x : Doer}
  {a k l m n id : Nat} {t : Task} {s : Signal} {i : Input} {inputs rest : List Input}
  {stopped : Prop}

/-! ## After a disposal has begun -/

/-- Nobody shares an attempt before another one begins. -/
theorem alone_step (alone : c.attempt = none) (sound : Sound c none lost) (fits : i.Fits c) :
    c.attempts.length < (c.step i).attempts.length ∨ (c.step i).attempt = none := by
  let P (b : Client) (_ : Option Doer) (_ : List Loss) : Prop :=
    c.attempts.length ≤ b.attempts.length ∧
      (c.attempts.length < b.attempts.length ∨ b.attempt = none)
  have inv : Invariant Always P := by
    refine ⟨fun _ h act => ⟨Nat.le_trans h.1 act.attempts_le, ?_⟩, fun _ h _ _ _ => h,
      fun _ _ h begins => ?_⟩
    · obtain more | alone := h.2
      · exact .inl (Nat.lt_of_lt_of_le more act.attempts_le)
      · cases act with
        | shares => exact .inl (Nat.lt_of_le_of_lt h.1 (by simp [addAttempt, push]))
        | takes how =>
          rw [how.frame]
          exact .inr alone
        | disposes | detaches => exact .inr rfl
        | _ => exact .inr alone
    · obtain ⟨length, attempt, -⟩ := begins.outcome
      show c.attempts.length ≤ _ ∧ (c.attempts.length < _ ∨ _ = none)
      rwa [length, attempt]
  exact (inv.step trivial fits sound ⟨Nat.le_refl _, .inr alone⟩).2.2

/-- Someone disposes the client and is told that the attempt is over that it waits for. -/
def Resets (c : Client) : Prop :=
  ∃ (m a : Nat) (s : Signal), c.calls[m]? = some ⟨.stopping a, some s⟩ ∧
    (c.attemptOutcome? a).isSome

/-- The client is as it was before its server was ever started, or is about to be so. -/
def IsClear (c : Client) : Prop := c.state = .notStarted ∨ Resets c

/-- Where a disposal stands that has begun. -/
inductive Subsides (stopped : Prop) (c : Client) : CallPhase → Prop
  | goes {p : CallPhase} (h : Disposal c p) (waits : p.isLive) : Subsides stopped c p
  | returned (empty : c.held = .nothing) (clear : c.IsClear) : Subsides stopped c (.done .done)
  | broken (why : stopped) : Subsides stopped c (.done .cancelled)

theorem Disposal.subsides {p : CallPhase} (h : Disposal c p) : Subsides stopped c p := by
  cases h with
  | stops => exact .goes .stops rfl
  | asks => exact .goes .asks rfl
  | takesDown empty => exact .goes (.takesDown empty) rfl
  | ends empty reset => exact .returned empty (.inl reset)

/-- A disposal has begun, and nobody has asked for another start since. -/
structure Abates (n : Nat) (stopped : Prop) (c : Client) : Prop where
  here : n < c.calls.length
  alone : c.attempt = none
  attentive : Attentive c none
  told : c.told (.call n) = some .cancelled → stopped
  stands : ∀ q, c.calls[n]? = some q → Subsides stopped c q.phase

/-- How a step leaves the state of a client that uses nothing. -/
inductive Steps (c c₁ : Client) : Prop
  | stays (state : c₁.state = c.state)
  | resets (state : c₁.state = .notStarted)
  /-- An attempt ends, and those who wait for that are told. -/
  | ceases {k : Nat} (live : c.IsLive k) (ceased : ¬ c₁.IsLive k)
    (told : ∀ (m : Nat) (s : Option Signal), c₁.calls[m]? = some ⟨.stopping k, s⟩ → s.isSome)

theorem Poised.oversees (h : Poised c) (alone : c.attempt = none) (attentive : Attentive c none) :
    Oversees c none :=
  ⟨⟨h.sharing, h.handshake⟩, ⟨h.client, h.sharing, h.minds⟩, .inl alone, attentive⟩

theorem Begins.oversees {rest : List Task} (begins : Begins c rest c₁ d) (h : Poised c)
    (unstarting : Unstarting c₁ d) (attentive : Attentive c none) : Oversees c₁ d := by
  obtain ⟨lost, sound⟩ := h.sound
  exact ⟨invariant_handshake.begins h.heeded sound ⟨h.sharing, h.handshake⟩ begins,
    invariant_minds.begins trivial sound ⟨h.client, h.sharing, h.minds⟩ begins, unstarting,
    begins.attentive attentive⟩

theorem attentive_step (h : Poised c) (fits : i.Fits c) (alone : c.attempt = none)
    (attentive : Attentive c none) : Attentive (c.step i) none := by
  obtain ⟨lost, sound⟩ := h.sound
  obtain path | ⟨rest, c₁, d, begins, path⟩ := path_step sound.fit i fits
  · exact (invariant_oversees.path path sound (h.oversees alone attentive)).2.2.2.2
  · have unstarting : Unstarting c₁ d := .inl (begins.outcome.2.1.trans alone)
    exact (invariant_oversees.path path (begins.sound sound)
      (begins.oversees h unstarting attentive)).2.2.2.2

/-- An attempt in its turn leaves a client that uses nothing as it is, or ends. -/
theorem empty_turn_attempt {rest : List Task} (h : Poised c) (alone : c.attempt = none)
    (empty : c.held = .nothing) (ready : c.ready = .attempt k :: rest) :
    c.turn.held = .nothing ∧ Steps c c.turn := by
  obtain ⟨lost, sound⟩ := h.sound
  obtain ⟨⟨⟩⟩ | ⟨waits, told⟩ := sound.queue.canGo (.attempt k) (by simp [ready])
  obtain ⟨p, s, here⟩ := attempt_of_told told
  have stands : c.standing (.attempt k) = ⟨p.isLive, some s, p.role⟩ := by
    simp [standing, here, Attempt.standing]
  rw [stands] at waits
  have live : c.IsLive k := by
    refine ⟨(List.getElem?_eq_some_iff.mp here).1, ?_⟩
    rw [attemptOutcome_eq, here]
    exact AttemptPhase.outcome_of_isLive waits
  have heeds := h.heeded k live.1 live (fun same => by cases alone.symm.trans same)
  have mild := h.handshake.mild k
  simp only [Client.told, role, stands, AttemptPhase.teardown_role, Option.some.injEq]
    at heeds mild
  have falls := falls_runAttempt (c := { c with ready := rest }) here heeds
    (fun e t takes => mild t e takes) waits
  have turn : c.turn = ({ c with ready := rest } : Client).runAttempt k := by
    unfold Client.turn
    rw [ready]
    rfl
  rw [turn]
  refine ⟨falls.held.elim (fun same => same.trans empty) fun e => e, ?_⟩
  obtain same | ⟨ceased, told⟩ := falls.state
  · exact .stays same
  · exact .ceases live ceased told

/-- A client that uses nothing goes on to use nothing, and is reset at most, unless an attempt
ends. -/
theorem empty_step (h : Poised c) (fits : i.Fits c) (alone : c.attempt = none)
    (attentive : Attentive c none) (empty : c.held = .nothing) :
    (c.step i).held = .nothing ∧ Steps c (c.step i) := by
  obtain ⟨lost, sound⟩ := h.sound
  have hollow {d : Option Doer} (kept : Hollow c.state (c.step i) d) :
      (c.step i).held = .nothing ∧ Steps c (c.step i) :=
    ⟨kept.empty, kept.kept.elim .stays .resets⟩
  by_cases turns : i = .turn
  · subst turns
    cases ready : c.ready with
    | nil =>
      have still : c.step .turn = c := by
        show c.turn = c
        unfold turn
        rw [ready]
      rw [still]
      exact ⟨empty, .stays rfl⟩
    | cons t rest =>
      by_cases attempts : ∃ k, t = .attempt k
      · obtain ⟨k, rfl⟩ := attempts
        exact empty_turn_attempt h alone empty ready
      · obtain ⟨c₁, d, begins, path⟩ := @path_turn_of_ready NoHit c sound.fit t rest ready
        have apart : ∀ x n, d = some x → x.task ≠ .attempt n := by
          rintro x n rfl task
          have first := begins.first
          rw [ready, task] at first
          exact attempts ⟨n, (List.cons.inj first).1⟩
        have begun : Hollow c.state c₁ d :=
          ⟨apart, begins.frame.1.trans empty, .inl begins.frame.2.2.1⟩
        exact hollow (invariant_hollow.path path (begins.sound sound)
          ⟨begins.oversees h (.inr apart) attentive, begun⟩).2.2
  · have begun : Hollow c.state c none := ⟨(fun x n turn => by cases turn), empty, .inl rfl⟩
    exact hollow (invariant_hollow.path (path_input i fits turns) sound
      ⟨h.oversees alone attentive, begun⟩).2.2

theorem call_of_stopping (h : (c.role t).stopping = some k) :
    ∃ m s, t = .call m ∧ c.calls[m]? = some ⟨.stopping k, s⟩ := by
  cases t with
  | call m =>
    rcases here : c.calls[m]? with _ | ⟨p, s⟩ <;>
      simp only [role, standing, here, Option.map_none, Option.map_some] at h
    · cases h
    · cases p <;> cases h
      exact ⟨m, s, rfl, here⟩
  | attempt m =>
    rcases here : c.attempts[m]? with _ | ⟨p, s⟩ <;>
      simp only [role, standing, here, Option.map_none, Option.map_some] at h
    · cases h
    · cases p <;> cases h
  | _ => cases h

/-- The state of a disposed client is restored by those who wait for the end of an attempt. -/
theorem IsClear.step (h : c.IsClear) (poised : Poised c) (fits : i.Fits c)
    (alone : c.attempt = none) (empty : c.held = .nothing) (steps : Steps c (c.step i)) :
    (c.step i).IsClear := by
  obtain ⟨lost, sound⟩ := poised.sound
  cases steps with
  | resets state => exact .inl state
  | stays state =>
    obtain clear | ⟨m, a, s, here, ceased⟩ := h
    · exact .inl (state.trans clear)
    · by_cases own : c.IsTurn m i
      · obtain ⟨rfl, first⟩ := own
        obtain ⟨rest, ready⟩ := List.head?_eq_some_iff.mp first
        left
        show c.turn.state = _
        rw [turn_call ready here]
        exact state_afterStopping (by exact empty)
      · right
        have told : c.told (.call m) = some s := by simp [Client.told, standing, here, Call.standing]
        have later := told_step sound fits own (by rw [told]; rfl)
        obtain ⟨s', after⟩ := call_kept sound fits own here
        obtain ⟨p, s₁, after'⟩ := call_of_told later
        obtain ⟨rfl, rfl⟩ : CallPhase.stopping a = p ∧ s' = some s₁ := by
          simpa using Option.some.inj (after.symm.trans after')
        obtain ⟨o, ended⟩ := Option.isSome_iff_exists.mp ceased
        refine ⟨m, a, s₁, after', ?_⟩
        rw [(invariant_outcome.step trivial fits sound ⟨poised.sharing, ended⟩).2.2]
        rfl
  | @ceases k live ceased told =>
    right
    obtain shared | ⟨t, stops⟩ := poised.sharing.owned k live
    · rw [alone] at shared
      cases shared
    · obtain ⟨m, s, rfl, here⟩ := call_of_stopping stops
      have apart : ¬ c.IsTurn m i := by
        rintro ⟨rfl, first⟩
        obtain ⟨⟨⟩⟩ | ⟨-, known⟩ := sound.queue.canGo (.call m) (List.mem_of_head? first)
        have := poised.sharing.told (.call m) k stops known
        rw [live.2] at this
        cases this
      obtain ⟨s', after⟩ := call_kept sound fits apart here
      obtain ⟨s₁, rfl⟩ := Option.isSome_iff_exists.mp (told m s' after)
      refine ⟨m, k, s₁, after, ?_⟩
      rw [Option.isSome_iff_ne_none]
      intro goes
      exact ceased ⟨Nat.lt_of_lt_of_le live.1 (attempts_le_step sound fits), goes⟩

/-- A disposal that has its turn comes closer to its end. -/
theorem Abates.turn (h : Abates n stopped c) (poised : Poised c) {q : Call}
    (first : c.ready.head? = some (.call n)) (after : c.turn.calls[n]? = some q) :
    Subsides stopped c.turn q.phase := by
  obtain ⟨lost, sound⟩ := poised.sound
  obtain ⟨rest, ready⟩ := List.head?_eq_some_iff.mp first
  obtain ⟨p, s, here⟩ := exists_call sound first
  obtain ⟨⟨⟩⟩ | ⟨waits, -⟩ := sound.queue.canGo (.call n) (by simp [ready])
  have stands : c.standing (.call n) = ⟨p.isLive, some s, p.role⟩ := by
    simp [standing, here, Call.standing]
  rw [stands] at waits
  cases h.stands _ here with
  | returned => cases waits
  | broken => cases waits
  | goes disposal =>
    rw [turn_call ready here] at after ⊢
    have begun : Disposal (({ c with ready := rest } : Client).setCall n .running) p :=
      disposal.congr rfl rfl
    have verdict l id deadline (e : p = .shuttingDown l id deadline) :
        s.isVerdict ∨ s = .cancelled := by
      subst e
      exact poised.verdicts n l id deadline s here
    obtain ends | ⟨cancelled, ends⟩ := disposal_resumeCall begun waits verdict after
    · exact ends.subsides
    · rw [ends]
      refine .broken (h.told ?_)
      rw [Client.told, stands]
      exact congrArg some cancelled

theorem Abates.step (h : Abates n stopped c) (poised : Poised c) (fits : i.Fits c)
    (why : i = .cancel n → stopped) :
    c.attempts.length < (c.step i).attempts.length ∨ Abates n stopped (c.step i) := by
  obtain ⟨lost, sound⟩ := poised.sound
  refine (alone_step h.alone sound fits).imp_right fun alone => ?_
  refine ⟨Nat.lt_of_lt_of_le h.here (calls_le_step sound fits), alone,
    attentive_step poised fits h.alone h.attentive, fun told => ?_, fun q after => ?_⟩
  · by_contra goes
    refine uncancelled_step sound fits (fun struck => goes ?_) (fun told => goes (h.told told)) told
    exact why (Input.eq_cancel struck h.here)
  · by_cases own : c.IsTurn n i
    · obtain ⟨rfl, first⟩ := own
      exact h.turn poised first after
    · obtain ⟨⟨p, s⟩, before⟩ : ∃ q, c.calls[n]? = some q := ⟨_, List.getElem?_eq_getElem h.here⟩
      obtain ⟨s', kept⟩ := call_kept sound fits own before
      obtain rfl := Option.some.inj (after.symm.trans kept)
      have stands : Subsides stopped c p := h.stands _ before
      show Subsides stopped (c.step i) p
      have empty_after := empty_step poised fits h.alone h.attentive
      cases stands with
      | goes disposal waits =>
        refine .goes ?_ waits
        cases disposal with
        | stops => exact .stops
        | asks => exact .asks
        | takesDown empty => exact .takesDown (empty_after empty).1
        | ends => cases waits
      | returned empty clear =>
        obtain ⟨empty₁, steps⟩ := empty_after empty
        exact .returned empty₁ (clear.step poised fits h.alone empty steps)
      | broken why => exact .broken why

/-! ## Clients at rest -/

/-- A client as it was before its server was ever started. -/
structure IsDown (c : Client) : Prop where
  state : c.state = .notStarted
  capabilities : c.capabilities = .null
  held : c.held = .nothing
  attempt : c.attempt = none

theorem Abates.outcome (h : Abates n stopped c) {o : Outcome} (ended : c.callOutcome? n = some o) :
    o = .done ∨ o = .cancelled ∧ stopped := by
  obtain ⟨s, here⟩ := callOutcome_eq_some.mp ended
  have stands : Subsides stopped c (.done o) := h.stands _ here
  cases stands with
  | goes _ waits => cases waits
  | returned => exact .inl rfl
  | broken why => exact .inr ⟨rfl, why⟩

/-- A client is down when its disposal has returned and nobody has anything to do. -/
theorem Abates.isDown (h : Abates n stopped c) (poised : Poised c) (rest : c.ready = [])
    (returned : c.callOutcome? n = some .done) : c.IsDown := by
  obtain ⟨lost, sound⟩ := poised.sound
  obtain ⟨s, here⟩ := callOutcome_eq_some.mp returned
  have stands : Subsides stopped c (.done .done) := h.stands _ here
  cases stands with
  | goes _ waits => cases waits
  | returned empty clear =>
    have state : c.state = .notStarted := by
      refine clear.resolve_right fun waits => ?_
      obtain ⟨m, a, s, here, -⟩ := waits
      have told : c.told (.call m) = some s := by simp [Client.told, standing, here, Call.standing]
      have queued := sound.queue.queued (.call m) (by rw [told]; rfl)
      rw [rest] at queued
      cases queued
    refine ⟨state, ?_, empty, h.alone⟩
    by_contra known
    cases (poised.current.ready known).symm.trans state

/-- A disposal of a client that is down does nothing but return. -/
theorem IsDown.dispose (h : c.IsDown) (rest : c.ready = []) :
    c.run [.call .dispose, .turn] = { c with
      calls := c.calls ++ [⟨.done .done, none⟩]
      history := .finished c.calls.length .done :: c.history } := by
  have added : (c.step (.call .dispose)).calls[c.calls.length]? =
      some ⟨.fresh .dispose, some .go⟩ := by simp [step, addCall, push]
  have first : (c.step (.call .dispose)).ready = [.call c.calls.length] := by
    simp [step, addCall, push, rest]
  show (c.step (.call .dispose)).turn = _
  rw [turn_call first added]
  show Client.dispose _ _ = _
  unfold Client.dispose
  rw [show ((({ c.step (.call .dispose) with ready := [] } : Client)).setCall c.calls.length
    .running).attempt = none from h.attempt]
  dsimp only
  rw [shutDown_of_empty (by exact h.held)]
  have state := h.state
  have capabilities := h.capabilities
  obtain ⟨⟩ := c
  dsimp only at state capabilities rest
  subst state capabilities rest
  simp [succeed, finish, reset, emit, setCall, step, addCall, push]

/-- Nothing can go on, and no disposal is about to begin. -/
structure AtEase (c : Client) : Prop where
  poised : Poised c
  undisposed : Undisposed c
  rest : c.ready = []

theorem Abates.run (h : Abates n stopped c) (poised : Poised c) (undisposed : Undisposed c)
    (fits : ∀ i ∈ inputs, i.Fits c) (others : .call .dispose ∉ inputs)
    (why : .cancel n ∈ inputs → stopped) :
    c.attempts.length < (c.run inputs).attempts.length ∨ Abates n stopped (c.run inputs) := by
  induction inputs generalizing c with
  | nil => exact .inr h
  | cons i inputs ih =>
    obtain ⟨lost, sound⟩ := poised.sound
    obtain ⟨here, later⟩ := Input.Fits.step fits sound
    have other : i ≠ .call .dispose := fun e => others (by simp [e])
    have poised₁ := poised.step here fun _ => undisposed.notices
    have undisposed₁ := undisposed.step sound here other
    have others₁ (mem : .call .dispose ∈ inputs) := others (List.mem_cons_of_mem _ mem)
    obtain more | abates := h.step poised here fun e => why (by simp [e])
    · obtain ⟨lost₁, sound₁⟩ := poised₁.sound
      exact .inl (Nat.lt_of_lt_of_le more (grows_run sound₁ later).1)
    · obtain more | abates := ih abates poised₁ undisposed₁ later others₁
        fun mem => why (List.mem_cons_of_mem _ mem)
      · exact .inl (Nat.lt_of_le_of_lt (attempts_le_step sound here) more)
      · exact .inr abates

theorem AtEase.ready_dispose (h : AtEase c) :
    (c.step (.call .dispose)).ready = [.call c.calls.length] := by
  simp [step, addCall, push, h.rest]

/-- A disposal that begins when nothing else can go on has its turn at once. -/
theorem AtEase.begins_disposal (h : AtEase c) (sound : Sound (c.step (.call .dispose)) none lost) :
    ∃ c₁ x ls, Begins (c.step (.call .dispose)) [] c₁ (some x) ∧
      Path NoHit c₁ (some x) ls (c.run [.call .dispose, .turn]) none ∧
      x.task = .call c.calls.length ∧ c₁.calls = c.calls ++ [⟨.running, none⟩] := by
  obtain ⟨c₁, d, begins, path⟩ := @path_turn_of_ready NoHit _ sound.fit _ _ h.ready_dispose
  obtain ⟨x, rfl, task, calls⟩ : ∃ x, d = some x ∧ x.task = .call c.calls.length ∧
      c₁.calls = (c.step (.call .dispose)).calls.set c.calls.length ⟨.running, none⟩ := by
    cases begins with
    | call ready =>
      obtain ⟨e, -⟩ := List.cons.inj (h.ready_dispose.symm.trans ready)
      obtain rfl := Task.call.inj e
      exact ⟨_, rfl, rfl, rfl⟩
    | listener ready | drain ready | attempt ready | relay ready =>
      cases h.ready_dispose.symm.trans ready
  refine ⟨c₁, x, _, begins, path, task, calls.trans ?_⟩
  simp [step, addCall, push]

/-- A disposal that begins when nothing else can go on. -/
theorem AtEase.disposal (h : AtEase c) (stopped : Prop) :
    Poised (c.run [.call .dispose, .turn]) ∧ Undisposed (c.run [.call .dispose, .turn]) ∧
      Abates c.calls.length stopped (c.run [.call .dispose, .turn]) := by
  have begun : Poised (c.step (.call .dispose)) :=
    h.poised.step h.poised.client fun turn => by cases turn
  obtain ⟨lost, sound⟩ := begun.sound
  have added : (c.step (.call .dispose)).calls[c.calls.length]? =
      some ⟨.fresh .dispose, some .go⟩ := by simp [step, addCall, push]
  have notices := begun.resting.not_overlooks begun.closing sound.queue h.ready_dispose
  have turn : c.run [.call .dispose, .turn] =
      (({ c.step (.call .dispose) with ready := [] } : Client).setCall c.calls.length
        .running).dispose c.calls.length := turn_call h.ready_dispose added
  obtain ⟨c₁, x, ls, begins, path, task, calls⟩ := h.begins_disposal sound
  refine ⟨begun.step (i := .turn) trivial fun _ => notices, ?_, ?_⟩
  · refine path.undisposed (fun struck => struck) fun m s here => ?_
    rw [calls, List.getElem?_append] at here
    split at here
    · exact h.undisposed m s here
    · rw [List.getElem?_singleton] at here
      split at here
      · cases here
      · cases here
  · have attentive : Attentive (c.step (.call .dispose)) none := by
      refine attentive_of_untold fun l => Option.not_isSome_iff_eq_none.mp fun told => ?_
      have queued := sound.queue.queued _ told
      rw [h.ready_dispose] at queued
      simp at queued
    have oversees := begins.oversees begun (.inr fun y m turn own => by
      cases turn
      cases own.symm.trans task) attentive
    refine ⟨?_, ?_, ?_, fun told => ?_, fun q after => ?_⟩
    · exact Nat.lt_of_lt_of_le (List.getElem?_eq_some_iff.mp added).1
        (calls_le_step (i := .turn) sound trivial)
    · rw [turn]
      exact attempt_dispose
    · exact (invariant_oversees.path path (begins.sound sound) oversees).2.2.2.2
    · refine absurd told (path.uncancelled (begins.queue sound.queue) (fun struck => struck) ?_)
      rw [((begins.queue sound.queue).apart _ (congrArg some task)).2.2.2]
      intro cancelled
      cases cancelled
    · rw [turn] at after ⊢
      exact (isDisposal_dispose q after).subsides

/-- A disposal that begins at rest has its turn before the client is at rest again. -/
theorem AtEase.disposal_of_rest (h : AtEase c)
    (after : (c.run (.call .dispose :: List.replicate k .turn)).ready = []) :
    ∃ j, c.run (.call .dispose :: List.replicate k .turn) =
      (c.run [.call .dispose, .turn]).run (List.replicate j .turn) := by
  cases k with
  | zero => cases h.ready_dispose.symm.trans after
  | succ j => exact ⟨j, rfl⟩

theorem fits_turns {i : Input} (mem : i ∈ List.replicate k .turn) : i.Fits c := by
  rw [List.eq_of_mem_replicate mem]
  trivial

/-- Once a disposal has begun at rest, nothing is in use any more that was not before, unless
another start was asked for. -/
theorem AtEase.disposes (h : AtEase c) (stopped : Prop)
    (after : (c.run (.call .dispose :: List.replicate k .turn)).ready = []) :
    AtEase (c.run (.call .dispose :: List.replicate k .turn)) ∧
      (c.attempts.length < (c.run (.call .dispose :: List.replicate k .turn)).attempts.length ∨
        Abates c.calls.length stopped (c.run (.call .dispose :: List.replicate k .turn))) := by
  obtain ⟨j, e⟩ := h.disposal_of_rest after
  rw [e] at after ⊢
  obtain ⟨poised, undisposed, abates⟩ := h.disposal stopped
  obtain ⟨lost, sound⟩ := h.poised.sound
  have fits : ∀ i ∈ [Input.call .dispose, .turn], i.Fits c := by
    rintro i (_ | ⟨_, _ | ⟨_, ⟨⟩⟩⟩)
    · exact h.poised.client
    · trivial
  have le := (grows_run sound fits).1
  have others : Input.call .dispose ∉ List.replicate j .turn := by simp
  obtain ⟨poised₁, undisposed₁⟩ := poised.run undisposed (fun i => fits_turns) others
  refine ⟨⟨poised₁, undisposed₁, after⟩, ?_⟩
  refine (abates.run poised undisposed (fun i => fits_turns) others fun mem => ?_).imp_left
    (Nat.lt_of_le_of_lt le)
  cases List.eq_of_mem_replicate mem

section Meets
variable (fits : ∀ i ∈ inputs, i.Fits c)
  (alone : .call .dispose ∈ inputs → inputs = [.call .dispose])
include fits alone

/-- A client is at ease again when what was given to it has come to rest. -/
theorem AtEase.meets (h : AtEase c) (after : (c.run (inputs ++ List.replicate k .turn)).ready = []) :
    AtEase (c.run (inputs ++ List.replicate k .turn)) := by
  by_cases disposes : .call .dispose ∈ inputs
  · rw [alone disposes] at after ⊢
    exact (h.disposes True after).1
  · have others : .call .dispose ∉ inputs ++ List.replicate k .turn := by simp [disposes]
    obtain ⟨poised, undisposed⟩ := h.poised.run h.undisposed
      (fun i mem => (List.mem_append.mp mem).elim (fits i) fits_turns) others
    exact ⟨poised, undisposed, after⟩

/-- What every step keeps is kept until the client is at ease again. -/
theorem AtEase.carries {P : Client → Prop}
    (step : ∀ (b : Client) (i : Input), Poised b → i.Fits b → P b → P (b.step i)) (h : AtEase c)
    (after : (c.run (inputs ++ List.replicate k .turn)).ready = []) (holds : P c) :
    P (c.run (inputs ++ List.replicate k .turn)) := by
  by_cases disposes : .call .dispose ∈ inputs
  · rw [alone disposes] at after ⊢
    obtain ⟨j, e⟩ := h.disposal_of_rest after
    have begins : Input.Fits c (.call .dispose) := h.poised.client
    obtain ⟨poised, undisposed, -⟩ := h.disposal True
    have others : Input.call .dispose ∉ List.replicate j .turn := by simp
    have first := step c _ h.poised begins holds
    show P (c.run (.call .dispose :: List.replicate k .turn))
    rw [e]
    exact poised.carries step undisposed (fun i => fits_turns) others
      (step _ .turn (h.poised.step begins nofun) trivial first)
  · have others : .call .dispose ∉ inputs ++ List.replicate k .turn := by simp [disposes]
    exact h.poised.carries step h.undisposed
      (fun i mem => (List.mem_append.mp mem).elim (fits i) fits_turns) others holds

theorem Abates.meets (h : Abates n stopped c) (ease : AtEase c)
    (why : .cancel n ∈ inputs → stopped) :
    c.attempts.length < (c.run (inputs ++ List.replicate k .turn)).attempts.length ∨
      c.calls.length < (c.run (inputs ++ List.replicate k .turn)).calls.length ∨
      Abates n stopped (c.run (inputs ++ List.replicate k .turn)) := by
  by_cases disposes : .call .dispose ∈ inputs
  · right
    left
    rw [alone disposes]
    obtain ⟨lost, sound⟩ := (ease.poised.step (i := .call .dispose) ease.poised.client nofun).sound
    have le := (grows_run sound fun i mem => fits_turns (k := k) mem).2
    have grows : (c.step (.call .dispose)).calls.length = c.calls.length + 1 := List.length_append
    rw [grows] at le
    exact le
  · have others : .call .dispose ∉ inputs ++ List.replicate k .turn := by simp [disposes]
    refine (h.run ease.poised ease.undisposed
      (fun i mem => (List.mem_append.mp mem).elim (fits i) fits_turns) others fun mem => ?_).imp_right .inr
    refine why ((List.mem_append.mp mem).resolve_right fun mem => ?_)
    cases List.eq_of_mem_replicate mem

end Meets

end LspGateway.Client
