import LspGateway.Proofs.Client.Serving
import Mathlib.Data.List.Infix

/-! # How attempts begin, run and end

Unless someone disposes the client while an attempt goes on, one attempt goes on at a
time. It begins in the turn of a call, it runs the command once at most, and whoever
waits for it comes to what it comes to.
-/

namespace LspGateway.Client

variable {hit : Nat → Prop} {c c₁ b : Client} {d d₁ : Option Doer} {ls lost : List Loss} {x y : Doer}
  {l k n m a id : Nat} {t : Task} {s : Signal} {o : Outcome} {i : Input} {inputs rest : List Input}

/-- Someone disposes the client while an attempt goes on. -/
def Contended (c : Client) : Prop := Disposing c none ∧ ∃ n, c.IsLive n

theorem disposing_iff : Disposing c none ↔ ∃ k ∈ c.calls, k.phase.role.disposes := by
  constructor
  · rintro ⟨t, disposes⟩
    rw [roleBy, role] at disposes
    cases t with
    | call n =>
      rcases here : c.calls[n]? with _ | k
      · simp [standing, here, Standing.absent, Role.idle] at disposes
      · refine ⟨k, List.mem_of_getElem? here, ?_⟩
        simpa [standing, here, Call.standing] using disposes
    | attempt n =>
      rcases here : c.attempts[n]? with _ | ⟨p, s⟩
      · simp [standing, here, Standing.absent, Role.idle] at disposes
      · cases p <;> simp [standing, here, Attempt.standing, AttemptPhase.role, Role.idle,
          Role.attempting] at disposes
    | listener l | drain l | relay a => cases disposes
  · rintro ⟨k, mem, disposes⟩
    obtain ⟨n, here⟩ := List.mem_iff_getElem?.mp mem
    refine ⟨.call n, ?_⟩
    simpa [roleBy, role, standing, here, Call.standing] using disposes

instance : Decidable (Contended c) :=
  decidable_of_iff ((∃ k ∈ c.calls, k.phase.role.disposes) ∧ ∃ n < c.attempts.length, c.IsLive n) <|
    and_congr disposing_iff.symm
      ⟨fun ⟨n, _, live⟩ => ⟨n, live⟩, fun ⟨n, live⟩ => ⟨n, live.1, live⟩⟩

/-- No state, so that what begins in it needs no proof. -/
def Never (_ : Client) : Prop := False

/-! ## The beginning -/

/-- A call that sends something leaves alone what attempts there are, or adds one to those
that are over. -/
structure Renews (c c₁ : Client) : Prop where
  added : c₁ = c.addAttempt
  cold : c.state ≠ .ready
  ceased : ∀ a, c.attempt = some a → (c.attemptOutcome? a).isSome

theorem Action.attempts_length (act : Action hit c d c₁ d₁) :
    c₁.attempts.length = c.attempts.length ∨
      Renews c c₁ ∧ d₁ = d ∧ ∃ x, d = some x ∧ x.role.errand = .sends := by
  cases act with
  | shares sends cold ceased => exact .inr ⟨⟨rfl, cold, ceased⟩, rfl, _, rfl, sends⟩
  | answers | fails => exact .inl attempts_length_prompt
  | takes how =>
    rw [how.frame]
    exact .inl rfl
  | tellsAttempt | parksAttempt | endsAttempt | succeeds => exact .inl (List.length_set ..)
  | _ => exact .inl rfl

/-- While a call that sends something has its turn, only such a call changes what attempts
there are. -/
theorem Action.keeps_attempts (act : Action hit c (some x) c₁ d₁) (b : Bounds c (some x))
    (sends : x.role.errand = .sends) :
    Renews c c₁ ∨ c₁.state = c.state ∧ c₁.attempt = c.attempt ∧
      ∀ n, c₁.attemptOutcome? n = c.attemptOutcome? n := by
  have call : ∀ n, x.task ≠ .attempt n := by
    rintro n task
    have := b.calls x.task (by rw [roleBy_self rfl, sends]; nofun)
    rw [task] at this
    cases this
  have kept := act.outcome fun m own => absurd (Option.some.inj own) (call m)
  have outcome n : c₁.attemptOutcome? n = c.attemptOutcome? n := by
    obtain same | ⟨own, -⟩ := kept n
    · exact same
    · exact absurd (Option.some.inj own) (call n)
  cases act with
  | shares _ cold ceased => exact .inl ⟨rfl, cold, ceased⟩
  | disposes errand | detaches errand => cases sends.symm.trans errand
  | startsUp task | fallsBack task | succeeds task => exact absurd task (call _)
  | givesUp hears =>
    obtain ⟨_, ⟨⟩, task | listens⟩ := hears
    · have := b.calls x.task (by rw [roleBy_self rfl, sends]; nofun)
      rw [task] at this
      cases this
    · cases sends.symm.trans listens
  | resets who =>
    have := b.disposes x.task (by rwa [roleBy_self rfl])
    rw [roleBy_self rfl, sends] at this
    cases this
  | takes how =>
    refine .inr ⟨?_, ?_, outcome⟩ <;> rw [how.frame]
  | _ => exact .inr ⟨rfl, rfl, outcome⟩

/-- What has become of the attempts since the turn of a call that sends something began. -/
inductive Renewing (b c : Client) (d : Option Doer) : Prop
  | keeps (length : c.attempts.length = b.attempts.length)
    (same : ∀ x, d = some x → x.role.errand = .sends → c.state = b.state ∧
      c.attempt = b.attempt ∧ ∀ n, c.attemptOutcome? n = b.attemptOutcome? n)
  | adds (length : c.attempts.length = b.attempts.length + 1) (cold : b.state ≠ .ready)
    (ceased : ∀ a, b.attempt = some a → (b.attemptOutcome? a).isSome)
    (shared : ∀ x, d = some x → x.role.errand = .sends →
      ∃ n, c.attempt = some n ∧ c.attemptOutcome? n = none)

theorem Renewing.act (h : Renewing b c d) (act : Action hit c d c₁ d₁) (bounds : Bounds c d) :
    Renewing b c₁ d₁ := by
  have errand : ∀ y, d₁ = some y → y.role.errand = .sends →
      ∃ x, d = some x ∧ x.role.errand = .sends := by
    rintro y rfl sends
    cases d with
    | none => cases act.none_eq
    | some x => exact ⟨x, rfl, act.task_eq.2.2.2 ▸ sends⟩
  obtain length | ⟨⟨rfl, cold, ceased⟩, rfl, x, rfl, sends⟩ := act.attempts_length
  · cases h with
    | keeps before same =>
      refine .keeps (length.trans before) fun y turn sends => ?_
      obtain ⟨x, rfl, sends⟩ := errand y turn sends
      obtain ⟨rfl, -⟩ | ⟨state, attempt, outcome⟩ := act.keeps_attempts bounds sends
      · simp [addAttempt, push] at length
      · obtain ⟨state', attempt', outcome'⟩ := same x rfl sends
        exact ⟨state.trans state', attempt.trans attempt',
          fun n => (outcome n).trans (outcome' n)⟩
    | adds before cold ceased shared =>
      refine .adds (length.trans before) cold ceased fun y turn sends => ?_
      obtain ⟨x, rfl, sends⟩ := errand y turn sends
      obtain ⟨rfl, -⟩ | ⟨-, attempt, outcome⟩ := act.keeps_attempts bounds sends
      · simp [addAttempt, push] at length
      · obtain ⟨n, used, live⟩ := shared x rfl sends
        exact ⟨n, attempt.trans used, (outcome n).trans live⟩
  · cases h with
    | keeps before same =>
      obtain ⟨state, attempt, outcome⟩ := same x rfl sends
      refine .adds ?_ (state ▸ cold) (fun a used => ?_) fun y turn _ => ⟨_, rfl, ?_⟩
      · simp [addAttempt, push, before]
      · rw [← outcome]
        exact ceased a (attempt.trans used)
      · exact attemptOutcome_addAttempt
    | adds _ _ _ shared =>
      obtain ⟨n, used, live⟩ := shared x rfl sends
      have := ceased n used
      rw [live] at this
      cases this

theorem Renewing.lose (h : Renewing b c d) : Renewing b (c.forget l id) d := by
  cases h with
  | keeps length same => exact .keeps length same
  | adds length cold ceased shared => exact .adds length cold ceased shared

theorem invariant_renewing : Invariant Never fun c d _ => Renewing b c d :=
  ⟨fun sound h act => h.act act sound.bounds, fun _ h _ _ _ => h.lose, fun given => given.elim⟩

/-- Who is live is shared, unless someone who disposes the client stops it. -/
theorem Sharing.shared (h : Sharing c none) (apart : ¬ Contended c) (live : c.IsLive n) :
    c.attempt = some n := by
  obtain shared | ⟨t, stopping⟩ := h.owned n live
  · exact shared
  · exact absurd ⟨⟨t, h.stops t (by rw [stopping]; rfl)⟩, n, live⟩ apart

/-- One attempt goes on at a time. -/
theorem Sharing.unique (h : Sharing c none) (apart : ¬ Contended c) (hn : c.IsLive n)
    (hm : c.IsLive m) : n = m :=
  Option.some.inj ((h.shared apart hn).symm.trans (h.shared apart hm))

/-- Only a call that sends something adds an attempt. -/
theorem Path.attempts_length (path : Path hit c d ls c₁ d₁)
    (quiet : ∀ x, d = some x → x.role.errand ≠ .sends) :
    c₁.attempts.length = c.attempts.length := by
  induction path with
  | nil => rfl
  | @step c d c₁ d₁ _ _ _ act _ ih =>
    obtain same | ⟨-, -, x, turn, sends⟩ := act.attempts_length
    · refine (ih fun y turn => ?_).trans same
      subst turn
      cases d with
      | none => cases act.none_eq
      | some x => rw [act.task_eq.2.2.2]; exact quiet x rfl
    · exact absurd sends (quiet x turn)
  | loses _ _ _ _ ih => exact ih quiet

/-- A call that has something to ask of the server in its turn. -/
def CallPhase.asks : CallPhase → Bool
  | .fresh job => job.needsServer
  | .joined _ sends => !sends.tail.isEmpty
  | .awaiting _ _ rest => !rest.isEmpty
  | _ => false

/-- The next turn is that of a call that has something to ask of the server. -/
def AsksNext (c : Client) : Prop :=
  ∃ n p s, c.ready.head? = some (.call n) ∧ c.calls[n]? = some ⟨p, s⟩ ∧ p.asks

theorem attempts_sendOne {send : Send} {rest : List Send} :
    (c.sendOne n send rest).1.attempts = c.attempts := by
  unfold sendOne
  split
  · rfl
  · next l usable =>
    cases send with
    | notify method params =>
      have sent := (activities_notify (c := c) (l := l) method params).1
      dsimp only
      split <;> next e => rw [e] at sent; exact sent
    | request method params =>
      have sent := (activities_request (c := c) (l := l) (t := .call n) method params).1
      dsimp only
      split <;> next e => rw [e] at sent; exact sent

/-- A call that has nothing more to ask of the server begins no attempt. -/
theorem attempts_resumeCall {p : CallPhase} (sends : p.role.errand = .sends)
    (idle : p.asks = false) : (c.resumeCall n s p).attempts = c.attempts := by
  cases p with
  | fresh job =>
    simp only [resumeCall]
    split
    · rfl
    · cases job with
      | sends ss =>
        cases ss with
        | nil => rfl
        | cons => cases idle
      | start => cases idle
      | _ => cases sends
  | joined b ss =>
    have joined : (c.sendJoined n ss).attempts = c.attempts := by
      unfold sendJoined
      split
      · rfl
      · next send rest =>
        obtain rfl : rest = [] := by simpa [CallPhase.asks] using idle
        have sent : (c.sendOne n send []).1.attempts = c.attempts := attempts_sendOne
        split <;> next e => rw [e] at sent; exact sent
    simp only [resumeCall]
    split
    · exact joined
    · rfl
    · rfl
  | awaiting l id rest =>
    obtain rfl : rest = [] := by simpa [CallPhase.asks] using idle
    simp only [resumeCall]
    split <;> rfl
  | _ => cases sends

/-- An attempt begins in the turn of a call that has something to ask of the server, while the client is not ready
and no attempt goes on. -/
theorem attempt_begins (sound : Sound c none lost) (sharing : Sharing c none)
    (apart : ¬ Contended c) (fits : i.Fits c)
    (more : (c.step i).attempts.length ≠ c.attempts.length) :
    (c.step i).attempts.length = c.attempts.length + 1 ∧ c.state ≠ .ready ∧
      (∀ m, ¬ c.IsLive m) ∧ i = .turn ∧ AsksNext c := by
  have turns : i = .turn := by
    by_contra outside
    exact more ((path_input i fits outside).attempts_length fun _ h => (by cases h))
  obtain path | ⟨rest, c₁, d, begins, path⟩ := path_step sound.fit i fits
  · exact absurd (path.attempts_length fun _ h => (by cases h)) more
  · obtain ⟨length, attempt, outcome, -⟩ := begins.outcome
    have renewing : Renewing c c₁ d :=
      .keeps length fun _ _ _ => ⟨begins.frame.2.2.1, attempt, outcome⟩
    obtain ⟨-, after⟩ := invariant_renewing.path path (begins.sound sound) renewing
    cases after with
    | keeps same => exact absurd same more
    | adds grows cold ceased =>
      refine ⟨grows, cold, fun m live => ?_, turns, ?_⟩
      · have := ceased m (sharing.shared apart live)
        rw [live.2] at this
        cases this
      · by_contra idle
        refine more ((path.attempts_length fun x turn sends => idle ?_).trans length)
        subst turn
        have errand : (c.role x.task).errand = .sends := by rw [← sends, begins.turn.2.2.1]
        have call := sound.bounds.calls x.task (by simp [roleBy, errand])
        have told := begins.turn.1
        have first := begins.first
        cases task : x.task with
        | call n =>
          rw [task] at errand told first
          obtain ⟨p, s, here⟩ := call_of_told (c := c) (n := n) (by rw [told]; rfl)
          refine ⟨n, p, _, by rw [first]; rfl, here, ?_⟩
          by_contra silent
          have sends : p.role.errand = .sends := by
            simpa [role, standing, here, Call.standing] using errand
          refine more (congrArg List.length (?_ : (c.step i).attempts = c.attempts))
          rw [turns]
          show c.turn.attempts = c.attempts
          rw [turn_call first here]
          exact attempts_resumeCall sends (by simpa using silent)
        | _ => rw [task] at call; cases call

/-! ## The command -/

/-- The attempt runs no command any more. -/
def Strand.isPast : Strand → Bool
  | .early => false
  | .starts => false
  | _ => true

theorem Action.isPast (act : Action hit c (some x) c₁ (some y)) (past : x.role.strand.isPast) :
    y.role.strand.isPast := by
  cases act with
  | greets | turnsBack | spends => rfl
  | startsUp _ early => rw [early] at past; cases past
  | connects _ _ starts => rw [starts] at past; cases past
  | _ => exact past

theorem Action.spawns (act : Action hit c d c₁ d₁) :
    c₁.spawns = c.spawns ∨ c₁.spawns = c.spawns + 1 ∧ ∃ x y n, d = some x ∧ d₁ = some y ∧
      x.task = .attempt n ∧ x.role.strand.isPast = false ∧ y.role.strand.isPast := by
  cases act with
  | spends task starts ps =>
    exact .inr ⟨rfl, _, _, _, rfl, rfl, task, by rw [starts]; rfl, rfl⟩
  | connects task _ starts _ _ p =>
    refine .inr ⟨rfl, _, _, _, rfl, rfl, task, by rw [starts]; rfl, ?_⟩
    cases input : p.hasInput <;> simp [Doer.turnTo, Strand.isPast]
  | takes how =>
    rw [how.frame]
    exact .inl rfl
  | _ => exact .inl rfl

/-- A turn runs the command once at most, and only for an attempt that has not run it. -/
theorem Path.spawns (path : Path hit c d ls c₁ d₁) :
    c₁.spawns = c.spawns ∨ c₁.spawns = c.spawns + 1 ∧
      ∃ x n, d = some x ∧ x.task = .attempt n ∧ x.role.strand.isPast = false := by
  induction path with
  | nil => exact .inl rfl
  | @step c d c₁ d₁ _ _ _ act _ ih =>
    obtain same | ⟨more, x, y, n, rfl, rfl, task, before, past⟩ := act.spawns
    · obtain same' | ⟨more, y, n, rfl, task, early⟩ := ih
      · exact .inl (same'.trans same)
      · cases d with
        | none => cases act.none_eq
        | some x =>
          refine .inr ⟨more.trans (by rw [same]), x, n, rfl, act.task_eq.1 ▸ task, ?_⟩
          by_contra late
          rw [act.isPast (by simpa using late)] at early
          cases early
    · obtain same | ⟨-, z, m, turn, -, early⟩ := ih
      · exact .inr ⟨by rw [same, more], x, n, rfl, task, before⟩
      · obtain rfl := Option.some.inj turn
        rw [past] at early
        cases early
  | loses _ _ _ _ ih => exact ih

/-- The attempt has come so far that it runs no command any more, or is over. -/
def HasRun (n : Nat) (c : Client) (d : Option Doer) : Prop :=
  (roleBy c d (.attempt n)).strand.isPast ∨ (c.attemptOutcome? n).isSome

/-- An attempt waits with what it has under way, or is over. -/
theorem Action.attempt_ends (act : Action hit c (some x) c₁ none) (q : Queue c (some x.task))
    (task : x.task = .attempt n) :
    c₁.role (.attempt n) = x.role ∨ (c₁.attemptOutcome? n).isSome := by
  have here : n < c.attempts.length := by
    have := (q.apart x.task rfl).2.1
    rwa [task] at this
  cases act with
  | parksAttempt task' role =>
    obtain rfl := Task.attempt.inj (task'.symm.trans task)
    left
    simp [Client.role, standing_putAttempt, Has, here, Attempt.standing, role]
  | endsAttempt task' =>
    obtain rfl := Task.attempt.inj (task'.symm.trans task)
    right
    rw [attemptOutcome_settle here, if_pos rfl]
    rfl
  | succeeds task' =>
    obtain rfl := Task.attempt.inj (task'.symm.trans task)
    right
    refine (congrArg Option.isSome (attemptOutcome_settle ?_)).trans ?_
    · exact here
    · rw [if_pos rfl]
      rfl
  | rests task' | drainRests task' | parksCall task' | endsCall task' => cases task'.symm.trans task
  | leaves _ _ ceased =>
    obtain ⟨l, task', -⟩ | ⟨l, task', -⟩ := ceased <;> cases task'.symm.trans task

theorem HasRun.act (h : HasRun n c d) (sharing : Sharing c d) (q : Queue c (turnOf d))
    (act : Action hit c d c₁ d₁) : HasRun n c₁ d₁ := by
  obtain past | ceased := h
  · by_cases own : turnOf d = some (.attempt n)
    · obtain ⟨x, rfl, task⟩ := Option.map_eq_some_iff.mp own
      rw [roleBy_self task] at past
      cases d₁ with
      | some y =>
        left
        rw [roleBy_self (act.task_eq.1.trans task)]
        exact act.isPast past
      | none =>
        refine (act.attempt_ends q task).imp_left fun same => ?_
        rwa [roleBy, same]
    · obtain same | ⟨-, job, -, ⟨⟩, -⟩ := act.roleBy_other own
      left
      rwa [same]
  · exact .inr (sharing.over_mono act ceased)

theorem HasRun.lose (h : HasRun n c d) : HasRun n (c.forget l id) d := by
  have role : roleBy (c.forget l id) d (.attempt n) = roleBy c d (.attempt n) :=
    roleBy_congr fun u => congrArg Standing.role standing_forget
  rw [HasRun, role]
  exact h

theorem Begins.hasRun {rest : List Task} (begins : Begins c rest c₁ d) (h : HasRun n c none) : HasRun n c₁ d := by
  obtain ⟨-, -, outcome, -⟩ := begins.outcome
  rw [HasRun, outcome]
  refine h.imp_left fun past => ?_
  obtain same | ⟨-, same⟩ := begins.role (.attempt n)
  · rwa [same]
  · rw [same]
    exact past

theorem invariant_hasRun : Invariant Always fun c d _ => Sharing c d ∧ HasRun n c d := by
  refine ⟨fun sound h act => ?_, fun _ h _ _ _ => ⟨h.1.lose, h.2.lose⟩,
    fun _ sound h begins => ⟨begins.sharing sound.queue h.1, begins.hasRun h.2⟩⟩
  exact ⟨h.1.act sound.queue sound.requests sound.bounds act, h.2.act h.1 sound.queue act⟩

/-- In its turn the attempt runs the command. -/
def Commands (c : Client) (i : Input) (n : Nat) : Prop :=
  i = .turn ∧ c.ready.head? = some (.attempt n) ∧ (c.step i).spawns ≠ c.spawns

/-- Processes are started one at a time, each in the turn of an attempt that goes on and has not
run the command. -/
theorem command_runs (sound : Sound c none lost) (fits : i.Fits c)
    (more : (c.step i).spawns ≠ c.spawns) :
    (c.step i).spawns = c.spawns + 1 ∧
      ∃ n, Commands c i n ∧ c.IsLive n ∧ ¬ HasRun n c none := by
  have turns : i = .turn := by
    by_contra outside
    obtain same | ⟨-, -, -, ⟨⟩, -⟩ := (path_input i fits outside).spawns
    exact more same
  obtain path | ⟨rest, c₁, d, begins, path⟩ := path_step sound.fit i fits
  · obtain same | ⟨-, -, -, ⟨⟩, -⟩ := path.spawns
    exact absurd same more
  · have kept : c₁.spawns = c.spawns := by cases begins <;> rfl
    obtain same | ⟨grows, x, n, rfl, task, early⟩ := path.spawns
    · exact absurd (same.trans kept) more
    · have live : c.IsLive n := by
        obtain ⟨-, -, -, live⟩ := begins.outcome
        exact live n (congrArg some task)
      refine ⟨by rw [grows, kept], n, ⟨turns, ?_, more⟩, live, ?_⟩
      · rw [begins.first, task]
        rfl
      · rintro (past | ceased)
        · rw [begins.turn.2.2.1, task] at early
          rw [roleBy] at past
          rw [past] at early
          cases early
        · rw [live.2] at ceased
          cases ceased

/-- What has become of the attempt that has its turn since no command was run. -/
def Commanding (n : Nat) (b c : Client) (d : Option Doer) : Prop :=
  c.spawns = b.spawns ∧ (∀ x, d = some x → x.task = .attempt n) ∨ HasRun n c d

theorem Commanding.act (h : Commanding n b c d) (sharing : Sharing c d) (q : Queue c (turnOf d))
    (act : Action hit c d c₁ d₁) : Commanding n b c₁ d₁ := by
  obtain ⟨kept, own⟩ | run := h
  · obtain same | ⟨-, x, y, m, rfl, rfl, task, -, past⟩ := act.spawns
    · refine .inl ⟨same.trans kept, fun y turn => ?_⟩
      subst turn
      cases d with
      | none => cases act.none_eq
      | some x => exact act.task_eq.1.trans (own x rfl)
    · right
      left
      rwa [roleBy_self (act.task_eq.1.trans (own x rfl))]
  · exact .inr (run.act sharing q act)

theorem invariant_commanding : Invariant Never fun c d _ => Sharing c d ∧ Commanding n b c d := by
  refine ⟨fun sound h act => ?_, fun _ h _ _ _ => ⟨h.1.lose, h.2.imp_right HasRun.lose⟩,
    fun given => given.elim⟩
  exact ⟨h.1.act sound.queue sound.requests sound.bounds act, h.2.act h.1 sound.queue act⟩

theorem Commands.hasRun (runs : Commands c i n) (sound : Sound c none lost)
    (sharing : Sharing c none) (fits : i.Fits c) : HasRun n (c.step i) none := by
  obtain ⟨turns, first, more⟩ := runs
  obtain path | ⟨rest, c₁, d, begins, path⟩ := path_step sound.fit i fits
  · obtain same | ⟨-, -, -, ⟨⟩, -⟩ := path.spawns
    exact absurd same more
  · have kept : c₁.spawns = c.spawns := by cases begins <;> rfl
    have own : ∀ x, d = some x → x.task = .attempt n := by
      rintro x rfl
      rw [begins.first] at first
      exact Option.some.inj first
    obtain ⟨-, -, ⟨same, -⟩ | run⟩ := invariant_commanding.path path (begins.sound sound)
      ⟨begins.sharing sound.queue sharing, .inl ⟨kept, own⟩⟩
    · exact absurd same more
    · exact run

/-! ## The end -/

/-- Who stands in the queue loses its place only when a turn begins. -/
theorem Action.ready_prefix (act : Action hit c d c₁ d₁) : c.ready <+: c₁.ready := by
  have summoned (b : Client) (t : Task) (told : Option Signal) (same : b.ready = c.ready) :
      c.ready <+: (b.summon t told).ready := by
    rw [summon_eq, ← same]
    split
    · exact List.prefix_append ..
    · exact List.prefix_refl _
  have prompted (b : Client) (t : Task) (s : Signal) (same : b.ready = c.ready) :
      c.ready <+: (b.prompt t s).ready := by
    show c.ready <+: if b.heeds t then b.ready ++ [t] else b.ready
    rw [← same]
    split
    · exact List.prefix_append ..
    · exact List.prefix_refl _
  cases act with
  | tellsListener | tellsDrain | tellsAttempt | tellsCall => exact summoned _ _ _ rfl
  | answers | fails => exact prompted _ _ _ rfl
  | restarts | drains | shares | calls | endsAttempt | succeeds | connects =>
    exact List.prefix_append ..
  | takes how => rw [how.frame]
  | _ => exact List.prefix_refl _

theorem Action.ready_subset (act : Action hit c d c₁ d₁) : c.ready ⊆ c₁.ready :=
  act.ready_prefix.subset

/-- Calls that wait for an attempt: it goes on, or they are told or will be told how it ended,
unless they are cancelled. The relay of one attempt may be at it. -/
structure Joining (relay : Option Nat) (c : Client) : Prop where
  waits : ∀ (n a : Nat) sends, c.calls[n]? = some ⟨.joined a sends, none⟩ →
    c.attemptOutcome? a = none ∨ .relay a ∈ c.ready ∨ relay = some a
  told : ∀ (n a : Nat) sends s, c.calls[n]? = some ⟨.joined a sends, some s⟩ →
    s = .cancelled ∨ ∃ o, s = .answered o ∧ c.attemptOutcome? a = some o

/-- What a call that waits for an attempt is told. -/
theorem Prompts.joined (why : Prompts hit c d (.call n) s) (r : Requests c d lost)
    (apart : turnOf d ≠ some (.call n)) {sends : List Send} {s₁ : Option Signal}
    (here : c.calls[n]? = some ⟨.joined a sends, s₁⟩) :
    s = .cancelled ∧ hit n ∨ s₁ = none ∧ ∃ o, s = .answered o ∧ c.attemptOutcome? a = some o := by
  cases why with
  | call there why outside =>
    obtain rfl := Option.some.inj (there.symm.trans here)
    cases why with
    | step teardown => cases teardown
    | late deadline => cases deadline
    | relayed ended => exact .inr ⟨rfl, _, rfl, ended⟩
    | cancelled yields => exact .inl ⟨rfl, outside rfl⟩
  | answer pending =>
    have claims := r.pending _ _ _ pending
    have role : c.role (.call n) = .begun .sends := by simp [role, standing, here, Call.standing]; rfl
    rw [claim_ne apart, role] at claims
    cases claims

theorem Sharing.outcome_mono (h : Sharing c d) (act : Action hit c d c₁ d₁)
    (ceased : c.attemptOutcome? n = some o) : c₁.attemptOutcome? n = some o := by
  obtain same | ⟨own, -⟩ := act.outcome h.turn n
  · rw [same, ceased]
  · rw [(h.turn n own).2] at ceased
    cases ceased

/-- An attempt that is over stays as it ended. -/
theorem invariant_outcome :
    Invariant Always fun c d _ => Sharing c d ∧ c.attemptOutcome? a = some o := by
  refine ⟨fun sound h act => ?_, fun _ h _ _ _ => ⟨h.1.lose, h.2⟩, fun _ sound h begins => ?_⟩
  · exact ⟨h.1.act sound.queue sound.requests sound.bounds act, h.1.outcome_mono act h.2⟩
  · exact ⟨begins.sharing sound.queue h.1, (begins.outcome.2.2.1 a).trans h.2⟩

theorem Joining.act {relay : Option Nat} (h : Joining relay c) (sharing : Sharing c d)
    (q : Queue c (turnOf d)) (r : Requests c d lost) (act : Action hit c d c₁ d₁) :
    Joining relay c₁ := by
  constructor
  · intro n a sends after
    have goes (before : c.attemptOutcome? a = none) :
        c₁.attemptOutcome? a = none ∨ .relay a ∈ c₁.ready ∨ relay = some a := by
      obtain same | ⟨-, -, -, relays⟩ := act.outcome sharing.turn a
      · exact .inl (same.trans before)
      · exact .inr (.inl relays)
    obtain ⟨s, before, rfl | told⟩ | ⟨x, rfl, rfl, -, -, -, joins⟩ | ⟨job, -, e⟩ :=
      act.call_cases after
    · obtain before | relays | here := h.waits n a sends before
      · exact goes before
      · exact .inr (.inl (act.ready_subset relays))
      · exact .inr (.inr here)
    · cases told
    · exact goes (joins a sends rfl).2.2
    · cases e
  · intro n a sends s after
    obtain before | ⟨own, why, s', before⟩ := act.call_told q rfl (by simp) after
    · obtain cancelled | ⟨o, rfl, ended⟩ := h.told n a sends s before
      · exact .inl cancelled
      · exact .inr ⟨o, rfl, sharing.outcome_mono act ended⟩
    · obtain ⟨cancelled, -⟩ | ⟨-, o, rfl, ended⟩ := why.joined r own before
      · exact .inl cancelled
      · exact .inr ⟨o, rfl, sharing.outcome_mono act ended⟩

theorem Joining.lose {relay : Option Nat} (h : Joining relay c) :
    Joining relay (c.forget l id) := ⟨h.waits, h.told⟩

theorem invariant_joining {relay : Option Nat} :
    Invariant Never fun c d _ => Sharing c d ∧ Joining relay c := by
  refine ⟨fun sound h act => ?_, fun _ h _ _ _ => ⟨h.1.lose, h.2.lose⟩, fun given => given.elim⟩
  exact ⟨h.1.act sound.queue sound.requests sound.bounds act,
    h.2.act h.1 sound.queue sound.requests act⟩

theorem Begins.joining {rest : List Task} (begins : Begins c rest c₁ d) (h : Joining none c) :
    ∃ relay, Joining relay c₁ ∧ ∀ a, relay = some a → c.ready = .relay a :: rest := by
  obtain ⟨-, -, outcome, -⟩ := begins.outcome
  have told (same : c₁.calls = c.calls) (n a : Nat) sends s
      (here : c₁.calls[n]? = some ⟨.joined a sends, some s⟩) :
      s = .cancelled ∨ ∃ o, s = .answered o ∧ c₁.attemptOutcome? a = some o := by
    rw [outcome]
    exact h.told n a sends s (same ▸ here)
  have waits {t : Task} (first : c.ready = t :: rest) (relay : ∀ a, t ≠ .relay a)
      (ready : c₁.ready = rest) (a : Nat)
      (before : c.attemptOutcome? a = none ∨ .relay a ∈ c.ready ∨ none = some a) :
      c₁.attemptOutcome? a = none ∨ .relay a ∈ c₁.ready ∨ none = some a := by
    rw [outcome, ready]
    rw [first] at before
    simpa [(relay a).symm] using before
  cases begins with
  | listener ready | drain ready | attempt ready =>
    exact ⟨none, ⟨fun n a sends here => waits ready nofun rfl a (h.waits n a sends here),
      told rfl⟩, nofun⟩
  | @call m p s ready here live =>
    have before {n : Nat} {q : CallPhase} {s : Option Signal} (joined : q ≠ .running)
        (after : (c.calls.set m ⟨.running, none⟩)[n]? = some ⟨q, s⟩) :
        c.calls[n]? = some ⟨q, s⟩ := by
      rw [List.getElem?_set] at after
      split at after
      · split at after <;> cases after
        exact absurd rfl joined
      · exact after
    refine ⟨none, ⟨fun n a sends here => ?_, fun n a sends s here => ?_⟩, nofun⟩
    · exact waits ready nofun rfl a (h.waits n a sends (before nofun here))
    · rw [outcome]
      exact h.told n a sends s (before nofun here)
  | @relay a ready =>
    refine ⟨some a, ⟨fun n b sends here => ?_, told rfl⟩, fun _ e => ?_⟩
    · have before := h.waits n b sends here
      rw [ready] at before
      rw [outcome]
      simpa [eq_comm, or_comm] using before
    · cases e
      exact ready

/-- Every call that waits and is chosen has been told something. -/
theorem signal_wakeCalls {p : CallPhase → Bool} {k : Call}
    (here : (c.wakeCalls p s).calls[n]? = some k) (chosen : p k.phase) (waits : k.phase.isWaiting) :
    k.signal.isSome := by
  obtain ⟨ts, woken⟩ := wakeCalls_frame (c := c) (s := s) p
  rw [woken, List.getElem?_map] at here
  obtain ⟨j, -, rfl⟩ := Option.map_eq_some_iff.mp here
  by_cases h : p j.phase
  · rw [if_pos h] at waits ⊢
    exact Call.signal_prompt (by simpa using waits)
  · rw [if_neg h] at chosen
    exact absurd chosen h

/-- The relay tells everyone who waits for an attempt that is over. -/
theorem turn_relay {rest : List Task} {sends : List Send} (first : c.ready = .relay a :: rest)
    (here : c.turn.calls[n]? = some ⟨.joined a sends, none⟩) : c.turn.attemptOutcome? a = none := by
  have begins : c.turn = ({ c with ready := rest } : Client).runRelay a := by
    rw [turn, first]
    rfl
  rw [begins, runRelay] at here ⊢
  split
  · next o ended =>
    rw [ended] at here
    have told := signal_wakeCalls here (by simp) rfl
    cases told
  · next live => exact live

/-- Who waits for an attempt comes to know how it ended. -/
theorem Joining.step (h : Joining none c) (sharing : Sharing c none) (sound : Sound c none lost)
    (fits : i.Fits c) : Joining none (c.step i) := by
  by_cases turns : i = .turn
  · subst turns
    obtain path | ⟨rest, c₁, d, begins, path⟩ := path_step sound.fit .turn fits
    · exact (invariant_joining.path path sound ⟨sharing, h⟩).2.2
    · obtain ⟨relay, joining, first⟩ := begins.joining h
      obtain ⟨-, -, after⟩ := invariant_joining.path path (begins.sound sound)
        ⟨begins.sharing sound.queue sharing, joining⟩
      refine ⟨fun n a sends here => ?_, after.told⟩
      obtain live | relays | rfl := after.waits n a sends here
      · exact .inl live
      · exact .inr (.inl relays)
      · exact .inl (turn_relay (first a rfl) here)
  · exact (invariant_joining.path (path_input i fits turns) sound ⟨sharing, h⟩).2.2

/-! ## Who waits -/

/-- The call waits for the attempt with nothing to send and is not cancelled, or has come to what
the attempt came to. -/
def Follows (n a : Nat) (c : Client) : Prop :=
  (∃ s, c.calls[n]? = some ⟨.joined a [], s⟩ ∧ s ≠ some .cancelled) ∨
    ∃ o, c.callOutcome? n = some o ∧ c.attemptOutcome? a = some o

theorem Follows.lt (h : Follows n a c) : n < c.calls.length := by
  obtain ⟨s, here, -⟩ | ⟨o, ceased, -⟩ := h
  · exact (List.getElem?_eq_some_iff.mp here).1
  · obtain ⟨s, here⟩ := callOutcome_eq_some.mp ceased
    exact (List.getElem?_eq_some_iff.mp here).1

theorem Follows.act (h : Follows n a c) (sharing : Sharing c d) (r : Requests c d lost) (apart : turnOf d ≠ some (.call n)) (safe : ¬ hit n)
    (act : Action hit c d c₁ d₁) : Follows n a c₁ := by
  obtain ⟨s, here, told⟩ | ⟨o, ceased, ended⟩ := h
  · obtain ⟨s₁, after⟩ := act.call_phase here (.inl apart)
    refine .inl ⟨s₁, after, fun cancelled => ?_⟩
    have now : (c₁.standing (.call n)).told = some .cancelled := by
      simp [standing, after, Call.standing, cancelled]
    obtain same | ⟨s₂, same, why⟩ | ⟨dead, -⟩ := act.stirs apart
    · rw [same] at now
      exact told (by simpa [standing, here, Call.standing] using now)
    · rw [same] at now
      obtain ⟨-, struck⟩ | ⟨-, o, rfl, -⟩ := why.joined r apart here
      · exact safe struck
      · cases now
    · simp [standing, here, Call.standing, CallPhase.isLive] at dead
  · exact .inr ⟨o, act.callOutcome apart ceased, sharing.outcome_mono act ended⟩

theorem Follows.path (h : Follows n a c) (path : Path hit c d ls c₁ d₁) (sound : Sound c d lost)
    (sharing : Sharing c d) (apart : turnOf d ≠ some (.call n)) (safe : ¬ hit n) :
    Follows n a c₁ := by
  induction path generalizing lost with
  | nil => exact h
  | step act _ ih =>
    exact ih (h.act sharing sound.requests apart safe act) (act.sound sound)
      (sharing.act sound.queue sound.requests sound.bounds act) (act.apart apart)
  | loses idle pending untold _ ih => exact ih h (sound.lose idle pending untold) sharing.lose apart

theorem Begins.call_apart {rest : List Task} (begins : Begins c rest c₁ d)
    (apart : turnOf d ≠ some (.call n)) : c₁.calls[n]? = c.calls[n]? := by
  cases begins with
  | @call m => exact List.getElem?_set_ne fun e => apart (congrArg (fun m => some (Task.call m)) e)
  | _ => rfl

/-- A call that does not have its turn stays where it is. -/
theorem Path.call_phase (path : Path hit c d ls c₁ d₁) {q : Call}
    (apart : turnOf d ≠ some (.call n)) (here : c.calls[n]? = some q) :
    ∃ s, c₁.calls[n]? = some ⟨q.phase, s⟩ := by
  induction path generalizing q with
  | nil => exact ⟨q.signal, here⟩
  | step act _ ih =>
    obtain ⟨s, later⟩ := act.call_phase here (.inl apart)
    exact ih (q := ⟨q.phase, s⟩) (act.apart apart) later
  | loses _ _ _ _ ih => exact ih apart here

theorem apart_of_head {rest : List Task} (begins : Begins c rest c₁ d)
    (apart : c.ready.head? ≠ some t) : turnOf d ≠ some t := by
  intro own
  obtain ⟨x, rfl, rfl⟩ := Option.map_eq_some_iff.mp own
  rw [begins.first] at apart
  exact apart rfl

/-- It is the turn of the call. -/
def IsTurn (c : Client) (n : Nat) (i : Input) : Prop := i = .turn ∧ c.ready.head? = some (.call n)

theorem call_kept (sound : Sound c none lost) (fits : i.Fits c) {q : Call} (apart : ¬ c.IsTurn n i)
    (here : c.calls[n]? = some q) : ∃ s, (c.step i).calls[n]? = some ⟨q.phase, s⟩ := by
  by_cases turns : i = .turn
  · subst turns
    obtain path | ⟨rest, c₁, d, begins, path⟩ := @path_turn NoHit c sound.fit
    · exact path.call_phase turnOf_none_ne here
    · have own := apart_of_head begins fun head => apart ⟨rfl, head⟩
      exact path.call_phase own ((begins.call_apart own).trans here)
  · exact (path_input i fits turns).call_phase turnOf_none_ne here

/-- A call that has waited for an attempt with nothing to send comes to what it is told. -/
theorem turn_joined {rest : List Task} (first : c.ready = .call n :: rest)
    (here : c.calls[n]? = some ⟨.joined a [], some (.answered o)⟩)
    (proper : o.isFailure ∨ o = .done) : c.turn.callOutcome? n = some o := by
  have lt : n < c.calls.length := (List.getElem?_eq_some_iff.mp here).1
  have finished (b : Client) (same : b.calls.length = c.calls.length) (o : Outcome) :
      (b.finish n o).callOutcome? n = some o := by
    have lt : n < b.calls.length := same ▸ lt
    simp [finish, emit, setCall, callOutcome?, lt]
  rw [turn_call first here]
  cases o with
  | value j =>
    obtain fails | done := proper
    · cases fails
    · obtain rfl := Outcome.value.inj done
      exact finished _ (List.length_set ..) .done
  | error e => exact finished _ (List.length_set ..) _
  | cancelled => exact finished _ (List.length_set ..) _

/-- Only an input that cancels the call cancels it. -/
theorem Input.eq_cancel (struck : i.hits c n) (here : n < c.calls.length) : i = .cancel n := by
  cases i with
  | cancel m => rw [struck.1]
  | call job => exact absurd struck (Nat.ne_of_lt here)
  | _ => cases struck

theorem Follows.step (h : Follows n a c) (joining : Joining none c) (sharing : Sharing c none)
    (sound : Sound c none lost) (fits : i.Fits c) (goes : i ≠ .cancel n) :
    Follows n a (c.step i) := by
  have safe : ¬ i.hits c n := fun struck => goes (Input.eq_cancel struck h.lt)
  by_cases turns : i = .turn
  · subst turns
    obtain path | ⟨rest, c₁, d, begins, path⟩ := path_step sound.fit .turn fits
    · exact h.path path sound sharing nofun safe
    · by_cases own : turnOf d = some (.call n)
      · obtain ⟨x, rfl, task⟩ := Option.map_eq_some_iff.mp own
        have told := begins.turn.1
        have first := begins.first
        rw [task] at told first
        obtain ⟨s, here, goes⟩ | ⟨o, ceased, -⟩ := h
        · obtain rfl : s = some x.signal := by
            simpa [Client.told, standing, here, Call.standing] using told
          obtain cancelled | ⟨o, answer, ended⟩ := joining.told n a [] x.signal here
          · exact absurd (congrArg some cancelled) goes
          · rw [answer] at here
            obtain ⟨_, done⟩ := attemptOutcome_eq_some.mp ended
            have proper := (sound.concluding a _ done).2 o rfl
            refine .inr ⟨o, turn_joined first here proper, ?_⟩
            exact (invariant_outcome.step trivial fits sound ⟨sharing, ended⟩).2.2
        · obtain ⟨_, done⟩ := callOutcome_eq_some.mp ceased
          have live := sound.queue.live (t := .call n) (by rw [told]; rfl)
          simp [standing, done, Call.standing, CallPhase.isLive] at live
      · have begun : Follows n a c₁ := by
          rw [Follows, callOutcome?, begins.call_apart own, begins.outcome.2.2.1]
          exact h
        exact begun.path path (begins.sound sound) (begins.sharing sound.queue sharing) own safe
  · exact h.path (path_input i fits turns) sound sharing nofun safe

/-! ## Runs -/

theorem Input.Fits.step (fits : ∀ j ∈ i :: inputs, j.Fits c) (sound : Sound c none lost) :
    i.Fits c ∧ ∀ j ∈ inputs, j.Fits (c.step i) := by
  have here : i.Fits c := fits i (by simp)
  exact ⟨here, fun j hj => (fits j (by simp [hj])).congr (audience_step sound.fit here)⟩

theorem Joining.run (h : Joining none c) (sharing : Sharing c none) (sound : Sound c none lost)
    (fits : ∀ i ∈ inputs, i.Fits c) : Joining none (c.run inputs) := by
  induction inputs generalizing c lost with
  | nil => exact h
  | cons i inputs ih =>
    obtain ⟨here, later⟩ := Input.Fits.step fits sound
    obtain ⟨sound₁, sharing₁⟩ := invariant_sharing.step trivial here sound sharing
    exact ih (h.step sharing sound here) sharing₁ sound₁ later

theorem Follows.run (h : Follows n a c) (joining : Joining none c) (sharing : Sharing c none)
    (sound : Sound c none lost) (fits : ∀ i ∈ inputs, i.Fits c) (goes : .cancel n ∉ inputs) :
    Follows n a (c.run inputs) := by
  induction inputs generalizing c lost with
  | nil => exact h
  | cons i inputs ih =>
    obtain ⟨here, later⟩ := Input.Fits.step fits sound
    obtain ⟨sound₁, sharing₁⟩ := invariant_sharing.step trivial here sound sharing
    have safe : i ≠ .cancel n := fun e => goes (by simp [e])
    exact ih (h.step joining sharing sound here safe) (joining.step sharing sound here) sharing₁
      sound₁ later fun later => goes (by simp [later])

/-- Who waited for an attempt has come to what it came to, when everyone who could go on has done
so. -/
theorem Follows.outcome (h : Follows n a c) :
    ∀ o, c.callOutcome? n = some o → c.attemptOutcome? a = some o := by
  intro o ceased
  obtain ⟨s, here, -⟩ | ⟨o', over', ended⟩ := h
  · simp [callOutcome?, here] at ceased
  · rw [ended, ← over', ceased]

theorem Follows.outcome_eq (h : Follows n a c) (joining : Joining none c) (q : Queue c none)
    (rest : c.ready = []) : c.callOutcome? n = c.attemptOutcome? a := by
  obtain ⟨s, here, -⟩ | ⟨o, ceased, ended⟩ := h
  · have untold : s = none := by
      by_contra told
      have queued := q.queued (.call n)
        (by simpa [Client.told, standing, here, Call.standing, Option.isSome_iff_ne_none] using told)
      rw [rest] at queued
      cases queued
    subst untold
    obtain live | relays | e := joining.waits n a [] here
    · rw [live, callOutcome?, here]
    · rw [rest] at relays
      cases relays
    · cases e
  · rw [ceased, ended]

/-- Without an attempt that goes on, nothing begins and nothing is started unless a call asks
for it. -/
theorem idle_step (idle : ∀ m, ¬ c.IsLive m) (sound : Sound c none lost)
    (sharing : Sharing c none) (apart : ¬ Contended c) (fits : i.Fits c) (silent : i = .turn → ¬ AsksNext c) :
    (c.step i).spawns = c.spawns ∧ ∀ m, ¬ (c.step i).IsLive m := by
  constructor
  · by_contra more
    obtain ⟨-, n, -, live, -⟩ := command_runs sound fits more
    exact idle n live
  · intro m live
    by_cases same : (c.step i).attempts.length = c.attempts.length
    · have here : m < c.attempts.length := same ▸ live.1
      obtain ⟨o, ceased⟩ : ∃ o, c.attemptOutcome? m = some o := by
        by_contra none'
        exact idle m ⟨here, Option.eq_none_iff_forall_ne_some.mpr fun o e => none' ⟨o, e⟩⟩
      have later := (invariant_outcome.step trivial fits sound ⟨sharing, ceased⟩).2.2
      rw [live.2] at later
      cases later
    · obtain ⟨-, -, -, turns, asks⟩ := attempt_begins sound sharing apart fits same
      exact silent turns asks

theorem idle_run (idle : ∀ m, ¬ c.IsLive m) (sound : Sound c none lost) (sharing : Sharing c none)
    (apart : ∀ before, before <+: inputs → ¬ Contended (c.run before))
    (fits : ∀ i ∈ inputs, i.Fits c)
    (silent : ∀ before after, inputs = before ++ .turn :: after → ¬ AsksNext (c.run before)) :
    (c.run inputs).spawns = c.spawns := by
  induction inputs generalizing c lost with
  | nil => rfl
  | cons i inputs ih =>
    obtain ⟨here, later⟩ := Input.Fits.step fits sound
    obtain ⟨sound₁, sharing₁⟩ := invariant_sharing.step trivial here sound sharing
    obtain ⟨same, idle₁⟩ := idle_step idle sound sharing (apart [] (List.nil_prefix ..)) here
      fun e => silent [] inputs (by rw [e]; rfl)
    refine (ih idle₁ sound₁ sharing₁ (fun before h => ?_) later fun before after e => ?_).trans same
    · exact apart (i :: before) (List.cons_prefix_cons.mpr ⟨rfl, h⟩)
    · exact silent (i :: before) after (by rw [e]; rfl)

section Run

variable {config : ServerConfig} {workspace : String} {policies : List Policy} {before : List Input}

theorem joining_ofConfig : Joining none (ofConfig config workspace policies) := by
  constructor <;> intro n <;> simp [ofConfig]

/-- A state of a run, and the inputs that are still to come. -/
theorem sharing_run (fits : ∀ i ∈ before ++ rest, i.Fits (ofConfig config workspace policies)) :
    let c := (ofConfig config workspace policies).run before
    (∃ lost, Sound c none lost) ∧ Sharing c none ∧ Joining none c ∧ ∀ i ∈ rest, i.Fits c := by
  have fits₁ i (h : i ∈ before) : i.Fits (ofConfig config workspace policies) :=
    fits i (List.mem_append_left _ h)
  obtain ⟨sound, sharing⟩ :=
    invariant_sharing.run throughout_always fits₁ sound_ofConfig serving_ofConfig.1
  refine ⟨⟨_, sound⟩, sharing, ?_, fun i h => ?_⟩
  · exact joining_ofConfig.run serving_ofConfig.1 sound_ofConfig fits₁
  · exact (fits i (List.mem_append_right _ h)).congr (audience_run sound_ofConfig fits₁)

/-- What the callers of a client share in a run. -/
structure SingleFlight (c : Client) (inputs : List Input) : Prop where
  /-- One attempt goes on at a time. -/
  one : ∀ n m, (c.run inputs).IsLive n → (c.run inputs).IsLive m → n = m
  /-- An attempt begins in the turn of a call that has something to ask of the server, while the
  client is not ready and no attempt goes on. -/
  begins : ∀ before i after, inputs = before ++ i :: after →
    ((c.run before).step i).attempts.length ≠ (c.run before).attempts.length →
    ((c.run before).step i).attempts.length = (c.run before).attempts.length + 1 ∧
      (c.run before).state ≠ .ready ∧ (∀ m, ¬ (c.run before).IsLive m) ∧
      i = .turn ∧ AsksNext (c.run before)
  /-- Processes are started one at a time, in the turns of attempts. -/
  starts : ∀ before i after, inputs = before ++ i :: after →
    ((c.run before).step i).spawns ≠ (c.run before).spawns →
    ((c.run before).step i).spawns = (c.run before).spawns + 1 ∧
      ∃ n, Commands (c.run before) i n ∧ (c.run before).IsLive n
  /-- No attempt starts two. -/
  once : ∀ before i between j after n, inputs = before ++ i :: (between ++ j :: after) →
    Commands (c.run before) i n → ¬ Commands (c.run (before ++ i :: between)) j n
  /-- Who waits for an attempt with nothing to send and is not cancelled comes to what the attempt
  comes to, when everyone who can go on has done so. -/
  follows : ∀ before after (n a : Nat) s, inputs = before ++ after →
    (c.run before).calls[n]? = some ⟨.joined a [], s⟩ → s ≠ some .cancelled → .cancel n ∉ after →
    (∀ o, (c.run inputs).callOutcome? n = some o → (c.run inputs).attemptOutcome? a = some o) ∧
      ((c.run inputs).ready = [] → (c.run inputs).callOutcome? n = (c.run inputs).attemptOutcome? a)
  /-- A client of which no attempt goes on starts nothing until a call asks for it, whether it has
  failed or not. -/
  rests : ∀ before between after, inputs = before ++ (between ++ after) →
    (∀ m, ¬ (c.run before).IsLive m) →
    (∀ pre post, between = pre ++ .turn :: post → ¬ AsksNext (c.run (before ++ pre))) →
    (c.run (before ++ between)).spawns = (c.run before).spawns

/-- Callers share attempts to start the server, unless someone disposes the client while an
attempt goes on. -/
theorem single_flight (fits : ∀ i ∈ inputs, i.Fits (ofConfig config workspace policies))
    (apart : ∀ before, before <+: inputs →
      ¬ Contended ((ofConfig config workspace policies).run before)) :
    SingleFlight (ofConfig config workspace policies) inputs := by
  refine ⟨?_, ?_, ?_, ?_, ?_, ?_⟩
  · intro n m
    obtain ⟨-, sharing, -⟩ :=
      @sharing_run [] config workspace policies inputs (by simpa using fits)
    exact sharing.unique (apart inputs (List.prefix_refl _))
  · rintro before i after rfl
    obtain ⟨⟨_, sound⟩, sharing, -, fits₁⟩ := sharing_run fits
    exact attempt_begins sound sharing (apart before (List.prefix_append ..)) (fits₁ i (by simp))
  · rintro before i after rfl more
    obtain ⟨⟨_, sound⟩, -, -, fits₁⟩ := sharing_run fits
    obtain ⟨grows, n, runs, live, -⟩ := command_runs sound (fits₁ i (by simp)) more
    exact ⟨grows, n, runs, live⟩
  · rintro before i between j after n rfl runs ⟨turns, first, more⟩
    obtain ⟨⟨_, sound⟩, sharing, -, fits₁⟩ := sharing_run fits
    obtain ⟨here, later⟩ := Input.Fits.step fits₁ sound
    obtain ⟨sound₁, sharing₁⟩ := invariant_sharing.step trivial here sound sharing
    obtain ⟨sound₂, -, run⟩ := invariant_hasRun.run throughout_always
      (fun j h => later j (List.mem_append_left _ h)) sound₁
      ⟨sharing₁, runs.hasRun sound sharing here⟩
    have fits₂ : j.Fits ((ofConfig config workspace policies).run (before ++ i :: between)) := by
      have split : before ++ i :: (between ++ j :: after) =
          (before ++ i :: between) ++ j :: after := by simp
      exact (sharing_run (split ▸ fits)).2.2.2 j (by simp)
    rw [run_append, run_cons] at first more fits₂
    obtain ⟨-, m, ⟨-, first', -⟩, -, new⟩ := command_runs sound₂ fits₂ more
    obtain rfl : n = m := Task.attempt.inj (Option.some.inj (first.symm.trans first'))
    exact new run
  · rintro before after n a s rfl here told goes
    obtain ⟨⟨_, sound⟩, sharing, joining, fits₁⟩ := sharing_run fits
    obtain ⟨⟨_, sound₁⟩, -, joining₁, -⟩ :=
      @sharing_run [] config workspace policies (before ++ after) (by simpa using fits)
    have follows : Follows n a ((ofConfig config workspace policies).run (before ++ after)) := by
      rw [run_append]
      exact Follows.run (.inl ⟨s, here, told⟩) joining sharing sound fits₁ goes
    exact ⟨follows.outcome, follows.outcome_eq joining₁ sound₁.queue⟩
  · rintro before between after rfl idle silent
    obtain ⟨⟨_, sound⟩, sharing, -, fits₁⟩ := sharing_run fits
    rw [run_append]
    refine idle_run idle sound sharing (fun pre h => ?_) (fun i h => fits₁ i (by simp [h]))
      fun pre post e => ?_
    · rw [← run_append]
      exact apart _ ((List.prefix_append_right_inj before).mpr (h.trans (List.prefix_append ..)))
    · rw [← run_append]
      exact silent pre post e

end Run

/-- Two callers start the server, which agrees to that, and one of them disposes it. -/
def twoStarts : List Input :=
  [.call .start, .call .start, .turn, .turn, .turn, .turn, .turn,
    .output (Wire.encode (.obj [("id", .int 1), ("result", .null)])),
    .turn, .turn, .turn, .turn, .turn, .call .dispose, .turn]

theorem single_flight_twoStarts :
    (∀ i ∈ twoStarts, i.Fits plainClient) ∧
    (∀ before, before <+: twoStarts → ¬ Contended (plainClient.run before)) ∧
    SingleFlight plainClient twoStarts ∧
    (plainClient.run twoStarts).callOutcome? 1 = some .done ∧
    (plainClient.run twoStarts).attemptOutcome? 0 = some .done := by
  have fits : ∀ i ∈ twoStarts, i.Fits plainClient := by decide +kernel
  have apart : ∀ before ∈ twoStarts.inits, ¬ Contended (plainClient.run before) := by
    decide +kernel
  have flight : SingleFlight plainClient twoStarts :=
    single_flight fits fun before h => apart before ((List.mem_inits ..).mpr h)
  have ceased : (plainClient.run twoStarts).callOutcome? 1 = some .done := by decide +kernel
  refine ⟨fits, fun before h => apart before ((List.mem_inits ..).mpr h), flight, ceased, ?_⟩
  have joined : (plainClient.run (twoStarts.take 4)).calls[1]? = some ⟨.joined 0 [], none⟩ := by
    decide +kernel
  exact (flight.follows _ (twoStarts.drop 4) 1 0 none (List.take_append_drop ..).symm joined nofun
    (by decide)).1 .done ceased

end LspGateway.Client
