import LspGateway.Proofs.Client.Answers
import LspGateway.Proofs.Client.Correlating
import LspGateway.Proofs.Client.Disposing
import LspGateway.Proofs.Client.Heeding
import LspGateway.Proofs.Client.Knowing
import LspGateway.Proofs.Client.Minding

/-! # Clients between their steps

All that is known of a client in a run holds between any two steps, as long as attempts notice that
they are cancelled. They do if each disposal begins when nothing else can go on.
-/

namespace LspGateway.Client

/-! ## Disposals that begin at rest

When every activity has had its turn, nobody waits for a listener or a drain that is ending. So
an attempt in progress notices that it is cancelled by a disposal that begins when nothing else
can go on.
-/

section Resting

variable {hit : Nat → Prop} {c c₁ : Client} {d d₁ : Option Doer} {lost : List Loss} {x : Doer}
  {k l m n id : Nat} {t : Task} {u : Teardown} {s : Signal} {a : Attempt} {inputs : List Input}

/-- The drain is cancelled, or has its turn as one that is. -/
def IsDrainEnding (c : Client) (d : Option Doer) (l : Nat) : Prop :=
  c.told (.drain l) = some .cancelled ∨ ∃ x, d = some x ∧ x.task = .drain l ∧ x.signal = .cancelled

/-- What activities come to when their turns are over. -/
structure Resting (c : Client) (d : Option Doer) : Prop where
  /-- Who waits for the end of a drain has cancelled it. -/
  drain : ∀ t u, turnOf d ≠ some t → (roleBy c d t).teardown = some u → u.stage = .drain →
    c.told t = none → ∃ l, u.drain = some l ∧ IsDrainEnding c d l
  /-- An attempt runs only in its turn. -/
  runs : ∀ n a, c.attempts[n]? = some a → a.phase = .running → turnOf d = some (.attempt n)

/-- Who ends a turn has left it. -/
theorem Action.not_running (act : Action hit c (some x) c₁ none) (task : x.task = .attempt n)
    (here : n < c.attempts.length) (after : c₁.attempts[n]? = some a) : a.phase ≠ .running := by
  have put {b : Client} {m : Nat} {a' : Attempt} (attempts : b.attempts = c.attempts) (e : n = m)
      (after : (b.putAttempt m a').attempts[n]? = some a) : a' = a := by
    rw [putAttempt, attempts, ← e, List.getElem?_set_self here] at after
    exact Option.some.inj after
  cases act with
  | @parksAttempt x m p task' role left waits =>
    obtain rfl := put rfl (Task.attempt.inj (task.symm.trans task')) after
    rintro rfl
    cases waits
  | @endsAttempt x m o task' =>
    obtain rfl := put rfl (Task.attempt.inj (task.symm.trans task')) after
    simp
  | @succeeds x m l k id j task' =>
    obtain rfl := put (b := { c with state := .ready }) rfl
      (Task.attempt.inj (task.symm.trans task')) after
    simp
  | rests task' | drainRests task' | parksCall task' | endsCall task' =>
    cases task'.symm.trans task
  | leaves done told ceased =>
    obtain ⟨l, task', -⟩ | ⟨l, task', -⟩ := ceased <;> cases task'.symm.trans task

/-- A drain that has its turn as one that is cancelled tells those who wait for its end. -/
theorem Action.isDrainEnding (act : Action hit c d c₁ d₁) (q : Queue c (turnOf d))
    (apart : turnOf d ≠ some t) (takes : (c.role t).teardown = some u) (stage : u.stage = .drain)
    (drain : u.drain = some l) (untold : c.told t = none) (h : IsDrainEnding c d l) :
    IsDrainEnding c₁ d₁ l := by
  obtain cancelled | ⟨x, rfl, task, go⟩ := h
  · have other : turnOf d ≠ some (.drain l) := fun e => by
      rw [(q.apart _ e).2.2.2] at cancelled
      cases cancelled
    left
    obtain same | ⟨s, same, why⟩ | ⟨dead, -⟩ := act.stirs other
    · rwa [Client.told, same]
    · rw [Client.told, same]
      have signal : (c.link l).drain.signal = some .cancelled := cancelled
      cases why with
      | drain why =>
        generalize (c.link l).drain = w at why signal
        cases why with
        | arrival => cases signal
        | cancelled => rfl
      | answer pending heeds => cases heeds
    · have live := q.live (t := .drain l) (by rw [cancelled]; rfl)
      rw [dead] at live
      cases live
  · cases d₁ with
    | some y =>
      obtain ⟨same, signal, -⟩ := act.task_eq
      exact .inr ⟨y, rfl, same.trans task, signal.trans go⟩
    | none =>
      exfalso
      cases act with
      | drainRests _ _ go' => exact go' go
      | leaves done told ceased =>
        have := told t u takes (.inr ⟨⟨l, task, drain⟩, stage⟩)
        rw [untold] at this
        cases this
      | rests task' | parksAttempt task' | endsAttempt task' | succeeds task' | parksCall task'
      | endsCall task' => cases task'.symm.trans task

namespace Resting

theorem act_drain (h : Resting c d) (q : Queue c (turnOf d)) (act : Action hit c d c₁ d₁) (t : Task)
    (u : Teardown) (apart₁ : turnOf d₁ ≠ some t) (takes : (roleBy c₁ d₁ t).teardown = some u)
    (stage : u.stage = .drain) (untold : c₁.told t = none) :
    ∃ l, u.drain = some l ∧ IsDrainEnding c₁ d₁ l := by
  by_cases apart : turnOf d = some t
  · obtain ⟨x, rfl, rfl⟩ := Option.map_eq_some_iff.mp apart
    cases d₁ with
    | some y => exact absurd (congrArg some act.task_eq.1) apart₁
    | none =>
      obtain ⟨l, drain, cancelled⟩ := (act.parks q takes).drain stage
      exact ⟨l, drain, .inl cancelled⟩
  · have before : c.told t = none := by
      refine Option.not_isSome_iff_eq_none.mp fun some => ?_
      have := act.told_isSome apart some
      rw [untold] at this
      cases this
    obtain same | ⟨-, job, -, -, -, begun⟩ := act.roleBy_other apart
    · rw [same] at takes
      obtain ⟨l, drain, ending⟩ := h.drain t u apart takes stage before
      rw [roleBy_ne apart] at takes
      exact ⟨l, drain, act.isDrainEnding q apart takes stage drain before ending⟩
    · rw [begun] at takes
      cases takes

theorem act_runs (h : Resting c d) (act : Action hit c d c₁ d₁) (n : Nat) (a : Attempt)
    (after : c₁.attempts[n]? = some a) (running : a.phase = .running) :
    turnOf d₁ = some (.attempt n) := by
  obtain ⟨s, before, -⟩ | ⟨x, -, -, -, -, ⟨waits, -⟩ | ⟨o, ceased, -⟩⟩ | ⟨-, rfl⟩ :=
    act.attempt_cases after
  · have own := h.runs n _ before running
    obtain ⟨x, rfl, task⟩ := Option.map_eq_some_iff.mp own
    cases d₁ with
    | some y => rw [← own, turnOf, turnOf, Option.map_some, Option.map_some, act.task_eq.1]
    | none =>
      exact absurd running (act.not_running task (List.getElem?_eq_some_iff.mp before).1 after)
  · rw [running] at waits
    cases waits
  · cases running.symm.trans ceased
  · cases running

theorem act (h : Resting c d) (q : Queue c (turnOf d)) (act : Action hit c d c₁ d₁) :
    Resting c₁ d₁ := ⟨h.act_drain q act, h.act_runs act⟩

theorem lose (h : Resting c d) : Resting (c.forget l id) d := by
  have role u : roleBy (c.forget l id) d u = roleBy c d u :=
    roleBy_congr fun u => congrArg Standing.role standing_forget
  have told u : (c.forget l id).told u = c.told u := congrArg Standing.told standing_forget
  refine ⟨fun t u apart takes stage untold => ?_, h.runs⟩
  rw [role] at takes
  rw [told] at untold
  obtain ⟨k, drain, ending⟩ := h.drain t u apart takes stage untold
  exact ⟨k, drain, ending.imp_left (told _).trans⟩

end Resting

theorem Begins.resting {rest : List Task} (begins : Begins c rest c₁ d) (h : Resting c none) :
    Resting c₁ d := by
  refine ⟨fun t u apart takes stage untold => ?_, fun n a after running => ?_⟩
  · rw [roleBy_ne apart, Client.role, begins.standing apart] at takes
    rw [told, begins.standing apart] at untold
    obtain ⟨l, drain, cancelled | ⟨x, ⟨⟩, -⟩⟩ := h.drain t u turnOf_none_ne takes stage untold
    refine ⟨l, drain, ?_⟩
    by_cases own : turnOf d = some (.drain l)
    · obtain ⟨x, rfl, task⟩ := Option.map_eq_some_iff.mp own
      refine .inr ⟨x, rfl, task, ?_⟩
      have signal := begins.turn.1
      rw [task, cancelled] at signal
      exact (Option.some.inj signal).symm
    · exact .inl (by rwa [told, begins.standing own])
  · have before (here : c.attempts[n]? = some a) : turnOf d = some (.attempt n) := by
      cases h.runs n a here running
    cases begins with
    | @attempt m p s ready here live =>
      by_cases e : m = n
      · rw [e]
        rfl
      · rw [putAttempt, List.getElem?_set_ne e] at after
        exact before after
    | _ => exact before after

theorem invariant_resting : Invariant Always fun c d _ => Resting c d :=
  ⟨fun sound h act => h.act sound.queue act, fun _ h _ _ _ => h.lose,
    fun _ _ h begins => begins.resting h⟩

/-- An attempt that waits when nothing else than a call can go on can be cancelled. -/
theorem Resting.yields (h : Resting c none) (closing : Closing c none) (q : Queue c none)
    (alone : c.ready = [.call m]) (here : c.attempts[n]? = some a) (goes : a.phase.outcome? = none)
    (holds : a.phase.role.strand ≠ .fails) : a.yields := by
  have untold (t : Task) (other : t ≠ .call m) : c.told t = none :=
    Option.not_isSome_iff_eq_none.mp fun some => other (by simpa [alone] using q.queued t some)
  have stands : c.standing (.attempt n) = ⟨a.phase.isLive, a.signal, a.phase.role⟩ := by
    simp [standing, here, Attempt.standing]
  have signal : a.signal = none := by
    have := untold (.attempt n) (by simp)
    rwa [told, stands] at this
  obtain ⟨p, s⟩ := a
  subst signal
  cases p with
  | fresh | handshake => rfl
  | running => cases h.runs n _ here rfl
  | done o => cases goes
  | failing t o => exact absurd rfl holds
  | clearing t =>
    have takes : (roleBy c none (.attempt n)).teardown = some t := by rw [roleBy, role, stands]; rfl
    have soft : t.stage.isFirm = false := by
      cases stage : t.stage with
      | listener =>
        obtain cancelled | ⟨x, ⟨⟩, -⟩ := closing.ending t.link (.attempt n) turnOf_none_ne
          ⟨t, takes, rfl, stage⟩ (untold _ (by simp))
        cases (untold (.listener t.link) (by simp)).symm.trans cancelled
      | drain =>
        obtain ⟨l, -, cancelled | ⟨x, ⟨⟩, -⟩⟩ :=
          h.drain (.attempt n) t turnOf_none_ne takes stage (untold _ (by simp))
        cases (untold (.drain l) (by simp)).symm.trans cancelled
      | _ => rfl
    simp [Attempt.yields, AttemptPhase.isWaiting, AttemptPhase.teardown?, isFirm, soft]

theorem Resting.not_overlooks (h : Resting c none) (closing : Closing c none) (q : Queue c none)
    (alone : c.ready = [.call m]) : c.overlooks = false := by
  simp only [overlooks, alone]
  refine Bool.and_eq_false_iff.mpr (.inr ?_)
  rcases c.attempt with _ | n
  · rfl
  · rcases here : c.attempts[n]? with _ | a
    · simp [here]
    · simp only [Option.any_some, here, Bool.and_eq_false_iff]
      by_cases goes : a.phase.outcome? = none
      · by_cases holds : a.phase.role.strand = .fails
        · exact .inr (by simp [holds])
        · exact .inl (.inr (by rw [h.yields closing q alone here goes holds]; rfl))
      · exact .inl (.inl (by rwa [← Option.isNone_iff_eq_none, Bool.not_eq_true] at goes))

section Run

variable {config : ServerConfig} {workspace : String} {policies : List Policy}

/-- Every disposal in a run begins when nothing else can go on. -/
def Undisturbed (c : Client) (inputs : List Input) : Prop :=
  ∀ before after m s rest, inputs = before ++ .turn :: after →
    (c.run before).ready = .call m :: rest →
    (c.run before).calls[m]? = some ⟨.fresh .dispose, s⟩ → rest = []

/-- A disposal that begins when nothing else can go on is noticed. -/
theorem Undisturbed.notices (h : (ofConfig config workspace policies).Undisturbed inputs)
    (fits : ∀ i ∈ inputs, i.Fits (ofConfig config workspace policies)) :
    (ofConfig config workspace policies).Notices inputs := by
  rintro before after rfl
  have fits' i (h : i ∈ before) := fits i (List.mem_append_left _ h)
  have closing : Closing (ofConfig config workspace policies) none :=
    closing_of_standing (fun _ => standing_ofConfig) (fun _ => rfl) fun _ => ⟨nofun, nofun, nofun⟩
  have resting : Resting (ofConfig config workspace policies) none := by
    refine ⟨fun t u _ takes => ?_, nofun⟩
    rw [roleBy, role, standing_ofConfig] at takes
    cases takes
  obtain ⟨sound, closing, resting⟩ := (invariant_closing.and invariant_resting).run
    throughout_always fits' sound_ofConfig ⟨closing, resting⟩
  cases first : ((ofConfig config workspace policies).run before).ready with
  | nil => simp [overlooks, first]
  | cons t rest =>
    cases t with
    | call m =>
      by_cases call : ∃ s, ((ofConfig config workspace policies).run before).calls[m]? =
          some ⟨.fresh .dispose, s⟩
      · obtain ⟨s, call⟩ := call
        obtain rfl := h before after m s rest rfl first call
        exact resting.not_overlooks closing sound.queue first
      · rcases here : ((ofConfig config workspace policies).run before).calls[m]? with _ | ⟨p, s⟩
        · simp [overlooks, first, here]
        · have other : p ≠ .fresh .dispose := by
            rintro rfl
            exact call ⟨s, here⟩
          simp [overlooks, first, here, other]
    | _ => simp [overlooks, first]

end Run

end Resting

variable {hit : Nat → Prop} {c c₁ : Client} {d d₁ : Option Doer} {ls lost : List Loss}
  {l m n id : Nat} {s : Signal} {i : Input} {inputs : List Input}

/-! ## Verdicts -/

/-- A disposal that waits for the answer to its request is told that, or that it is late, unless it
is cancelled. -/
def Verdicts (c : Client) : Prop :=
  ∀ (n l id deadline : Nat) (s : Signal), c.calls[n]? = some ⟨.shuttingDown l id deadline, some s⟩ →
    s.isVerdict ∨ s = .cancelled

theorem Prompts.verdict {deadline : Nat} {told : Option Signal} (why : Prompts hit c d (.call n) s)
    (here : c.calls[n]? = some ⟨.shuttingDown l id deadline, told⟩) : s.isVerdict ∨ s = .cancelled := by
  cases why with
  | call here' why =>
    obtain rfl := Option.some.inj (here'.symm.trans here)
    cases why with
    | step teardown => cases teardown
    | late => exact .inl rfl
    | refused => exact .inl rfl
    | cancelled => exact .inr rfl
  | @answer _ _ _ o _ _ good =>
    cases o with
    | value j => exact .inl rfl
    | error e => exact .inl rfl
    | cancelled => exact absurd rfl good.2

theorem Verdicts.act (h : Verdicts c) (act : Action hit c d c₁ d₁) (q : Queue c (turnOf d)) :
    Verdicts c₁ := by
  intro n l id deadline s after
  obtain before | ⟨-, why, s', before⟩ := act.call_told q rfl (by simp) after
  · exact h n l id deadline s before
  · exact why.verdict before

theorem invariant_verdicts : Invariant Always fun c _ _ => Verdicts c :=
  ⟨fun sound h act => h.act act sound.queue, fun _ h _ _ _ => h,
    fun _ _ h begins n l id deadline s here => h n l id deadline s (begins.call_told here)⟩

/-! ## Clients between their steps -/

/-- What holds of a client between the steps of a run in which attempts notice that they are
cancelled. -/
structure Poised (c : Client) : Prop where
  sound : ∃ lost, Sound c none lost
  client : c.audience = .client
  sharing : Sharing c none
  handshake : Handshake c none
  heeded : Heeded c
  current : Current c none
  minds : Minds c none
  closing : Closing c none
  resting : Resting c none
  verdicts : Verdicts c

theorem Poised.step (h : Poised c) (fits : i.Fits c) (notices : i = .turn → c.overlooks = false) :
    Poised (c.step i) := by
  obtain ⟨lost, sound⟩ := h.sound
  have current := (invariant_current.step h.heeded fits sound ⟨⟨h.sharing, h.handshake⟩, h.current⟩).2
  have minds := (invariant_minds.step trivial fits sound ⟨h.client, h.sharing, h.minds⟩).2
  have kept := (((invariant_closing.and invariant_resting).and invariant_verdicts).step
    trivial fits sound ⟨⟨h.closing, h.resting⟩, h.verdicts⟩)
  exact {
    sound := ⟨_, kept.1⟩
    client := minds.1
    sharing := minds.2.1
    handshake := current.1.2
    heeded := h.heeded.step sound h.sharing h.handshake notices fits
    current := current.2
    minds := minds.2.2
    closing := kept.2.1.1
    resting := kept.2.1.2
    verdicts := kept.2.2 }

section Run

variable {config : ServerConfig} {workspace : String} {policies : List Policy}

theorem poised_ofConfig : Poised (ofConfig config workspace policies) where
  sound := ⟨[], sound_ofConfig⟩
  client := rfl
  sharing := serving_ofConfig.1
  handshake := handshake_ofConfig
  heeded := fun n here => absurd here (Nat.not_lt_zero n)
  current := current_ofConfig
  minds := minds_ofConfig
  closing := closing_of_standing (fun _ => standing_ofConfig) (fun _ => rfl) fun _ =>
    ⟨nofun, nofun, nofun⟩
  resting := by
    refine ⟨fun t u _ takes => ?_, nofun⟩
    rw [roleBy, role, standing_ofConfig] at takes
    cases takes
  verdicts := nofun

end Run

/-! ## Disposals that are about to begin -/

/-- No disposal is about to begin. -/
def Undisposed (c : Client) : Prop :=
  ∀ (n : Nat) (s : Option Signal), c.calls[n]? ≠ some ⟨.fresh .dispose, s⟩

theorem Undisposed.notices (h : Undisposed c) : c.overlooks = false := by
  unfold overlooks
  split
  · next m rest first =>
    rcases here : c.calls[m]? with _ | ⟨p, s⟩
    · rfl
    · have other : p ≠ .fresh .dispose := by
        rintro rfl
        exact h m s here
      simp [other]
  · rfl

theorem Action.undisposed (act : Action hit c d c₁ d₁) (safe : ¬ hit c.calls.length)
    (h : Undisposed c) : Undisposed c₁ := by
  intro n s after
  obtain ⟨s', before, -⟩ | ⟨x, -, -, -, -, waits | ⟨o, e⟩, -⟩ | ⟨job, rfl, -⟩ :=
    act.call_cases after
  · exact h n s' before
  · cases waits
  · cases e
  · have here := (List.getElem?_eq_some_iff.mp after).1
    rw [act.calls_length safe] at here
    exact absurd here (Nat.lt_irrefl _)

theorem Path.undisposed (path : Path hit c d ls c₁ d₁) (safe : ¬ hit c.calls.length)
    (h : Undisposed c) : Undisposed c₁ := by
  induction path with
  | nil => exact h
  | step act _ ih => exact ih (act.calls_length safe ▸ safe) (act.undisposed safe h)
  | loses _ _ _ _ ih => exact ih safe h

theorem Undisposed.step (h : Undisposed c) (sound : Sound c none lost) (fits : i.Fits c)
    (other : i ≠ .call .dispose) : Undisposed (c.step i) := by
  by_cases quiet : ∀ job, i ≠ .call job
  · have safe : ¬ i.hits c c.calls.length := by
      cases i with
      | cancel m => exact fun struck => Nat.lt_irrefl _ (struck.1 ▸ struck.2)
      | call job => exact absurd rfl (quiet job)
      | _ => exact fun struck => struck
    obtain path | ⟨rest, c₁, d, begins, path⟩ := path_step sound.fit i fits
    · exact path.undisposed safe h
    · refine path.undisposed (begins.calls_length ▸ safe) fun n s here => ?_
      cases begins with
      | @call m p s' ready before live =>
        by_cases same : m = n
        · subst same
          rw [putCall, List.getElem?_set_self (List.getElem?_eq_some_iff.mp before).1] at here
          cases here
        · rw [putCall, List.getElem?_set_ne same] at here
          exact h n s here
      | _ => exact h n s here
  · simp only [not_forall, not_not] at quiet
    obtain ⟨job, rfl⟩ := quiet
    intro n s here
    have here : (c.calls ++ [Call.mk (.fresh job) (some .go)])[n]? = some ⟨.fresh .dispose, s⟩ := here
    rw [List.getElem?_append] at here
    split at here
    · exact h n s here
    · rw [List.getElem?_singleton] at here
      split at here
      · cases here
        exact other rfl
      · cases here

/-! ## Steps and runs -/

theorem Path.calls_le (path : Path hit c d ls c₁ d₁) : c.calls.length ≤ c₁.calls.length := by
  induction path with
  | nil => exact Nat.le_refl _
  | step act _ ih => exact Nat.le_trans act.calls_le ih
  | loses _ _ _ _ ih => exact ih

theorem attempts_le_step (sound : Sound c none lost) (fits : i.Fits c) :
    c.attempts.length ≤ (c.step i).attempts.length := by
  obtain path | ⟨rest, c₁, d, begins, path⟩ := path_step sound.fit i fits
  · exact path.attempts_le
  · exact begins.outcome.1 ▸ path.attempts_le

theorem calls_le_step (sound : Sound c none lost) (fits : i.Fits c) :
    c.calls.length ≤ (c.step i).calls.length := by
  obtain path | ⟨rest, c₁, d, begins, path⟩ := path_step sound.fit i fits
  · exact path.calls_le
  · exact begins.calls_length ▸ path.calls_le

theorem grows_run (sound : Sound c none lost) (fits : ∀ i ∈ inputs, i.Fits c) :
    c.attempts.length ≤ (c.run inputs).attempts.length ∧
      c.calls.length ≤ (c.run inputs).calls.length := by
  induction inputs generalizing c lost with
  | nil => exact ⟨Nat.le_refl _, Nat.le_refl _⟩
  | cons i inputs ih =>
    obtain ⟨here, later⟩ := Input.Fits.step fits sound
    obtain ⟨attempts, calls⟩ := ih (invariant_true.step trivial here sound trivial).1 later
    exact ⟨Nat.le_trans (attempts_le_step sound here) attempts,
      Nat.le_trans (calls_le_step sound here) calls⟩

/-- Who was told something knows it until its turn. -/
theorem told_step (sound : Sound c none lost) (fits : i.Fits c) (apart : ¬ c.IsTurn m i)
    (told : (c.told (.call m)).isSome) : ((c.step i).told (.call m)).isSome := by
  by_cases turns : i = .turn
  · subst turns
    obtain path | ⟨rest, c₁, d, begins, path⟩ := @path_turn NoHit c sound.fit
    · exact path.told_kept sound.queue turnOf_none_ne told
    · have own := apart_of_head begins fun head => apart ⟨rfl, head⟩
      refine path.told_kept (begins.queue sound.queue) own ?_
      rwa [Client.told, begins.standing own]
  · exact (path_input i fits turns).told_kept sound.queue turnOf_none_ne told

/-- A call that its caller does not cancel is not told that it is cancelled. -/
theorem Path.uncancelled (path : Path hit c d ls c₁ d₁) (q : Queue c (turnOf d)) (safe : ¬ hit n)
    (h : c.told (.call n) ≠ some .cancelled) : c₁.told (.call n) ≠ some .cancelled := by
  induction path with
  | nil => exact h
  | @step c d c₁ d₁ _ _ _ act _ ih =>
    refine ih (act.queue q) fun told => ?_
    by_cases own : turnOf d = some (.call n)
    · obtain ⟨x, rfl, task⟩ := Option.map_eq_some_iff.mp own
      rw [← task, act.told_own q] at told
      cases told
    · obtain same | ⟨s, same, why⟩ | ⟨-, r, same⟩ := act.stirs own
      · rw [Client.told, same] at told
        exact h told
      · rw [Client.told, same] at told
        obtain rfl : s = .cancelled := Option.some.inj told
        cases why with
        | call here why outside => exact safe (outside rfl)
      · rw [Client.told, same] at told
        cases told
  | @loses c d l id t ls c₂ d₂ idle pending untold path ih =>
    have same u : (c.forget l id).standing u = c.standing u := standing_forget
    exact ih (q.congr same rfl fun u => has_modifyLink.mpr) (by rwa [Client.told, same])

theorem uncancelled_step (sound : Sound c none lost) (fits : i.Fits c) (safe : ¬ i.hits c n)
    (h : c.told (.call n) ≠ some .cancelled) : (c.step i).told (.call n) ≠ some .cancelled := by
  obtain path | ⟨rest, c₁, d, begins, path⟩ := path_step sound.fit i fits
  · exact path.uncancelled sound.queue safe h
  · refine path.uncancelled (begins.queue sound.queue) safe ?_
    by_cases own : turnOf d = some (.call n)
    · rw [((begins.queue sound.queue).apart _ own).2.2.2]
      nofun
    · rwa [Client.told, begins.standing own]

theorem Poised.run (h : Poised c) (undisposed : Undisposed c) (fits : ∀ i ∈ inputs, i.Fits c)
    (others : .call .dispose ∉ inputs) : Poised (c.run inputs) ∧ Undisposed (c.run inputs) := by
  induction inputs generalizing c with
  | nil => exact ⟨h, undisposed⟩
  | cons i inputs ih =>
    obtain ⟨lost, sound⟩ := h.sound
    obtain ⟨here, later⟩ := Input.Fits.step fits sound
    have other : i ≠ .call .dispose := fun e => others (by simp [e])
    exact ih (h.step here fun _ => undisposed.notices) (undisposed.step sound here other) later
      fun mem => others (List.mem_cons_of_mem _ mem)

/-- What every step keeps is kept as long as no disposal begins. -/
theorem Poised.carries {P : Client → Prop}
    (step : ∀ (b : Client) (i : Input), Poised b → i.Fits b → P b → P (b.step i)) (h : Poised c)
    (undisposed : Undisposed c) (fits : ∀ i ∈ inputs, i.Fits c) (others : .call .dispose ∉ inputs)
    (holds : P c) : P (c.run inputs) := by
  induction inputs generalizing c with
  | nil => exact holds
  | cons i inputs ih =>
    obtain ⟨lost, sound⟩ := h.sound
    obtain ⟨here, later⟩ := Input.Fits.step fits sound
    have other : i ≠ .call .dispose := fun e => others (by simp [e])
    exact ih (h.step here fun _ => undisposed.notices) (undisposed.step sound here other) later
      (fun mem => others (List.mem_cons_of_mem _ mem)) (step c i h here holds)

end LspGateway.Client
