import LspGateway.Proofs.Client.Invariants

/-! # Sharing attempts

Callers share one attempt at a time. An attempt that is not shared any more and goes on
is being stopped by someone who disposes the client, and who is told only when the
attempt has ended.
-/

namespace LspGateway.Client

variable {hit : Nat → Prop} {c c₁ : Client} {d d₁ : Option Doer} {lost : List Loss} {x : Doer}
  {l n m id : Nat} {t : Task} {s : Signal} {o : Outcome}

/-- Someone disposes the client. -/
def Disposing (c : Client) (d : Option Doer) : Prop := ∃ t, (roleBy c d t).disposes

/-- An attempt that is not over. -/
def IsLive (c : Client) (n : Nat) : Prop :=
  n < c.attempts.length ∧ c.attemptOutcome? n = none

instance : Decidable (c.IsLive n) :=
  inferInstanceAs (Decidable (n < c.attempts.length ∧ c.attemptOutcome? n = none))

/-! ## The ends of attempts -/

/-- The outcome that an attempt has in its phase. -/
def AttemptPhase.outcome? : AttemptPhase → Option Outcome
  | .done o => some o
  | _ => none

theorem attemptOutcome_eq :
    c.attemptOutcome? n = (c.attempts[n]?.map Attempt.phase).bind AttemptPhase.outcome? := by
  unfold attemptOutcome?
  rcases c.attempts[n]? with _ | ⟨p, s⟩
  · rfl
  · cases p <;> rfl

theorem attemptOutcome_eq_some :
    c.attemptOutcome? n = some o ↔ ∃ s, c.attempts[n]? = some ⟨.done o, s⟩ := by
  unfold attemptOutcome?
  split
  · next p s h => simp [h]
  · next h => exact ⟨nofun, fun ⟨s, e⟩ => absurd e (h o s)⟩

theorem attemptOutcome_congr (attempts : c₁.attempts = c.attempts) :
    c₁.attemptOutcome? n = c.attemptOutcome? n := by
  rw [attemptOutcome?, attempts, attemptOutcome?]

theorem AttemptPhase.outcome_of_isWaiting {p : AttemptPhase} (h : p.isWaiting) :
    p.outcome? = none := by
  cases p <;> first | rfl | cases h

theorem AttemptPhase.outcome_of_isLive {p : AttemptPhase} (h : p.isLive) : p.outcome? = none := by
  cases p <;> first | rfl | cases h

theorem attemptOutcome_put {a : Attempt} (h : n < c.attempts.length) :
    (c.putAttempt n a).attemptOutcome? m =
      if m = n then a.phase.outcome? else c.attemptOutcome? m := by
  rw [attemptOutcome_eq, attemptOutcome_eq]
  split
  · next e =>
    rw [e, putAttempt, List.getElem?_set_self h]
    rfl
  · next e => rw [putAttempt, List.getElem?_set_ne (Ne.symm e)]

/-- An attempt that ends has its outcome. -/
theorem attemptOutcome_settle (h : n < c.attempts.length) :
    (c.settleAttempt n o).attemptOutcome? m = if m = n then some o else c.attemptOutcome? m :=
  attemptOutcome_put h

/-- What an attempt is told is no matter for how it ended. -/
theorem attemptOutcome_tell {a : Attempt} (here : c.attempts[n]? = some a) :
    (c.tellAttempt n a s).attemptOutcome? m = c.attemptOutcome? m := by
  have put := attemptOutcome_put (m := m) (a := ⟨a.phase, some s⟩)
    (List.getElem?_eq_some_iff.mp here).1
  refine Eq.trans put ?_
  split
  · next e => simp [e, attemptOutcome_eq, here]
  · rfl

theorem attemptOutcome_prompt : (c.prompt t s).attemptOutcome? n = c.attemptOutcome? n := by
  rw [attemptOutcome_eq, attemptOutcome_eq]
  cases t with
  | attempt m =>
    simp only [prompt, List.getElem?_modify]
    rcases c.attempts[n]? with _ | a
    · rfl
    · by_cases e : m = n <;> simp [e]
  | _ => rfl

theorem attempts_length_prompt : (c.prompt t s).attempts.length = c.attempts.length := by
  cases t <;> simp [prompt]

theorem attemptOutcome_add : c.addAttempt.attemptOutcome? n = c.attemptOutcome? n := by
  rw [attemptOutcome_eq, attemptOutcome_eq]
  rcases Nat.lt_trichotomy n c.attempts.length with h | h | h
  · rw [addAttempt, push, List.getElem?_append_left h]
  · simp [addAttempt, push, h, AttemptPhase.outcome?]
  · rw [List.getElem?_eq_none (Nat.le_of_lt h), List.getElem?_eq_none]
    simpa [addAttempt, push] using Nat.succ_le_of_lt h

/-- An attempt ends in its own turn, which those who wait for it are to learn, and stays as it
ended. -/
theorem Action.outcome (act : Action hit c d c₁ d₁)
    (turn : ∀ m, turnOf d = some (.attempt m) → c.IsLive m) (n : Nat) :
    c₁.attemptOutcome? n = c.attemptOutcome? n ∨
      turnOf d = some (.attempt n) ∧ d₁ = none ∧ (c₁.attemptOutcome? n).isSome ∧
        .relay n ∈ c₁.ready := by
  have own {x : Doer} {m : Nat} (e : d = some x) (task : x.task = .attempt m) :
      turnOf d = some (.attempt m) := by rw [e, turnOf, Option.map_some, task]
  have settled {b : Client} {m : Nat} {o : Outcome} (here : m < b.attempts.length)
      (attempts : b.attempts = c.attempts) :
      (b.settleAttempt m o).attemptOutcome? n = c.attemptOutcome? n ∨
        m = n ∧ ((b.settleAttempt m o).attemptOutcome? n).isSome ∧
          .relay n ∈ (b.settleAttempt m o).ready := by
    rw [attemptOutcome_settle here]
    split
    · next e => exact .inr ⟨e.symm, rfl, by simp [settleAttempt, push, e]⟩
    · exact .inl (attemptOutcome_congr attempts)
  cases act with
  | tellsAttempt here => exact .inl (attemptOutcome_tell here)
  | answers => exact .inl (attemptOutcome_prompt.trans (attemptOutcome_congr rfl))
  | fails => exact .inl (attemptOutcome_prompt.trans (attemptOutcome_congr rfl))
  | takes how =>
    rw [how.frame]
    exact .inl rfl
  | shares => exact .inl attemptOutcome_add
  | @parksAttempt x m p task role left waits ends =>
    obtain ⟨here, live⟩ := turn m (own rfl task)
    refine .inl ((attemptOutcome_put here).trans ?_)
    split
    · next e =>
      subst e
      exact (AttemptPhase.outcome_of_isWaiting waits).trans live.symm
    · rfl
  | @endsAttempt x m o task done =>
    obtain ⟨here, -⟩ := turn m (own rfl task)
    refine (settled here rfl).imp_right fun ended => ⟨?_, rfl, ended.2⟩
    rw [← ended.1, own rfl task]
  | @succeeds x m l k id j task done starts asked agreed used up =>
    obtain ⟨here, -⟩ := turn m (own rfl task)
    refine (settled (b := { c with state := .ready }) here rfl).imp_right fun ended =>
      ⟨?_, rfl, ended.2⟩
    rw [← ended.1, own rfl task]
  | _ => exact .inl (attemptOutcome_congr rfl)

/-! ## Disposals -/

/-- Nothing is under way in an activity that has ended or has its turn. -/
theorem role_of_not_live (dead : (c.standing t).live = false) : c.role t = .idle := by
  cases t with
  | attempt n =>
    rcases h : c.attempts[n]? with _ | ⟨p, s⟩
    · simp [role, standing, h, Standing.absent]
    · have dead : p.isLive = false := by simpa [standing, h, Attempt.standing] using dead
      have role : c.role (.attempt n) = p.role := by simp [role, standing, h, Attempt.standing]
      rw [role]
      cases p <;> first | rfl | cases dead
  | call n =>
    rcases h : c.calls[n]? with _ | ⟨p, s⟩
    · simp [role, standing, h, Standing.absent]
    · have dead : p.isLive = false := by simpa [standing, h, Call.standing] using dead
      have role : c.role (.call n) = p.role := by simp [role, standing, h, Call.standing]
      rw [role]
      cases p <;> first | rfl | cases dead
  | _ => rfl

theorem Action.disposing (act : Action hit c d c₁ d₁) (q : Queue c (turnOf d)) (b : Bounds c d)
    (h : Disposing c d) : Disposing c₁ d₁ ∨ c₁.state = .notStarted := by
  obtain ⟨t, disposes⟩ := h
  by_cases apart : turnOf d = some t
  · obtain ⟨x, rfl, rfl⟩ := Option.map_eq_some_iff.mp apart
    have errand := b.disposes x.task disposes
    have call := b.calls x.task (by rw [errand]; nofun)
    rw [roleBy_self rfl] at disposes
    cases d₁ with
    | some y =>
      refine .inl ⟨x.task, ?_⟩
      rw [roleBy_self act.task_eq.1]
      obtain ⟨e, b, same⟩ | ⟨u, rfl, -⟩ | ⟨a, rfl, -⟩ := act.role_step
      · rwa [same]
      · exact disposes
      · rfl
    | none =>
      obtain same | ⟨-, -, reset⟩ := act.role_own q
      · exact .inl ⟨x.task, by rwa [roleBy, same]⟩
      · refine .inr (reset disposes ?_)
        cases task : x.task with
        | call n => exact ⟨n, rfl⟩
        | _ => rw [task] at call; cases call
  · left
    refine ⟨t, ?_⟩
    obtain same | ⟨-, job, -, -, before, -⟩ := act.roleBy_other apart
    · rwa [same]
    · rw [before] at disposes
      cases disposes

theorem Begins.disposing {rest : List Task} (begins : Begins c rest c₁ d)
    (h : Disposing c none) : Disposing c₁ d := by
  obtain ⟨t, disposes⟩ := h
  refine ⟨t, ?_⟩
  obtain same | ⟨-, same⟩ := begins.role t <;> rwa [same]

/-- Who waits for the end of an attempt does so until its next turn. -/
theorem Action.stopping (act : Action hit c d c₁ d₁) (q : Queue c (turnOf d))
    (h : (roleBy c d t).stopping = some n) : (roleBy c₁ d₁ t).stopping = some n := by
  by_cases apart : turnOf d = some t
  · obtain ⟨x, rfl, rfl⟩ := Option.map_eq_some_iff.mp apart
    rw [roleBy_self rfl] at h
    cases d₁ with
    | some y =>
      rw [roleBy_self act.task_eq.1]
      obtain ⟨e, b, same⟩ | ⟨u, rfl, -⟩ | ⟨a, rfl, -, done, -⟩ := act.role_step
      · rwa [same]
      · exact h
      · exact absurd (done.stopping.symm.trans h) nofun
    | none =>
      obtain same | ⟨done, -, -⟩ := act.role_own q
      · rwa [roleBy, same]
      · exact absurd (done.stopping.symm.trans h) nofun
  · obtain same | ⟨-, job, -, -, before, -⟩ := act.roleBy_other apart
    · rwa [same]
    · rw [before] at h
      cases h

/-- Who waits for the end of an attempt waits for nothing else. -/
theorem role_of_stopping (h : (c.role t).stopping = some n) :
    c.role t = { Role.disposing with stopping := some n } := by
  cases t with
  | attempt m =>
    rcases here : c.attempts[m]? with _ | ⟨p, s⟩ <;>
      simp only [role, standing, here, Option.map_none, Option.map_some] at h ⊢
    · cases h
    · cases p <;> cases h
  | call m =>
    rcases here : c.calls[m]? with _ | ⟨p, s⟩ <;>
      simp only [role, standing, here, Option.map_none, Option.map_some] at h ⊢
    · cases h
    · cases p <;> cases h
      rfl
  | _ => cases h

/-! ## One attempt at a time -/

/-- How attempts are shared and stopped. -/
structure Sharing (c : Client) (d : Option Doer) : Prop where
  here : ∀ n, c.attempt = some n → n < c.attempts.length
  turn : ∀ n, turnOf d = some (.attempt n) → c.IsLive n
  /-- Callers share the attempt, or someone stops it. -/
  owned : ∀ n, c.IsLive n → c.attempt = some n ∨ ∃ t, (roleBy c d t).stopping = some n
  told : ∀ t n, (c.role t).stopping = some n → (c.told t).isSome →
    (c.attemptOutcome? n).isSome
  stops : ∀ t, (roleBy c d t).stopping.isSome → (roleBy c d t).disposes
  /-- No attempt goes on for a client that is ready, unless it is being disposed. -/
  alone : c.state = .ready → ∀ n, c.IsLive n → Disposing c d

/-- Two attempts go on at a time only while the client is being disposed. -/
theorem Sharing.disposing (h : Sharing c d) (hn : c.IsLive n) (hm : c.IsLive m) (ne : n ≠ m) :
    Disposing c d := by
  have stopped {k : Nat} (h' : ∃ t, (roleBy c d t).stopping = some k) : Disposing c d := by
    obtain ⟨t, e⟩ := h'
    exact ⟨t, h.stops t (by rw [e]; rfl)⟩
  obtain shared | other := h.owned n hn
  · obtain shared' | other := h.owned m hm
    · exact absurd (Option.some.inj (shared.symm.trans shared')) ne
    · exact stopped other
  · exact stopped other

theorem Action.isLive (act : Action hit c d c₁ d₁)
    (turn : ∀ m, turnOf d = some (.attempt m) → c.IsLive m) (live : c₁.IsLive n) :
    c.IsLive n ∨ c₁ = c.addAttempt ∧ n = c.attempts.length ∧ c.state ≠ .ready := by
  have before : c.attemptOutcome? n = none := by
    obtain same | ⟨-, -, ceased, -⟩ := act.outcome turn n
    · exact same.symm.trans live.2
    · rw [live.2] at ceased
      cases ceased
  by_cases here : n < c.attempts.length
  · exact .inl ⟨here, before⟩
  · right
    have grows := live.1
    cases act with
    | shares sends cold ceased =>
      refine ⟨rfl, ?_, cold⟩
      simp only [addAttempt, push, List.length_append, List.length_singleton] at grows
      omega
    | answers | fails => exact absurd (Nat.lt_of_lt_of_eq grows attempts_length_prompt) here
    | takes how =>
      rw [how.frame] at grows
      exact absurd grows here
    | tellsAttempt | parksAttempt | endsAttempt | succeeds =>
      exact absurd (Nat.lt_of_lt_of_eq grows (List.length_set ..)) here
    | _ => exact absurd grows here

theorem IsLive.mono (act : Action hit c d c₁ d₁)
    (turn : ∀ m, turnOf d = some (.attempt m) → c.IsLive m) (live : c.IsLive n)
    (goes : d₁ ≠ none ∨ turnOf d ≠ some (.attempt n)) : c₁.IsLive n := by
  refine ⟨Nat.lt_of_lt_of_le live.1 act.attempts_le, ?_⟩
  obtain same | ⟨own, ceased, -⟩ := act.outcome turn n
  · exact same.trans live.2
  · obtain goes | other := goes
    · exact absurd ceased goes
    · exact absurd own other

namespace Sharing

theorem over_mono (h : Sharing c d) (act : Action hit c d c₁ d₁)
    (ceased : (c.attemptOutcome? n).isSome) : (c₁.attemptOutcome? n).isSome := by
  obtain same | ⟨-, -, ceased, -⟩ := act.outcome h.turn n
  · rwa [same]
  · exact ceased

theorem act_here (h : Sharing c d) (act : Action hit c d c₁ d₁) (n : Nat)
    (shared : c₁.attempt = some n) : n < c₁.attempts.length := by
  have old (before : c.attempt = some n) : n < c₁.attempts.length :=
    Nat.lt_of_lt_of_le (h.here n before) act.attempts_le
  cases act with
  | shares =>
    obtain rfl := Option.some.inj shared
    simp [addAttempt, push]
  | disposes | detaches => cases shared
  | takes how =>
    rw [how.frame] at shared
    exact old shared
  | _ => exact old shared

theorem act_turn (h : Sharing c d) (act : Action hit c d c₁ d₁) (n : Nat)
    (turn : turnOf d₁ = some (.attempt n)) : c₁.IsLive n := by
  cases d with
  | none =>
    rw [act.none_eq] at turn
    cases turn
  | some x =>
    cases d₁ with
    | none => cases turn
    | some y =>
      refine IsLive.mono act h.turn (h.turn n ?_) (.inl nofun)
      rw [← turn, turnOf, turnOf, Option.map_some, Option.map_some, act.task_eq.1]

theorem act_owned (h : Sharing c d) (q : Queue c (turnOf d)) (act : Action hit c d c₁ d₁) (n : Nat)
    (live : c₁.IsLive n) : c₁.attempt = some n ∨ ∃ t, (roleBy c₁ d₁ t).stopping = some n := by
  obtain before | ⟨rfl, rfl, -⟩ := act.isLive h.turn live
  · obtain shared | ⟨t, stops⟩ := h.owned n before
    · have goes (ceased : ∀ a, c.attempt = some a → (c.attemptOutcome? a).isSome) : False := by
        have := ceased n shared
        rw [before.2] at this
        cases this
      cases act with
      | shares sends cold ceased => exact absurd ceased goes
      | disposes errand done ceased => exact absurd ceased goes
      | @detaches x a errand done shared' _ =>
        refine .inr ⟨x.task, (congrArg Role.stopping (roleBy_self rfl)).trans ?_⟩
        exact shared'.symm.trans shared
      | takes how =>
        rw [how.frame]
        exact .inl shared
      | _ => exact .inl shared
    · exact .inr ⟨t, act.stopping q stops⟩
  · exact .inl rfl

/-- Who waits for the end of an attempt is told something only when it has ended. -/
theorem act_told (h : Sharing c d) (q : Queue c (turnOf d)) (r : Requests c d lost)
    (act : Action hit c d c₁ d₁) (t : Task) (n : Nat) (stops : (c₁.role t).stopping = some n)
    (told : (c₁.told t).isSome) : (c₁.attemptOutcome? n).isSome := by
  by_cases apart : turnOf d = some t
  · obtain ⟨x, rfl, rfl⟩ := Option.map_eq_some_iff.mp apart
    rw [act.told_own q] at told
    cases told
  · have before : (c.role t).stopping = some n := by
      obtain same | ⟨-, job, -, -, begun⟩ := act.role_other apart
      · rwa [← same]
      · rw [begun] at stops
        cases stops
    obtain same | ⟨s, same, why⟩ | ⟨dead, -⟩ := act.stirs apart
    · rw [Client.told, same] at told
      exact h.over_mono act (h.told t n before told)
    · refine h.over_mono act ?_
      cases why with
      | listener | drain => cases before
      | @attempt m a s here =>
        have role : c.role (.attempt m) = a.phase.role := by
          simp [role, standing, here, Attempt.standing]
        rw [role] at before
        cases phase : a.phase <;> rw [phase] at before <;> cases before
      | @call m k s here why =>
        have role : c.role (.call m) = k.phase.role := by
          simp [role, standing, here, Call.standing]
        rw [role] at before
        obtain ⟨p, s'⟩ := k
        cases p with
        | stopping a =>
          obtain rfl := Option.some.inj before
          cases why with
          | step teardown => cases teardown
          | late deadline => cases deadline
          | stopped ended => exact ended
          | cancelled yields => cases yields
        | _ => cases before
      | @answer l id t o pending =>
        have claims := r.pending l id t pending
        rw [claim_ne apart, role_of_stopping before] at claims
        cases claims
    · rw [role_of_not_live dead] at before
      cases before

theorem act_stops (h : Sharing c d) (q : Queue c (turnOf d)) (act : Action hit c d c₁ d₁) (t : Task)
    (stops : (roleBy c₁ d₁ t).stopping.isSome) : (roleBy c₁ d₁ t).disposes := by
  refine act.forall_role (p := fun r => r.stopping.isSome → r.disposes) q (h.stops t) ?_ nofun
    (fun _ _ _ => nofun) stops
  rintro x y rfl rfl - before stops
  obtain ⟨e, b, same⟩ | ⟨u, rfl, -⟩ | ⟨a, rfl, -⟩ := act.role_step
  · rw [same] at stops ⊢
    exact before stops
  · exact before stops
  · rfl

theorem act_alone (h : Sharing c d) (q : Queue c (turnOf d)) (b : Bounds c d)
    (act : Action hit c d c₁ d₁) (ready : c₁.state = .ready) (n : Nat) (live : c₁.IsLive n) :
    Disposing c₁ d₁ := by
  have keep (disposing : Disposing c d) : Disposing c₁ d₁ :=
    (act.disposing q b disposing).resolve_right fun e => by rw [ready] at e; cases e
  obtain before | ⟨rfl, -, cold⟩ := act.isLive h.turn live
  · refine keep ?_
    cases act with
    | startsUp | fallsBack | givesUp | resets => cases ready
    | @succeeds x m l k id j task =>
      -- The attempt that succeeds goes on until then, and so does the other one.
      have own : turnOf (some x) = some (.attempt m) := congrArg some task
      refine h.disposing before (h.turn m own) ?_
      rintro rfl
      have put := attemptOutcome_put (m := n) (a := ⟨.done .done, none⟩) before.1
      rw [if_pos rfl] at put
      exact absurd (live.2.symm.trans put) nofun
    | takes how =>
      rw [how.frame] at ready
      exact h.alone ready n before
    | _ => exact h.alone ready n before
  · exact absurd ready cold

theorem act (h : Sharing c d) (q : Queue c (turnOf d)) (r : Requests c d lost) (b : Bounds c d)
    (act : Action hit c d c₁ d₁) : Sharing c₁ d₁ :=
  ⟨h.act_here act, h.act_turn act, h.act_owned q act, h.act_told q r act, h.act_stops q act, h.act_alone q b act⟩

theorem lose (h : Sharing c d) : Sharing (c.forget l id) d := by
  have role u : roleBy (c.forget l id) d u = roleBy c d u :=
    roleBy_congr fun u => congrArg Standing.role standing_forget
  have told u : (c.forget l id).told u = c.told u := congrArg Standing.told standing_forget
  refine ⟨h.here, h.turn, fun n live => ?_, fun t n stops some => ?_, fun t => ?_, fun ready n live => ?_⟩
  · obtain shared | ⟨t, stops⟩ := h.owned n live
    · exact .inl shared
    · exact .inr ⟨t, by rwa [role]⟩
  · rw [Client.role, standing_forget] at stops
    rw [told] at some
    exact h.told t n stops some
  · rw [role]
    exact h.stops t
  · obtain ⟨t, disposes⟩ := h.alone ready n live
    exact ⟨t, by rwa [role]⟩

end Sharing

theorem Begins.outcome {rest : List Task} (begins : Begins c rest c₁ d) :
    c₁.attempts.length = c.attempts.length ∧ c₁.attempt = c.attempt ∧
      (∀ n, c₁.attemptOutcome? n = c.attemptOutcome? n) ∧
      ∀ n, turnOf d = some (.attempt n) → c.IsLive n := by
  cases begins with
  | @attempt n p s ready here live =>
    have lt : n < c.attempts.length := (List.getElem?_eq_some_iff.mp here).1
    have before : c.attemptOutcome? n = none := by
      rw [attemptOutcome_eq, here]
      exact AttemptPhase.outcome_of_isLive live
    refine ⟨List.length_set .., rfl, fun m => ?_, fun m e => ?_⟩
    · refine (attemptOutcome_put (c := { c with ready := rest }) lt).trans ?_
      split
      · next e => rw [e, before]; rfl
      · rfl
    · cases e
      exact ⟨lt, before⟩
  | relay => exact ⟨rfl, rfl, fun _ => rfl, nofun⟩
  | _ => exact ⟨rfl, rfl, fun _ => rfl, fun n e => nomatch e⟩

/-- Whoever does not get its turn stands where it stood. -/
theorem Begins.standing {rest : List Task} (begins : Begins c rest c₁ d)
    (apart : turnOf d ≠ some t) : c₁.standing t = c.standing t := by
  cases d with
  | none =>
    cases begins
    rfl
  | some x => exact begins.turn.2.2.2 t fun e => apart (congrArg some e.symm)

theorem Begins.sharing {rest : List Task} (begins : Begins c rest c₁ d) (q : Queue c none)
    (h : Sharing c none) : Sharing c₁ d := by
  obtain ⟨length, attempt, outcome, turn⟩ := begins.outcome
  have live n : c₁.IsLive n ↔ c.IsLive n := by rw [IsLive, length, outcome, IsLive]
  refine ⟨fun n shared => ?_, fun n e => (live n).mpr (turn n e), fun n live₁ => ?_, fun t n stops told => ?_,
    fun t stops => ?_, fun ready n live₁ => ?_⟩
  · rw [length]
    exact h.here n (attempt ▸ shared)
  · have before := (live n).mp live₁
    obtain shared | ⟨t, stops⟩ := h.owned n before
    · exact .inl (attempt.trans shared)
    · obtain same | ⟨own, -⟩ := begins.role t
      · exact .inr ⟨t, by rw [same]; exact stops⟩
      · -- Whoever begins a turn was told that the attempt is over.
        obtain ⟨x, rfl, rfl⟩ := Option.map_eq_some_iff.mp own
        have ceased := h.told _ n stops (by rw [begins.turn.1]; rfl)
        rw [before.2] at ceased
        cases ceased
  · rw [outcome]
    by_cases own : turnOf d = some t
    · rw [((begins.queue q).apart t own).2.2.2] at told
      cases told
    · have stands := begins.standing own
      rw [Client.role, stands] at stops
      rw [Client.told, stands] at told
      exact h.told t n stops told
  · obtain same | ⟨-, same⟩ := begins.role t
    · rw [same] at stops ⊢
      exact h.stops t stops
    · rw [same] at stops
      cases stops
  · exact begins.disposing (h.alone (begins.frame.2.2.1 ▸ ready) n ((live n).mp live₁))

theorem invariant_sharing : Invariant Always fun c d _ => Sharing c d :=
  ⟨fun sound h act => h.act sound.queue sound.requests sound.bounds act, fun _ h _ _ _ => h.lose,
    fun _ sound h begins => begins.sharing sound.queue h⟩

/-- A client without attempts and calls. -/
theorem sharing_of_standing (standing : ∀ t, c.standing t = .absent) (attempts : c.attempts = [])
    (attempt : c.attempt = none) : Sharing c none := by
  have role t : c.role t = .idle := by rw [role, standing, Standing.absent]
  have live n : ¬ c.IsLive n := fun h => by simpa [attempts] using h.1
  refine ⟨fun n shared => ?_, (by simp [turnOf]), fun n h => absurd h (live n), fun t n stops => ?_, fun t stops => ?_,
    fun _ n h => absurd h (live n)⟩
  · rw [attempt] at shared
    cases shared
  · rw [role] at stops
    cases stops
  · rw [roleBy, role] at stops
    cases stops

end LspGateway.Client
