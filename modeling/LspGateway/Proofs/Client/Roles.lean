import LspGateway.Proofs.Client.Requests

/-! # What activities have under way

What an activity has under way changes in its own turn, and otherwise only when a
call begins.
-/

namespace LspGateway.Client

variable {hit : Nat → Prop} {c c₁ : Client} {d d₁ : Option Doer} {ls : List Loss} {x y : Doer}
  {l k n : Nat} {t u : Task} {s : Signal}

theorem role_congr (attempts : c₁.attempts = c.attempts) (calls : c₁.calls = c.calls) :
    c₁.role t = c.role t := by
  cases t <;> simp [role, standing, attempts, calls, Watcher.standing]

theorem role_prompt : (c.prompt u s).role t = c.role t := by
  rw [role, standing_prompt]
  split <;> rfl

def Task.isCall : Task → Bool
  | .call _ => true
  | _ => false

/-- How an activity in its turn goes on. -/
theorem Action.task_eq (act : Action hit c (some x) c₁ (some y)) :
    y.task = x.task ∧ y.signal = x.signal ∧ y.began = x.began ∧ y.role.errand = x.role.errand := by
  cases act <;> exact ⟨rfl, rfl, rfl, rfl⟩

theorem Action.role_other (act : Action hit c d c₁ d₁) (apart : turnOf d ≠ some t) :
    c₁.role t = c.role t ∨
      d = none ∧ ∃ job : Job, job.Fits c ∧ t = .call c.calls.length ∧ c₁.role t = .begun job.errand := by
  cases act with
  | @tellsAttempt d n a s here why =>
    left
    rw [role, standing_tellAttempt here]
    split <;> rfl
  | @tellsCall d n a s here why =>
    left
    rw [role, standing_tellCall here]
    split <;> rfl
  | answers idle hears pending untold reply => exact .inl (role_prompt.trans (role_congr rfl rfl))
  | fails idle reason first => exact .inl (role_prompt.trans (role_congr rfl rfl))
  | takes how =>
    left
    rw [how.frame]
    exact role_congr rfl rfl
  | @shares x sends cold ceased =>
    left
    rw [role, standing_addAttempt]
    split
    · next e => simp [e, role, standing, Standing.absent]
    · rfl
  | @parksAttempt x n p task role left waits ends =>
    left
    rw [Client.role, standing_putAttempt, if_neg]
    · rfl
    · rintro ⟨rfl, -⟩
      exact apart (congrArg some task)
  | @endsAttempt x n o task done =>
    left
    rw [role, standing_settleAttempt, if_neg]
    · rfl
    · rintro ⟨rfl, -⟩
      exact apart (congrArg some task)
  | @succeeds x n l k id j task done starts asked agreed used up =>
    left
    rw [role, standing_settleAttempt, if_neg]
    · rfl
    · rintro ⟨rfl, -⟩
      exact apart (congrArg some task)
  | @parksCall x n p task role left waits ends stops go joins =>
    left
    rw [Client.role, standing_putCall, if_neg]
    · rfl
    · rintro ⟨rfl, -⟩
      exact apart (congrArg some task)
  | @endsCall x n o task done reset proper =>
    left
    rw [role, standing_putCall, if_neg]
    · rfl
    · rintro ⟨rfl, -⟩
      exact apart (congrArg some task)
  | calls job fits =>
    rw [role, standing_addCall]
    split
    · next e => exact .inr ⟨rfl, job, fits, e, rfl⟩
    · exact .inl rfl
  | _ => exact .inl (role_congr rfl rfl)

/-- An activity ends its turn with what it has under way, or ends with nothing. -/
theorem Action.role_own (act : Action hit c (some x) c₁ none) (q : Queue c (some x.task)) :
    c₁.role x.task = x.role ∨ x.IsDone ∧ c₁.role x.task = .idle ∧
      (x.role.disposes = true → (∃ n, x.task = .call n) → c₁.state = .notStarted) := by
  have here := (q.apart _ rfl).2.1
  cases act with
  | @rests x l task done go runs reading => exact .inr ⟨done, by rw [task]; rfl, by simp [task]⟩
  | @drainRests x l task done => exact .inr ⟨done, by rw [task]; rfl, by simp [task]⟩
  | @parksAttempt x n p task role left waits ends =>
    left
    rw [Client.role, standing_putAttempt, if_pos ⟨task, here⟩]
    exact role
  | @endsAttempt x n o task done =>
    refine .inr ⟨done, ?_, by simp [task]⟩
    rw [role, standing_settleAttempt, if_pos ⟨task, here⟩]
  | @succeeds x n l k id j task done starts asked agreed used up =>
    refine .inr ⟨done, ?_, by simp [task]⟩
    rw [role, standing_settleAttempt, if_pos ⟨task, here⟩]
  | @parksCall x n p task role left waits ends stops go joins =>
    left
    rw [Client.role, standing_putCall, if_pos ⟨task, here⟩]
    exact role
  | @endsCall x n o task done reset proper =>
    refine .inr ⟨done, ?_, fun disposes _ => reset disposes⟩
    rw [role, standing_putCall, if_pos ⟨task, here⟩]
    rfl
  | @leaves x done told ceased =>
    obtain ⟨l, task, -⟩ | ⟨l, task, -⟩ := ceased
    · exact .inr ⟨done, by rw [task]; rfl, by simp [task]⟩
    · exact .inr ⟨done, by rw [task]; rfl, by simp [task]⟩

theorem Action.none_eq (act : Action hit c none c₁ d₁) : d₁ = none := by
  cases act <;> rfl

/-- What an activity in its turn has under way, when its turn goes on. -/
theorem roleBy_self (task : y.task = t) : roleBy c (some y) t = y.role := if_pos task

/-- What changes in what an activity in its turn has under way. -/
theorem Action.role_step (act : Action hit c (some x) c₁ (some y)) :
    (∃ e s, y.role = { x.role with expects := e, strand := s }) ∨
      (∃ u, y = x.takeDown u ∧ Takes c x c₁ u) ∨
      ∃ a, y = x.stop a ∧ x.role.errand = .disposes ∧ x.IsDone ∧ c₁ = { c with attempt := none } ∧
        (∀ b, a = some b → c.attempt = some b) ∧
        ∀ b, c.attempt = some b → (c.attemptOutcome? b).isSome ∨ a = some b := by
  cases act with
  | asks idle left up used => exact .inl ⟨_, _, rfl⟩
  | retracts expects => exact .inl ⟨_, _, rfl⟩
  | greets | spends | connects | startsUp | turnsBack => exact .inl ⟨x.role.expects, _, rfl⟩
  | takes how => exact .inr (.inl ⟨_, rfl, how⟩)
  | disposes errand done ceased =>
    exact .inr (.inr ⟨none, rfl, errand, done, rfl, nofun, fun b h => .inl (ceased b h)⟩)
  | detaches errand done shared live =>
    refine .inr (.inr ⟨_, rfl, errand, done, rfl, ?_, fun b h => .inr (shared.symm.trans h)⟩)
    rintro b ⟨⟩
    exact shared
  | _ => exact .inl ⟨x.role.expects, x.role.strand, rfl⟩

/-- Nobody gets the turn of another. -/
theorem Action.apart (act : Action hit c d c₁ d₁) (apart : turnOf d ≠ some t) : turnOf d₁ ≠ some t := by
  cases d with
  | none =>
    rw [act.none_eq]
    nofun
  | some x =>
    cases d₁ with
    | none => nofun
    | some y =>
      intro e
      exact apart (by rw [← e, turnOf, turnOf, Option.map_some, Option.map_some, act.task_eq.1])

/-- What has no turn has the same under way, unless it is a call that begins. -/
theorem Action.roleBy_other (act : Action hit c d c₁ d₁) (apart : turnOf d ≠ some t) :
    roleBy c₁ d₁ t = roleBy c d t ∨
      d = none ∧ ∃ job : Job, job.Fits c ∧ t = .call c.calls.length ∧
        roleBy c d t = .idle ∧ roleBy c₁ d₁ t = .begun job.errand := by
  rw [roleBy_ne apart, roleBy_ne (act.apart apart)]
  obtain same | ⟨e, job, fits, call, started⟩ := act.role_other apart
  · exact .inl same
  · refine .inr ⟨e, job, fits, call, ?_, started⟩
    simp [call, role, standing, Standing.absent]

/-- What holds of whatever is under way goes on to hold if it holds of what an activity in its
turn goes on to do, of nothing, and of a call that begins. -/
theorem Action.forall_role {p : Role → Prop} (act : Action hit c d c₁ d₁) (q : Queue c (turnOf d))
    (h : p (roleBy c d t))
    (own : ∀ x y, d = some x → d₁ = some y → x.task = t → p x.role → p y.role)
    (idle : p .idle) (begun : ∀ job : Job, job.Fits c → t.isCall → p (.begun job.errand)) :
    p (roleBy c₁ d₁ t) := by
  by_cases apart : turnOf d = some t
  · obtain ⟨x, rfl, task⟩ := Option.map_eq_some_iff.mp apart
    rw [roleBy_self task] at h
    cases d₁ with
    | some y =>
      rw [roleBy_self (act.task_eq.1.trans task)]
      exact own x y rfl rfl task h
    | none =>
      show p (c₁.role t)
      obtain same | ⟨-, ended, -⟩ := act.role_own q
      · rwa [← task, same]
      · rwa [← task, ended]
  · obtain same | ⟨-, job, fits, call, -, started⟩ := act.roleBy_other apart
    · rwa [same]
    · rw [started]
      exact begun job fits (by rw [call]; rfl)

/-- A teardown goes on in the turn of the activity that takes the link down. -/
theorem Action.teardown_eq (act : Action hit c d c₁ d₁) (q : Queue c (turnOf d)) (t : Task) :
    (roleBy c₁ d₁ t).teardown = (roleBy c d t).teardown ∨
      ∃ x u, d = some x ∧ x.task = t ∧ d₁ = some (x.takeDown u) ∧ Takes c x c₁ u := by
  by_cases apart : turnOf d = some t
  · obtain ⟨x, rfl, task⟩ := Option.map_eq_some_iff.mp apart
    rw [roleBy_self task]
    cases d₁ with
    | some y =>
      rw [roleBy_self (act.task_eq.1.trans task)]
      obtain ⟨e, b, same⟩ | ⟨u, rfl, how⟩ | ⟨a, rfl, -⟩ := act.role_step
      · exact .inl (by rw [same])
      · exact .inr ⟨x, u, rfl, task, rfl, how⟩
      · exact .inl rfl
    | none =>
      left
      show (c₁.role t).teardown = _
      rw [← task]
      obtain same | ⟨done, ended, -⟩ := act.role_own q
      · rw [same]
      · rw [ended, done.teardown]
        rfl
  · left
    obtain same | ⟨-, job, -, -, before, after⟩ := act.roleBy_other apart
    · rw [same]
    · rw [before, after]
      rfl

theorem Held.teardown?_link {h : Held} {u : Teardown} (takes : h.teardown? = some u) :
    h.process = some u.link ∨ h.connection = some u.link := by
  unfold Held.teardown? at takes
  split at takes
  · next l connection =>
    obtain rfl := Option.some.inj takes
    exact .inr connection
  · next l _ process =>
    obtain rfl := Option.some.inj takes
    exact .inl process
  · cases takes

/-! ## What activities are told -/

/-- Why an activity is told something. -/
inductive Prompts (hit : Nat → Prop) (c : Client) (d : Option Doer) : Task → Signal → Prop
  | listener {l : Nat} {s : Signal} (why : WatcherPrompt (c.link l).listener s) :
    Prompts hit c d (.listener l) s
  | drain {l : Nat} {s : Signal} (why : WatcherPrompt (c.link l).drain s) : Prompts hit c d (.drain l) s
  | attempt {n : Nat} {a : Attempt} {s : Signal} (here : c.attempts[n]? = some a)
    (why : AttemptPrompt a s) : Prompts hit c d (.attempt n) s
  | call {n : Nat} {k : Call} {s : Signal} (here : c.calls[n]? = some k)
    (why : CallPrompt c k s) (outside : s = .cancelled → hit n) : Prompts hit c d (.call n) s
  | answer {l id : Nat} {t : Task} {o : Outcome} (pending : (id, t) ∈ (c.link l).pending)
    (heeds : c.heeds t) (good : o.isProper ∧ o ≠ .cancelled)
    (heard : Hears d l ∨ ∃ reason, o = .error (.ended reason)) : Prompts hit c d t (.answered o)

/-- An activity stands where it stood, or is told something, or begins. -/
def Stirs (hit : Nat → Prop) (c : Client) (d : Option Doer) (c₁ : Client) (t : Task) : Prop :=
  c₁.standing t = c.standing t ∨
    (∃ s, c₁.standing t = { c.standing t with told := some s } ∧ Prompts hit c d t s) ∨
    (c.standing t).live = false ∧ ∃ r, c₁.standing t = ⟨true, some .go, r⟩

theorem Stirs.prompt {b : Client} {o : Outcome} {id : Nat} (same : b.standing = c.standing)
    (heeds : b.heeds = c.heeds) (pending : (id, u) ∈ (c.link l).pending)
    (good : o.isProper ∧ o ≠ .cancelled) (heard : Hears d l ∨ ∃ reason, o = .error (.ended reason)) :
    Stirs hit c d (b.prompt u (.answered o)) t := by
  rw [Stirs, standing_prompt, same, heeds]
  split
  · next e =>
    obtain ⟨rfl, heeds⟩ := e
    exact .inr (.inl ⟨_, rfl, .answer pending heeds good heard⟩)
  · exact .inl rfl

theorem Action.stirs (act : Action hit c d c₁ d₁) (apart : turnOf d ≠ some t) : Stirs hit c d c₁ t := by
  have same (standing : c₁.standing t = c.standing t) : Stirs hit c d c₁ t := .inl standing
  have turn {x : Doer} {u : Task} (e : d = some x) (task : x.task = u) : t ≠ u := by
    rintro rfl
    exact apart (by rw [e, turnOf, Option.map_some, task])
  cases act with
  | @tellsListener d l s why shut =>
    rw [Stirs, standing_tellListener (lt_of_listener why.isPending)]
    split
    · next e =>
      subst e
      exact .inr (.inl ⟨s, rfl, .listener why⟩)
    · exact .inl rfl
  | @tellsDrain d l s why =>
    rw [Stirs, standing_tellDrain (lt_of_drain why.isPending)]
    split
    · next e =>
      subst e
      exact .inr (.inl ⟨s, rfl, .drain why⟩)
    · exact .inl rfl
  | @tellsAttempt d n a s here why =>
    rw [Stirs, standing_tellAttempt here]
    split
    · next e =>
      subst e
      exact .inr (.inl ⟨s, rfl, .attempt here why⟩)
    · exact .inl rfl
  | @tellsCall d n a s here why outside =>
    rw [Stirs, standing_tellCall here]
    split
    · next e =>
      subst e
      exact .inr (.inl ⟨s, rfl, .call here why fun h => (outside h).2⟩)
    · exact .inl rfl
  | @answers d l id u o idle hears pending untold reply =>
    exact .prompt (b := c.forget l id) (funext fun _ => standing_forget) rfl pending
      (isProper_of_isReply reply) (.inl hears)
  | @fails d l id u rest idle reason first =>
    have pending : (id, u) ∈ (c.link l).pending := by simp [first]
    exact .prompt (b := c.modifyLink l fun k => { k with pending := rest })
      (funext fun _ => standing_modifyLink (fun _ => rfl) fun _ => rfl) rfl pending ⟨rfl, (by simp)⟩
      (.inr ⟨reason, rfl⟩)
  | asks => exact same standing_register
  | flows | exits | mumbles | retracts | withdraws | drops | supersedes | renews | shuts
  | expectsEnd => exact same (standing_modifyLink (fun _ => rfl) fun _ => rfl)
  | @rests x l task done go runs reading =>
    refine same (standing_restListener.trans (if_neg fun h => ?_))
    exact turn rfl task h.1
  | @halts x l crash task clear same' why =>
    refine same (standing_haltListener.trans (if_neg fun h => ?_))
    exact turn rfl task h.1
  | @restarts x n l task listens here ceased =>
    rw [Stirs, standing_restartListener here]
    split
    · next e =>
      subst e
      exact .inr (.inr ⟨ceased, _, rfl⟩)
    · exact .inl rfl
  | @drains x n l task here absent =>
    rw [Stirs, standing_addDrain here]
    split
    · next e =>
      subst e
      refine .inr (.inr ⟨?_, _, rfl⟩)
      simp [standing, Watcher.standing, absent, WatcherPhase.isPending]
    · exact .inl rfl
  | @drainRests x l task done =>
    refine same (standing_setDrain.trans (if_neg fun h => ?_))
    exact turn rfl task h.1
  | @drainEnds x l task =>
    refine same (standing_setDrain.trans (if_neg fun h => ?_))
    exact turn rfl task h.1
  | takes how =>
    rw [how.frame]
    exact .inl rfl
  | @connects x n task done starts cold ps p =>
    rw [Stirs, standing_addLink]
    split
    · next e =>
      refine .inr (.inr ⟨?_, _, rfl⟩)
      rw [e.1, standing, link_of_le (Nat.le_refl _)]
      rfl
    · exact .inl rfl
  | @shares x sends cold ceased =>
    rw [Stirs, standing_addAttempt]
    split
    · next e =>
      refine .inr (.inr ⟨?_, _, rfl⟩)
      simp [e, standing, Standing.absent]
    · exact .inl rfl
  | @parksAttempt x n p task role left waits ends =>
    refine same (standing_putAttempt.trans (if_neg fun h => ?_))
    exact turn rfl task h.1
  | @endsAttempt x n o task done =>
    refine same (standing_settleAttempt.trans (if_neg fun h => ?_))
    exact turn rfl task h.1
  | @succeeds x n l k id j task done starts asked agreed used up =>
    refine same (standing_settleAttempt.trans (if_neg fun h => ?_))
    exact turn rfl task h.1
  | @parksCall x n p task role left waits ends stops go joins =>
    refine same (standing_putCall.trans (if_neg fun h => ?_))
    exact turn rfl task h.1
  | @endsCall x n o task done reset proper =>
    refine same (standing_putCall.trans (if_neg fun h => ?_))
    exact turn rfl task h.1
  | calls job fits =>
    rw [Stirs, standing_addCall]
    split
    · next e =>
      refine .inr (.inr ⟨?_, _, rfl⟩)
      simp [e, standing, Standing.absent]
    · exact .inl rfl
  | _ => exact .inl rfl

/-- Whoever has or had its turn was told nothing since. -/
theorem Action.told_own (act : Action hit c (some x) c₁ d₁) (q : Queue c (some x.task)) :
    c₁.told x.task = none := by
  have after := act.queue (d := some x) q
  cases d₁ with
  | some y => exact (after.apart x.task (congrArg some act.task_eq.1)).2.2.2
  | none =>
    obtain ⟨-, here, -, untold⟩ := q.apart _ rfl
    cases act with
    | rests task => rw [told, standing_restListener, if_pos ⟨task, here⟩]
    | drainRests task => rw [told, standing_setDrain, if_pos ⟨task, here⟩]
    | parksAttempt task =>
      rw [told, standing_putAttempt, if_pos ⟨task, here⟩]
      rfl
    | endsAttempt task => rw [told, standing_settleAttempt, if_pos ⟨task, here⟩]
    | succeeds task => rw [told, standing_settleAttempt, if_pos ⟨task, here⟩]
    | parksCall task =>
      rw [told, standing_putCall, if_pos ⟨task, here⟩]
      rfl
    | endsCall task =>
      rw [told, standing_putCall, if_pos ⟨task, here⟩]
      rfl
    | leaves => exact untold

/-- Who was told something goes on to be told something until it has its turn. -/
theorem Action.told_isSome (act : Action hit c d c₁ d₁)
    (apart : turnOf d ≠ some t) (told : (c.told t).isSome) : (c₁.told t).isSome := by
  obtain same | ⟨s, same, -⟩ | ⟨-, r, same⟩ := act.stirs apart
  · rwa [Client.told, same]
  · rw [Client.told, same]
    rfl
  · rw [Client.told, same]
    rfl

/-- A listener that is cancelled remains so until it has its turn. -/
theorem Action.told_cancelled (act : Action hit c d c₁ d₁) (q : Queue c (turnOf d))
    (apart : turnOf d ≠ some (.listener l)) (told : c.told (.listener l) = some .cancelled) :
    c₁.told (.listener l) = some .cancelled := by
  obtain same | ⟨s, same, why⟩ | ⟨dead, -⟩ := act.stirs apart
  · rwa [Client.told, same]
  · rw [Client.told, same]
    have signal : (c.link l).listener.signal = some .cancelled := told
    cases why with
    | listener why =>
      generalize (c.link l).listener = w at why signal
      cases why with
      | arrival => cases signal
      | cancelled pending => rfl
    | answer pending heeds => cases heeds
  · have live := q.live (t := .listener l) (by rw [told]; rfl)
    rw [dead] at live
    cases live

/-- A call that does not have its turn, or goes on with it, is where it was. -/
theorem Action.call_phase (act : Action hit c d c₁ d₁) {k : Call} (here : c.calls[n]? = some k)
    (stays : turnOf d ≠ some (.call n) ∨ d₁ ≠ none) : ∃ s, c₁.calls[n]? = some ⟨k.phase, s⟩ := by
  have prompted (u : Task) (s : Signal) {c' : Client} (same : c'.calls = c.calls) :
      ∃ s', (c'.prompt u s).calls[n]? = some ⟨k.phase, s'⟩ := by
    cases u with
    | call m =>
      simp only [prompt, same, List.getElem?_modify, here]
      by_cases e : m = n
      · refine ⟨(k.prompt s).signal, ?_⟩
        simp only [e, if_true]
        exact congrArg (fun p => some (Call.mk p _)) k.phase_prompt
      · exact ⟨k.signal, by simp [e]⟩
    | _ => exact ⟨k.signal, by simp [prompt, same, here]⟩
  have apart {x : Doer} {m : Nat} (e : d = some x) (e₁ : d₁ = none) (task : x.task = .call m) :
      n ≠ m := by
    rintro rfl
    obtain apart | goes := stays
    · exact apart (by rw [e, turnOf, Option.map_some, task])
    · exact goes e₁
  cases act with
  | @tellsCall d m q s there why =>
    by_cases e : m = n
    · subst e
      obtain rfl := Option.some.inj (there.symm.trans here)
      exact ⟨some s, by simp [tellCall, summon, putCall, (List.getElem?_eq_some_iff.mp here).1]⟩
    · exact ⟨k.signal, by simp [tellCall, summon, putCall, List.getElem?_set_ne e, here]⟩
  | answers => exact prompted _ _ rfl
  | fails => exact prompted _ _ rfl
  | takes how =>
    rw [how.frame]
    exact ⟨k.signal, here⟩
  | parksCall task =>
    exact ⟨k.signal, (List.getElem?_set_ne (Ne.symm (apart rfl rfl task))).trans here⟩
  | endsCall task =>
    exact ⟨k.signal, (List.getElem?_set_ne (Ne.symm (apart rfl rfl task))).trans here⟩
  | calls job =>
    refine ⟨k.signal, ?_⟩
    rw [addCall, push, List.getElem?_append_left (List.getElem?_eq_some_iff.mp here).1]
    exact here
  | _ => exact ⟨k.signal, here⟩

theorem callOutcome_eq_some {o : Outcome} :
    c.callOutcome? n = some o ↔ ∃ s, c.calls[n]? = some ⟨.done o, s⟩ := by
  unfold callOutcome?
  split
  · next p s h => simp [h]
  · next h => exact ⟨nofun, fun ⟨s, e⟩ => absurd e (h o s)⟩

theorem Action.callOutcome {o : Outcome} (act : Action hit c d c₁ d₁) (apart : turnOf d ≠ some (.call n))
    (h : c.callOutcome? n = some o) : c₁.callOutcome? n = some o := by
  obtain ⟨s, here⟩ := callOutcome_eq_some.mp h
  exact callOutcome_eq_some.mpr (act.call_phase here (.inl apart))

theorem Call.eq_prompt (k : Call) : k.prompt s = k ∨ k.prompt s = ⟨k.phase, some s⟩ := by
  unfold Call.prompt
  split
  · exact .inr rfl
  · exact .inl rfl

/-- Where a call is after an action: where it was, told something or not, or where its turn
left it, or at its beginning. -/
theorem Action.call_cases (act : Action hit c d c₁ d₁) {k : Call} (after : c₁.calls[n]? = some k) :
    (∃ s, c.calls[n]? = some ⟨k.phase, s⟩ ∧ (k.signal = s ∨ k.signal.isSome)) ∨
      (∃ x, d = some x ∧ d₁ = none ∧ x.task = .call n ∧ k.signal = none ∧
        (k.phase.isWaiting ∨ ∃ o, k.phase = .done o) ∧ ∀ a sends, k.phase = .joined a sends →
          c.state ≠ .ready ∧ c.attempt = some a ∧ c.attemptOutcome? a = none) ∨
      ∃ job, n = c.calls.length ∧ k = ⟨.fresh job, some .go⟩ := by
  have same (h : c.calls[n]? = some k) :
      ∃ s, c.calls[n]? = some ⟨k.phase, s⟩ ∧ (k.signal = s ∨ k.signal.isSome) :=
    ⟨k.signal, h, .inl rfl⟩
  have prompted (u : Task) (s : Signal) {c' : Client} (calls : c'.calls = c.calls)
      (after : (c'.prompt u s).calls[n]? = some k) :
      ∃ s, c.calls[n]? = some ⟨k.phase, s⟩ ∧ (k.signal = s ∨ k.signal.isSome) := by
    cases u with
    | call m =>
      simp only [prompt, calls, List.getElem?_modify] at after
      obtain ⟨j, here, e⟩ := Option.map_eq_some_iff.mp after
      split at e
      · obtain e' | e' := j.eq_prompt (s := s)
        · exact ⟨j.signal, by rw [here, ← e, e'], .inl (by rw [← e, e'])⟩
        · exact ⟨j.signal, by rw [here, ← e, e'], .inr (by rw [← e, e']; rfl)⟩
      · exact ⟨j.signal, by rw [here, ← e], .inl (by rw [← e])⟩
    | _ => exact same (by simpa [prompt, calls] using after)
  cases act with
  | @tellsCall d m q s there why =>
    simp only [tellCall, summon, putCall, List.getElem?_set] at after
    split at after
    · next e =>
      subst e
      split at after
      · obtain rfl := Option.some.inj after
        exact .inl ⟨q.signal, there, .inr rfl⟩
      · cases after
    · exact .inl (same after)
  | answers => exact .inl (prompted _ _ rfl after)
  | fails => exact .inl (prompted _ _ rfl after)
  | takes how =>
    rw [how.frame] at after
    exact .inl (same after)
  | parksCall task role left waits ends stops go joins =>
    simp only [putCall, List.getElem?_set] at after
    split at after
    · next e =>
      split at after
      · obtain rfl := Option.some.inj after
        exact .inr (.inl ⟨_, rfl, rfl, e ▸ task, rfl, .inl waits, joins⟩)
      · cases after
    · exact .inl (same after)
  | endsCall task =>
    simp only [putCall, List.getElem?_set] at after
    split at after
    · next e =>
      split at after
      · obtain rfl := Option.some.inj after
        exact .inr (.inl ⟨_, rfl, rfl, e ▸ task, rfl, .inr ⟨_, rfl⟩, (by simp)⟩)
      · cases after
    · exact .inl (same after)
  | calls job =>
    rcases Nat.lt_trichotomy n c.calls.length with h | rfl | h
    · rw [addCall, push, List.getElem?_append_left h] at after
      exact .inl (same after)
    · refine .inr (.inr ⟨job, rfl, ?_⟩)
      simpa [addCall, push] using after.symm
    · rw [addCall, push, List.getElem?_eq_none (by simpa using Nat.succ_le_of_lt h)] at after
      cases after
  | _ => exact .inl (same after)

/-- What a call was told it had been told, or it is told now as it waits. -/
theorem Action.call_told {p : CallPhase} (act : Action hit c d c₁ d₁) (q : Queue c (turnOf d))
    (live : p.isLive) (begun : ∀ job, p ≠ .fresh job) (after : c₁.calls[n]? = some ⟨p, some s⟩) :
    c.calls[n]? = some ⟨p, some s⟩ ∨ turnOf d ≠ some (.call n) ∧ Prompts hit c d (.call n) s ∧
      ∃ s', c.calls[n]? = some ⟨p, s'⟩ := by
  have told : c₁.told (.call n) = some s := by simp [Client.told, standing, after, Call.standing]
  by_cases own : turnOf d = some (.call n)
  · obtain ⟨x, rfl, task⟩ := Option.map_eq_some_iff.mp own
    rw [← task, act.told_own q] at told
    cases told
  · obtain ⟨s', before, -⟩ | ⟨x, rfl, -, task, -⟩ | ⟨job, -, e⟩ := act.call_cases after
    · obtain same | ⟨s₁, same, why⟩ | ⟨dead, -⟩ := act.stirs own
      · rw [Client.told, same] at told
        obtain rfl : s' = some s := by simpa [standing, before, Call.standing] using told
        exact .inl before
      · rw [Client.told, same] at told
        obtain rfl : s₁ = s := Option.some.inj told
        exact .inr ⟨own, why, s', before⟩
      · simp [standing, before, Call.standing, live] at dead
    · exact absurd (congrArg some task) own
    · exact absurd (congrArg Call.phase e) (begun job)

/-- Who begins a turn is told nothing, and nobody else is. -/
theorem Begins.call_told {rest : List Task} {p : CallPhase} (begins : Begins c rest c₁ d)
    (after : c₁.calls[n]? = some ⟨p, some s⟩) : c.calls[n]? = some ⟨p, some s⟩ := by
  cases begins with
  | @call m p' s' ready before live =>
    by_cases same : m = n
    · subst same
      rw [putCall, List.getElem?_set_self (List.getElem?_eq_some_iff.mp before).1] at after
      cases after
    · rwa [putCall, List.getElem?_set_ne same] at after
  | _ => exact after

theorem Attempt.eq_prompt (a : Attempt) : a.prompt s = a ∨ a.prompt s = ⟨a.phase, some s⟩ := by
  unfold Attempt.prompt
  split
  · exact .inr rfl
  · exact .inl rfl

/-- Where an attempt is after an action: where it was, told something or not, or where its turn
left it, or at its beginning. -/
theorem Action.attempt_cases (act : Action hit c d c₁ d₁) {a : Attempt}
    (after : c₁.attempts[n]? = some a) :
    (∃ s, c.attempts[n]? = some ⟨a.phase, s⟩ ∧ (a.signal = s ∨ a.signal.isSome)) ∨
      (∃ x, d = some x ∧ d₁ = none ∧ x.task = .attempt n ∧ a.signal = none ∧
        (a.phase.isWaiting ∧ a.phase.role = x.role ∧
            (∀ t o, a.phase = .failing t o → o.isFailure) ∨
          ∃ o, a.phase = .done o ∧ (o.isFailure ∨ o = .done))) ∨
      n = c.attempts.length ∧ a = ⟨.fresh, some .go⟩ := by
  have same (h : c.attempts[n]? = some a) :
      ∃ s, c.attempts[n]? = some ⟨a.phase, s⟩ ∧ (a.signal = s ∨ a.signal.isSome) :=
    ⟨a.signal, h, .inl rfl⟩
  have prompted (u : Task) (s : Signal) {c' : Client} (attempts : c'.attempts = c.attempts)
      (after : (c'.prompt u s).attempts[n]? = some a) :
      ∃ s, c.attempts[n]? = some ⟨a.phase, s⟩ ∧ (a.signal = s ∨ a.signal.isSome) := by
    cases u with
    | attempt m =>
      simp only [prompt, attempts, List.getElem?_modify] at after
      obtain ⟨b, here, e⟩ := Option.map_eq_some_iff.mp after
      split at e
      · obtain e' | e' := b.eq_prompt (s := s)
        · exact ⟨b.signal, by rw [here, ← e, e'], .inl (by rw [← e, e'])⟩
        · exact ⟨b.signal, by rw [here, ← e, e'], .inr (by rw [← e, e']; rfl)⟩
      · exact ⟨b.signal, by rw [here, ← e], .inl (by rw [← e])⟩
    | _ => exact same (by simpa [prompt, attempts] using after)
  -- An attempt is written where it stands.
  have put {m : Nat} {b : Attempt} (after : (c.putAttempt m b).attempts[n]? = some a) :
      c.attempts[n]? = some a ∨ m = n ∧ a = b := by
    simp only [putAttempt, List.getElem?_set] at after
    split at after
    · next e =>
      split at after
      · exact .inr ⟨e, (Option.some.inj after).symm⟩
      · cases after
    · exact .inl after
  cases act with
  | @tellsAttempt d m b s there why =>
    obtain here | ⟨rfl, rfl⟩ := put after
    · exact .inl (same here)
    · exact .inl ⟨b.signal, there, .inr rfl⟩
  | answers => exact .inl (prompted _ _ rfl after)
  | fails => exact .inl (prompted _ _ rfl after)
  | takes how =>
    rw [how.frame] at after
    exact .inl (same after)
  | parksAttempt task role left waits ends failed =>
    obtain here | ⟨rfl, rfl⟩ := put after
    · exact .inl (same here)
    · exact .inr (.inl ⟨_, rfl, rfl, task, rfl, .inl ⟨waits, role, failed⟩⟩)
  | endsAttempt task done failed =>
    obtain here | ⟨rfl, rfl⟩ := put after
    · exact .inl (same here)
    · exact .inr (.inl ⟨_, rfl, rfl, task, rfl, .inr ⟨_, rfl, .inl failed⟩⟩)
  | succeeds task =>
    obtain here | ⟨rfl, rfl⟩ := put after
    · exact .inl (same here)
    · exact .inr (.inl ⟨_, rfl, rfl, task, rfl, .inr ⟨_, rfl, .inr rfl⟩⟩)
  | shares =>
    rcases Nat.lt_trichotomy n c.attempts.length with h | rfl | h
    · rw [addAttempt, push, List.getElem?_append_left h] at after
      exact .inl (same after)
    · refine .inr (.inr ⟨rfl, ?_⟩)
      simpa [addAttempt, push] using after.symm
    · rw [addAttempt, push, List.getElem?_eq_none (by simpa using Nat.succ_le_of_lt h)] at after
      cases after
  | _ => exact .inl (same after)

/-- Attempts that do not succeed fail or are cancelled. -/
def Concluding (c : Client) : Prop :=
  ∀ (n : Nat) (a : Attempt), c.attempts[n]? = some a →
    (∀ t o, a.phase = .failing t o → o.isFailure) ∧
      ∀ o, a.phase = .done o → o.isFailure ∨ o = .done

theorem Action.concluding (act : Action hit c d c₁ d₁) (h : Concluding c) : Concluding c₁ := by
  intro n a after
  obtain ⟨s, before, -⟩ | ⟨x, -, -, -, -, parked⟩ | ⟨-, rfl⟩ := act.attempt_cases after
  · exact h n ⟨a.phase, s⟩ before
  · obtain ⟨waits, -, failed⟩ | ⟨o, ended, good⟩ := parked
    · refine ⟨failed, fun o ended => ?_⟩
      rw [ended] at waits
      cases waits
    · rw [ended]
      exact ⟨nofun, fun o' e => AttemptPhase.done.inj e ▸ good⟩
  · exact ⟨nofun, nofun⟩

/-! ## Bounds -/

/-- The links that are in use or taken down exist, calls have the errands of their
jobs, and only the listener of a closed connection is cancelled. -/
structure Bounds (c : Client) (d : Option Doer) : Prop where
  holds : c.HoldsLinks
  takes : ∀ t u, (roleBy c d t).teardown = some u → u.link < c.links.length
  calls : ∀ t, (roleBy c d t).errand ≠ .none → t.isCall
  observes : ∀ t, (roleBy c d t).errand = .listens ∨ (roleBy c d t).errand = .closes →
    c.audience ≠ .client
  owns : ∀ t, (roleBy c d t).errand = .disposes → c.audience = .client
  disposes : ∀ t, (roleBy c d t).disposes → (roleBy c d t).errand = .disposes
  links : c.audience ≠ .client → 0 < c.links.length
  shut : ∀ l, (c.link l).listener.signal = some .cancelled → (c.link l).closed
  /-- The connection was closed before the end of its listener is waited for. -/
  closing : ∀ t u, turnOf d ≠ some t → (roleBy c d t).teardown = some u → u.stage = .listener →
    (c.link u.link).closed

theorem Bounds.heldLink_lt (h : Bounds c d) (observed : c.audience ≠ .client) :
    c.heldLink < c.links.length := by
  unfold heldLink
  cases used : c.held.connection with
  | none => exact h.links observed
  | some l => exact h.holds l (.inr used)

theorem link_of_links (links : c₁.links = c.links) : c₁.link k = c.link k := by
  rw [link, links, link]

theorem link_of_modify {f : Link → Link} (links : c₁.links = c.links.modify l f) :
    c₁.link k = if l = k ∧ k < c.links.length then f (c.link k) else c.link k := by
  have same : c₁.link k = (c.modifyLink l f).link k := link_of_links links
  rw [same, link_modifyLink]

/-- What holds of all links goes on to hold if it does of the one that changes. -/
theorem forall_link {p : Link → Prop} {f : Link → Link} (h : ∀ k, p (c.link k))
    (links : c₁.links = c.links.modify l f) (changed : p (c.link l) → p (f (c.link l))) (k : Nat) :
    p (c₁.link k) := by
  rw [link_of_modify links]
  split
  · next e =>
    obtain ⟨rfl, -⟩ := e
    exact changed (h l)
  · exact h k

/-- Every link is related to what it was if the one that changes is. -/
theorem rel_link {r : Link → Link → Prop} {f : Link → Link} (refl : ∀ k, r k k)
    (links : c₁.links = c.links.modify l f) (changed : r (c.link l) (f (c.link l))) (k : Nat) :
    r (c.link k) (c₁.link k) := by
  rw [link_of_modify links]
  split
  · next e =>
    obtain ⟨rfl, -⟩ := e
    exact changed
  · exact refl _

theorem Action.shut (act : Action hit c d c₁ d₁)
    (h : ∀ l, (c.link l).listener.signal = some .cancelled → (c.link l).closed) :
    ∀ l, (c₁.link l).listener.signal = some .cancelled → (c₁.link l).closed := by
  let p (k : Link) : Prop := k.listener.signal = some .cancelled → k.closed
  cases act with
  | tellsListener why shut =>
    exact forall_link (p := p) h rfl fun _ told => shut (Option.some.inj told)
  | connects task done starts cold ps policy =>
    intro k
    rw [link_addLink]
    split
    · cases policy.hasInput <;> nofun
    · exact h k
  | takes how =>
    rw [how.frame]
    exact h
  | shuts => exact forall_link (p := p) h rfl fun _ _ => rfl
  | rests | halts | restarts => exact forall_link (p := p) h rfl nofun
  | flows | exits | tellsDrain | asks | mumbles | retracts | withdraws | answers | drops | fails
  | supersedes | renews | drains | drainRests | drainEnds | expectsEnd =>
    exact forall_link (p := p) h rfl fun h => h
  | _ => exact h

/-- Who comes to wait for the end of a listener or of a drain has cancelled it. -/
theorem Action.parks {u : Teardown} (act : Action hit c (some x) c₁ none) (q : Queue c (some x.task))
    (takes : (c₁.role x.task).teardown = some u) : c₁.Ends u := by
  have here := (q.apart _ rfl).2.1
  cases act with
  | rests task | drainRests task =>
    rw [task] at takes
    cases takes
  | @parksAttempt x n p task role left waits ends =>
    rw [Client.role, standing_putAttempt, if_pos ⟨task, here⟩] at takes
    obtain ⟨listener, drain⟩ := ends u ((AttemptPhase.teardown_role p).symm.trans takes)
    exact ⟨listener, drain⟩
  | @parksCall x n p task role left waits ends =>
    rw [Client.role, standing_putCall, if_pos ⟨task, here⟩] at takes
    obtain ⟨listener, drain⟩ := ends u ((CallPhase.teardown_role p).symm.trans takes)
    exact ⟨listener, drain⟩
  | endsAttempt task | succeeds task =>
    rw [role, standing_settleAttempt, if_pos ⟨task, here⟩] at takes
    cases takes
  | endsCall task =>
    rw [role, standing_putCall, if_pos ⟨task, here⟩] at takes
    cases takes
  | leaves done told ceased =>
    obtain ⟨l, task, -⟩ | ⟨l, task, -⟩ := ceased
    · rw [task] at takes
      cases takes
    · rw [task] at takes
      cases takes

/-- A connection that was closed stays closed. -/
theorem Action.closed_mono (act : Action hit c d c₁ d₁) (closed : (c.link l).closed) :
    (c₁.link l).closed := by
  let r (k j : Link) : Prop := k.closed → j.closed
  have refl k : r k k := fun h => h
  suffices h : ∀ l, r (c.link l) (c₁.link l) from h l closed
  cases act with
  | connects task done starts cold ps policy =>
    intro k
    rw [link_addLink]
    split
    · next new =>
      intro closed
      rw [link_of_le (Nat.le_of_eq new.symm)] at closed
      cases closed
    · exact refl _
  | takes how =>
    rw [how.frame]
    exact fun _ => refl _
  | shuts => exact rel_link (r := r) refl rfl fun _ => rfl
  | flows | exits | tellsListener | tellsDrain | asks | mumbles | retracts | withdraws | answers
  | drops | fails | rests | halts | restarts | supersedes | renews | drains | drainRests | drainEnds
  | expectsEnd =>
    exact rel_link (r := r) refl rfl fun h => h
  | _ => exact fun _ => refl _

theorem Action.bounds (act : Action hit c d c₁ d₁) (q : Queue c (turnOf d)) (h : Bounds c d) :
    Bounds c₁ d₁ := by
  refine ⟨act.holdsLinks h.holds, fun t => ?_, fun t => ?_, fun t => ?_, fun t => ?_, fun t => ?_,
    fun out => ?_, act.shut h.shut, fun t u apart takes first => ?_⟩
  · refine act.forall_role (p := fun r => ∀ u, r.teardown = some u → u.link < c₁.links.length) q
      (fun u takes => Nat.lt_of_lt_of_le (h.takes t u takes) act.links_le) ?_ nofun fun _ _ _ => nofun
    rintro x y rfl rfl task before u takes
    obtain ⟨e, b, same⟩ | ⟨v, rfl, how⟩ | ⟨a, rfl, -⟩ := act.role_step
    · exact before u (by rwa [same] at takes)
    · refine Nat.lt_of_lt_of_le ?_ act.links_le
      cases how with
      | releases idle who => exact h.holds _ (Held.teardown?_link takes)
      | closes idle errand =>
        obtain rfl := Option.some.inj takes
        exact h.heldLink_lt (h.observes t (.inr (by rw [roleBy_self task, errand])))
      | advances taken same off on late =>
        obtain rfl := Option.some.inj takes
        rw [same]
        exact h.takes t _ (by rw [roleBy_self task, taken])
      | settles => cases takes
      | abandons => cases takes
    · exact before u takes
  · refine act.forall_role (p := fun r => r.errand ≠ .none → t.isCall) q (h.calls t) ?_ ?_ ?_
    · rintro x y rfl rfl - before
      rw [act.task_eq.2.2.2]
      exact before
    · exact fun e => absurd rfl e
    · exact fun _ _ call _ => call
  · refine act.forall_role (p := fun r => r.errand = .listens ∨ r.errand = .closes →
      c₁.audience ≠ .client) q ?_ ?_ ?_ ?_
    · rw [act.audience_eq]
      exact h.observes t
    · rintro x y rfl rfl - before
      rw [act.task_eq.2.2.2]
      exact before
    · rintro (⟨⟨⟩⟩ | ⟨⟨⟩⟩)
    · rw [act.audience_eq]
      rintro job fits -
      cases job <;> first | exact fun _ => fits | rintro (⟨⟨⟩⟩ | ⟨⟨⟩⟩)
  · refine act.forall_role (p := fun r => r.errand = .disposes → c₁.audience = .client) q ?_ ?_ nofun ?_
    · rw [act.audience_eq]
      exact h.owns t
    · rintro x y rfl rfl - before
      rw [act.task_eq.2.2.2]
      exact before
    · rw [act.audience_eq]
      rintro job fits -
      cases job <;> first | exact fun _ => fits | nofun
  · refine act.forall_role (p := fun r => r.disposes → r.errand = .disposes) q (h.disposes t)
      ?_ nofun fun _ _ _ => nofun
    rintro x y rfl rfl - before disposes
    rw [act.task_eq.2.2.2]
    obtain ⟨e, b, same⟩ | ⟨v, rfl, how⟩ | ⟨a, rfl, errand, -⟩ := act.role_step
    · exact before (by rwa [same] at disposes)
    · exact before disposes
    · exact errand
  · rw [act.audience_eq] at out
    exact Nat.lt_of_lt_of_le (h.links out) act.links_le
  · by_cases own : turnOf d = some t
    · obtain ⟨x, rfl, rfl⟩ := Option.map_eq_some_iff.mp own
      cases d₁ with
      | some y => exact absurd (congrArg some act.task_eq.1) apart
      | none => exact act.shut h.shut u.link ((act.parks q takes).listener first)
    · obtain same | ⟨-, job, -, -, -, begun⟩ := act.roleBy_other own
      · exact act.closed_mono (h.closing t u own (same ▸ takes) first)
      · rw [begun] at takes
        cases takes

/-! ## The start of a turn -/

theorem Begins.first {rest : List Task} (begins : Begins c rest c₁ (some x)) :
    c.ready = x.task :: rest := by
  cases begins <;> assumption

/-- Whose turn begins was told something, and has the same under way, except that it waits
for no answer and for no end of an attempt. -/
theorem Begins.turn {rest : List Task} (begins : Begins c rest c₁ (some x)) :
    c.told x.task = some x.signal ∧ x.began = c.role x.task ∧
      x.role = { c.role x.task with expects := none, stopping := none } ∧
      ∀ t, t ≠ x.task → c₁.standing t = c.standing t := by
  cases begins with
  | @listener l s p ready here pending =>
    refine ⟨?_, rfl, rfl, fun t other => ?_⟩
    · exact congrArg Watcher.signal here
    · rw [setListener, standing_modifyListener, if_neg fun h => other h.1]
      · rfl
      · exact fun _ => rfl
  | @drain l s p ready here pending =>
    refine ⟨?_, rfl, rfl, fun t other => ?_⟩
    · exact congrArg Watcher.signal here
    · rw [standing_setDrain, if_neg fun h => other h.1]
      rfl
  | @attempt n p s ready here live =>
    have stands : c.standing (.attempt n) = ⟨p.isLive, some s, p.role⟩ := by
      simp [standing, here, Attempt.standing]
    have role : p.role = c.role (.attempt n) := by rw [Client.role, stands]
    refine ⟨by rw [told]; exact congrArg Standing.told stands, role, ?_, fun t other => ?_⟩
    · exact congrArg (fun r : Role => { r with expects := none, stopping := none }) role
    · rw [standing_putAttempt, if_neg fun h => other h.1]
      rfl
  | @call n p s ready here live =>
    have stands : c.standing (.call n) = ⟨p.isLive, some s, p.role⟩ := by
      simp [standing, here, Call.standing]
    have role : p.role = c.role (.call n) := by rw [Client.role, stands]
    refine ⟨by rw [told]; exact congrArg Standing.told stands, role, ?_, fun t other => ?_⟩
    · exact congrArg (fun r : Role => { r with expects := none, stopping := none }) role
    · rw [standing_putCall, if_neg fun h => other h.1]
      rfl

theorem Begins.role {rest : List Task} (begins : Begins c rest c₁ d) (t : Task) :
    roleBy c₁ d t = c.role t ∨
      turnOf d = some t ∧ roleBy c₁ d t = { c.role t with expects := none, stopping := none } := by
  cases d with
  | none =>
    cases begins
    exact .inl rfl
  | some x =>
    obtain ⟨-, -, role, other⟩ := begins.turn
    by_cases e : x.task = t
    · subst e
      exact .inr ⟨rfl, (roleBy_self rfl).trans role⟩
    · left
      rw [roleBy_some, if_neg e, Client.role, other t (Ne.symm e), Client.role]

/-- Nothing is different for the links of a client when a turn begins, except that the
listener or the drain whose turn it is comes to run. -/
theorem Begins.frame {rest : List Task} (begins : Begins c rest c₁ d) :
    c₁.held = c.held ∧ c₁.audience = c.audience ∧ c₁.state = c.state ∧ c₁.history = c.history ∧
      c₁.links.length = c.links.length := by
  cases begins with
  | listener => exact ⟨rfl, rfl, rfl, rfl, links_length_modifyLink _⟩
  | drain => exact ⟨rfl, rfl, rfl, rfl, links_length_modifyLink _⟩
  | _ => exact ⟨rfl, rfl, rfl, rfl, rfl⟩

theorem Begins.bounds {rest : List Task} (begins : Begins c rest c₁ d) (h : Bounds c none) :
    Bounds c₁ d := by
  obtain ⟨held, audience, -, -, links⟩ := begins.frame
  refine ⟨h.holds.mono (by rw [held]) (by rw [held]) (Nat.le_of_eq links.symm), fun t u takes => ?_,
    fun t e => ?_, fun t e => ?_, fun t e => ?_, fun t e => ?_, fun out => ?_, ?_,
    fun t u apart takes first => ?_⟩
  · rw [links]
    refine h.takes t u ?_
    obtain same | ⟨-, same⟩ := begins.role t <;> rwa [same] at takes
  · refine h.calls t ?_
    obtain same | ⟨-, same⟩ := begins.role t <;> rwa [same] at e
  · rw [audience]
    refine h.observes t ?_
    obtain same | ⟨-, same⟩ := begins.role t <;> rwa [same] at e
  · rw [audience]
    refine h.owns t ?_
    obtain same | ⟨-, same⟩ := begins.role t <;> rwa [same] at e
  · obtain same | ⟨-, same⟩ := begins.role t
    · rw [same] at e ⊢
      exact h.disposes t e
    · rw [same] at e ⊢
      exact h.disposes t e
  · rw [links]
    exact h.links (audience ▸ out)
  · let p (k : Link) : Prop := k.listener.signal = some .cancelled → k.closed
    cases begins with
    | listener => exact forall_link (p := p) h.shut rfl nofun
    | drain => exact forall_link (p := p) h.shut rfl fun h => h
    | _ => exact h.shut
  · have before : (c.link u.link).closed := by
      obtain same | ⟨own, -⟩ := begins.role t
      · rw [same] at takes
        exact h.closing t u nofun takes first
      · exact absurd own apart
    cases begins with
    | listener | drain =>
      exact rel_link (r := fun k j => k.closed → j.closed) (fun _ h => h) rfl (fun h => h) u.link before
    | _ => exact before

theorem Begins.concluding {rest : List Task} (begins : Begins c rest c₁ d) (h : Concluding c) :
    Concluding c₁ := by
  cases begins with
  | @attempt m p s ready here live =>
    intro n a after
    simp only [putAttempt, List.getElem?_set] at after
    split at after
    · split at after
      · obtain rfl := Option.some.inj after
        exact ⟨by simp, by simp⟩
      · cases after
    · exact h n a after
  | _ => exact h

/-! ## Agreement to a shutdown -/

/-- A disposal that is told a value waits for the answer to its shutdown request. -/
def Agreed (c : Client) (d : Option Doer) : Prop :=
  ∀ t j, c.told t = some (.answered (.value j)) → (roleBy c d t).disposes →
    (roleBy c d t).expects ≠ none

theorem Agreed.congr (h : Agreed c d) (told : ∀ t, c₁.told t = c.told t)
    (role : ∀ t, roleBy c₁ d t = roleBy c d t) : Agreed c₁ d := by
  intro t j answer disposes
  rw [told] at answer
  rw [role] at disposes ⊢
  exact h t j answer disposes

theorem Prompts.agreed {lost : List Loss} {j : Json} (why : Prompts hit c d t (.answered (.value j)))
    (requests : Requests c d lost) (apart : turnOf d ≠ some t) (disposes : (c.role t).disposes) :
    (c.role t).expects ≠ none := by
  cases why with
  | listener why => exact absurd rfl (why.ne_answered _)
  | drain why => exact absurd rfl (why.ne_answered _)
  | attempt here why => exact absurd rfl (why.ne_answered _)
  | call here why =>
    cases why with
    | relayed ended =>
      simp [role, standing, here, Call.standing, CallPhase.role, Role.begun, Role.idle] at disposes
  | @answer l id _ _ pending heeds good =>
    rw [← claim_ne apart, requests.pending l id t pending]
    simp

theorem Action.agreed {lost : List Loss} (act : Action hit c d c₁ d₁) (q : Queue c (turnOf d))
    (requests : Requests c d lost) (h : Agreed c d) : Agreed c₁ d₁ := by
  intro t j told disposes
  by_cases apart : turnOf d = some t
  · obtain ⟨x, rfl, rfl⟩ := Option.map_eq_some_iff.mp apart
    rw [act.told_own q] at told
    cases told
  · have before := h t j
    rw [roleBy_ne apart] at before
    rw [roleBy_ne (act.apart apart)] at disposes ⊢
    obtain same | ⟨s, same, why⟩ | ⟨-, r, same⟩ := act.stirs apart
    · simp only [role, Client.told, same] at told disposes before ⊢
      exact before told disposes
    · simp only [role, Client.told, same] at told disposes ⊢
      obtain rfl := Option.some.inj told
      exact why.agreed requests apart disposes
    · rw [Client.told, same] at told
      cases told

theorem Begins.agreed {rest : List Task} (begins : Begins c rest c₁ d) (q : Queue c none)
    (h : Agreed c none) : Agreed c₁ d := by
  cases d with
  | none =>
    cases begins
    exact h
  | some x =>
    intro t j told disposes
    by_cases e : t = x.task
    · rw [((begins.queue q).apart t (congrArg some e.symm)).2.2.2] at told
      cases told
    · have apart : turnOf (some x) ≠ some t := fun h => e (Option.some.inj h).symm
      rw [roleBy_ne apart] at disposes ⊢
      rw [Client.told, begins.turn.2.2.2 t e] at told
      rw [Client.role, begins.turn.2.2.2 t e] at disposes ⊢
      exact h t j told disposes

end LspGateway.Client
