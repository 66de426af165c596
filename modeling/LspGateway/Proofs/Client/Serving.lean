import LspGateway.Proofs.Client.Sharing
import LspGateway.Proofs.Client.Stopping

/-! # When a client is ready

A client that is ready uses a connection, and the listener of the connection reads on,
unless it ended on a value of the wrong shape or at an end that was to be expected.
-/

namespace LspGateway.Client

variable {hit : Nat → Prop} {c c₁ : Client} {d d₁ : Option Doer} {lost : List Loss} {x : Doer}
  {l k n m id : Nat} {t : Task} {s : Signal} {u : Teardown} {inputs : List Input}

/-- How a client that starts and disposes its server uses its links. -/
structure Serving (c : Client) (d : Option Doer) : Prop where
  audience : c.audience = .client
  single : ∀ l, (c.link l).superseded = false
  runs : ∀ l, (c.link l).listener.phase = .running → turnOf d = some (.listener l)
  /-- What is taken down is not in use any more. -/
  apart : ∀ t u, (roleBy c d t).teardown = some u →
    c.held.process ≠ some u.link ∧ c.held.connection ≠ some u.link
  used : c.state = .ready → c.held.connection.isSome ∨ Disposing c d
  heard : ∀ l, c.held.connection = some l → (c.link l).listener.phase ≠ .absent
  up : ∀ l, c.held.connection = some l → (c.link l).closed = false
  ended : ∀ l, c.state = .ready → c.held.connection = some l →
    (c.link l).listener.phase = .done → (c.link l).crash.isSome ∨ (c.link l).shuttingDown

/-- Only mere connections are listened to and closed by calls. -/
theorem Serving.errand (h : Serving c d) (b : Bounds c d) (t : Task) :
    (roleBy c d t).errand ≠ .listens ∧ (roleBy c d t).errand ≠ .closes :=
  ⟨fun e => b.observes t (.inl e) h.audience, fun e => b.observes t (.inr e) h.audience⟩

theorem Serving.errand_own (h : Serving c (some x)) (b : Bounds c (some x)) :
    x.role.errand ≠ .listens ∧ x.role.errand ≠ .closes := by
  have := h.errand b x.task
  rwa [roleBy_self rfl] at this

/-- What the client uses changes when an attempt connects and when someone takes it down. -/
theorem Action.held_cases (act : Action hit c d c₁ d₁) :
    (c₁.held.process = c.held.process ∧ c₁.held.connection = c.held.connection) ∨
      (∃ x, d = some x ∧ d₁ = some (x.takeDown c.held.teardown?) ∧ c₁ = { c with held := .nothing } ∧
        ((∃ n, x.task = .attempt n) ∨ x.role.disposes = true)) ∨
      ∃ x n ps p, d = some x ∧ d₁ = some (x.turnTo (if p.hasInput then .speaks else .fails)) ∧
        x.task = .attempt n ∧ c₁ = c.addLink ps p ∧ (c.held = .nothing ∨ c.held = x.found) := by
  cases act with
  | takes how =>
    cases how with
    | releases idle who => exact .inr (.inl ⟨_, rfl, rfl, rfl, who⟩)
    | _ => exact .inl ⟨rfl, rfl⟩
  | connects task done starts cold ps p clear =>
    exact .inr (.inr ⟨_, _, ps, p, rfl, rfl, task, rfl, clear⟩)
  | _ => exact .inl ⟨rfl, rfl⟩

/-- A link that was listened to exists. -/
theorem lt_of_phase (h : (c.link l).listener.phase ≠ .absent) : l < c.links.length := by
  refine Nat.lt_of_not_le fun hl => h ?_
  rw [link_of_le hl]
  rfl

/-- A listener comes to run when its turn begins. -/
theorem Action.running (act : Action hit c d c₁ d₁) (h : (c₁.link l).listener.phase = .running) :
    (c.link l).listener.phase = .running := by
  let r (k j : Link) : Prop := j.listener.phase = .running → k.listener.phase = .running
  have refl k : r k k := fun h => h
  revert h
  cases act with
  | rests | halts | restarts => exact rel_link (r := r) refl rfl (fun e => by cases e) l
  | connects task done starts cold ps policy =>
    rw [link_addLink]
    split
    · cases policy.hasInput <;> nofun
    · exact refl _
  | takes how =>
    rw [how.frame]
    exact refl _
  | flows | exits | tellsListener | tellsDrain | asks | mumbles | retracts | withdraws | answers | drops | fails
  | supersedes | renews | drains | drainRests | drainEnds | shuts | expectsEnd =>
    exact rel_link (r := r) refl rfl (fun h => h) l
  | _ => exact refl _

namespace Serving

theorem act_single (h : Serving c d) (b : Bounds c d) (act : Action hit c d c₁ d₁) (l : Nat) :
    (c₁.link l).superseded = false := by
  revert l
  cases act with
  | supersedes listens | renews listens | restarts task listens =>
    exact absurd listens (h.errand_own b).1
  | connects task done starts cold ps policy =>
    intro l
    rw [link_addLink]
    split
    · rfl
    · exact h.single l
  | takes how =>
    rw [how.frame]
    exact h.single
  | flows | exits | tellsListener | tellsDrain | asks | mumbles | retracts | withdraws | answers | drops | fails
  | rests | halts | drains | drainRests | drainEnds | shuts | expectsEnd =>
    exact forall_link (p := fun k => k.superseded = false) h.single rfl fun h => h
  | _ => exact h.single

theorem act_runs (h : Serving c d) (act : Action hit c d c₁ d₁) (l : Nat)
    (running : (c₁.link l).listener.phase = .running) : turnOf d₁ = some (.listener l) := by
  obtain ⟨x, rfl, own⟩ := Option.map_eq_some_iff.mp (h.runs l (act.running running))
  cases d₁ with
  | some y => rw [turnOf, Option.map_some, act.task_eq.1, own]
  | none =>
    -- A listener that leaves does not run any more.
    exfalso
    cases act with
    | @rests x m task done go runs reading =>
      obtain rfl := Task.listener.inj (task.symm.trans own)
      rw [restListener, link_modifyLink_self (lt_of_phase (by simp [runs]))] at running
      cases running
    | leaves done told ceased =>
      obtain ⟨m, task, ended⟩ | ⟨m, task, -⟩ := ceased
      · obtain rfl := Task.listener.inj (task.symm.trans own)
        rw [running] at ended
        cases ended
      · cases own.symm.trans task
    | drainRests task | parksAttempt task | endsAttempt task | succeeds task | parksCall task
    | endsCall task => cases own.symm.trans task

theorem act_apart (h : Serving c d) (q : Queue c (turnOf d)) (b : Bounds c d)
    (act : Action hit c d c₁ d₁) (t : Task) (u : Teardown) (takes : (roleBy c₁ d₁ t).teardown = some u) :
    c₁.held.process ≠ some u.link ∧ c₁.held.connection ≠ some u.link := by
  -- What is taken down was before, or is what the client used.
  have before : (∃ v, (roleBy c d t).teardown = some v ∧ v.link = u.link) ∨
      c₁.held = .nothing := by
    obtain same | ⟨x, v, rfl, task, rfl, how⟩ := act.teardown_eq q t
    · exact .inl ⟨u, same.symm.trans takes, rfl⟩
    · rw [roleBy_self (y := x.takeDown v) task] at takes
      change v = some u at takes
      rw [roleBy_self task]
      cases how with
      | releases => exact .inr rfl
      | closes idle errand => exact absurd errand (h.errand_own b).2
      | advances taken same =>
        obtain rfl := Option.some.inj takes
        exact .inl ⟨_, taken, same.symm⟩
      | settles => cases takes
      | abandons => cases takes
  obtain ⟨v, taken, same⟩ | nothing := before
  · obtain ⟨process, connection⟩ := h.apart t v taken
    rw [same] at process connection
    obtain ⟨e, e'⟩ | ⟨x, -, -, rfl, -⟩ | ⟨x, n, ps, p, -, -, -, rfl, -⟩ := act.held_cases
    · rw [e, e']
      exact ⟨process, connection⟩
    · exact ⟨nofun, nofun⟩
    · have old := b.takes t v taken
      rw [same] at old
      have other : some c.links.length ≠ some u.link := fun e =>
        Nat.ne_of_gt old (Option.some.inj e)
      refine ⟨other, ?_⟩
      show (if p.hasInput then some c.links.length else c.held.connection) ≠ some u.link
      split
      · exact other
      · exact connection
  · rw [nothing]
    exact ⟨nofun, nofun⟩

theorem act_used (h : Serving c d) (a : Sharing c d) (q : Queue c (turnOf d)) (b : Bounds c d)
    (act : Action hit c d c₁ d₁) (ready : c₁.state = .ready) :
    c₁.held.connection.isSome ∨ Disposing c₁ d₁ := by
  have keep (disposing : Disposing c d) : Disposing c₁ d₁ :=
    (act.disposing q b disposing).resolve_right fun e => by rw [ready] at e; cases e
  obtain ⟨-, same⟩ | ⟨x, rfl, -, rfl, ⟨n, task⟩ | disposes⟩ | ⟨x, n, ps, p, -, -, -, rfl, -⟩ :=
    act.held_cases
  · rw [same]
    cases act with
    | startsUp | fallsBack | givesUp | resets => cases ready
    | succeeds task done starts asked agreed used up => exact .inl (by rw [used]; rfl)
    | takes how =>
      rw [how.frame] at ready
      exact (h.used ready).imp_right keep
    | _ => exact (h.used ready).imp_right keep
  · exact .inr (keep (a.alone ready n (a.turn n (congrArg some task))))
  · exact .inr (keep ⟨x.task, by rwa [roleBy_self rfl]⟩)
  · show (if p.hasInput then some c.links.length else c.held.connection).isSome ∨ _
    split
    · exact .inl rfl
    · exact (h.used ready).imp_right keep

theorem act_heard (h : Serving c d) (act : Action hit c d c₁ d₁) (l : Nat)
    (used : c₁.held.connection = some l) : (c₁.link l).listener.phase ≠ .absent := by
  let r (k j : Link) : Prop := k.listener.phase ≠ .absent → j.listener.phase ≠ .absent
  have refl k : r k k := fun h => h
  cases act with
  | connects task done starts cold ps policy =>
    rw [link_addLink]
    have used : (if policy.hasInput then some c.links.length else c.held.connection) = some l := used
    split
    · next e =>
      subst e
      split at used
      · next input =>
        rw [input]
        nofun
      · have := lt_of_phase (h.heard _ used)
        exact absurd this (Nat.lt_irrefl _)
    · next e =>
      split at used
      · exact absurd (Option.some.inj used).symm e
      · exact h.heard l used
  | takes how =>
    cases how with
    | releases => cases used
    | _ => exact h.heard l used
  | rests | halts | restarts =>
    exact rel_link (r := r) refl rfl (fun _ e => by cases e) l (h.heard l used)
  | flows | exits | tellsListener | tellsDrain | asks | mumbles | retracts | withdraws | answers | drops | fails
  | supersedes | renews | drains | drainRests | drainEnds | shuts | expectsEnd =>
    exact rel_link (r := r) refl rfl (fun h => h) l (h.heard l used)
  | _ => exact h.heard l used

theorem act_up (h : Serving c d) (act : Action hit c d c₁ d₁) (l : Nat)
    (used : c₁.held.connection = some l) : (c₁.link l).closed = false := by
  let r (k j : Link) : Prop := k.closed = false → j.closed = false
  have refl k : r k k := fun h => h
  cases act with
  | connects task done starts cold ps policy =>
    rw [link_addLink]
    have used : (if policy.hasInput then some c.links.length else c.held.connection) = some l := used
    split
    · rfl
    · next e =>
      split at used
      · exact absurd (Option.some.inj used).symm e
      · exact h.up l used
  | takes how =>
    cases how with
    | releases => cases used
    | _ => exact h.up l used
  | @shuts x t takes =>
    have other : t.link ≠ l := by
      rintro rfl
      exact (h.apart x.task t (by rwa [roleBy_self rfl])).2 used
    rw [link_modifyLink_ne other]
    exact h.up l used
  | flows | exits | tellsListener | tellsDrain | asks | mumbles | retracts | withdraws | answers | drops | fails
  | rests | halts | restarts | supersedes | renews | drains | drainRests | drainEnds | expectsEnd =>
    exact rel_link (r := r) refl rfl (fun h => h) l (h.up l used)
  | _ => exact h.up l used

/-- Why a listener may have ended while its client is ready. -/
theorem act_ended (h : Serving c d) (b : Bounds c d) (act : Action hit c d c₁ d₁) (l : Nat)
    (ready : c₁.state = .ready) (used : c₁.held.connection = some l)
    (ceased : (c₁.link l).listener.phase = .done) :
    (c₁.link l).crash.isSome ∨ (c₁.link l).shuttingDown := by
  let r (k j : Link) : Prop := j.listener.phase = .done →
    k.listener.phase = .done ∧ (k.crash.isSome → j.crash.isSome) ∧ (k.shuttingDown → j.shuttingDown)
  have refl k : r k k := fun h => ⟨h, fun e => e, fun e => e⟩
  have before (same : r (c.link l) (c₁.link l)) (ready : c.state = .ready)
      (used : c.held.connection = some l) : (c₁.link l).crash.isSome ∨ (c₁.link l).shuttingDown := by
    obtain ⟨ceased, crash, shut⟩ := same ceased
    exact (h.ended l ready used ceased).imp crash shut
  cases act with
  | startsUp | fallsBack | givesUp | resets => cases ready
  | supersedes listens | renews listens | restarts task listens =>
    exact absurd listens (h.errand_own b).1
  | @succeeds x m k k' id j task done starts asked agreed used' up =>
    obtain rfl := Option.some.inj (used'.symm.trans used)
    cases up.symm.trans (Link.isClosed_of_over ceased)
  | @halts x m crash task clear same why =>
    by_cases e : m = l
    · subst e
      have here := lt_of_phase (h.heard m used)
      rw [haltListener, link_modifyLink_self here]
      obtain closed | shut | later | crash | out | failed := why
      · rw [h.up m used] at closed
        cases closed
      · exact .inr shut
      · rw [h.single m] at later
        cases later
      · exact .inl crash
      · exact absurd h.audience out
      · cases ready.symm.trans failed
    · have other : (c.haltListener m crash).link l = c.link l := link_modifyLink_ne e _
      exact before (by rw [other]; exact refl _) ready used
  | connects task done starts cold ps policy =>
    have used : (if policy.hasInput then some c.links.length else c.held.connection) = some l := used
    rw [link_addLink] at ceased
    split at ceased
    · cases input : policy.hasInput <;> rw [input] at ceased <;> cases ceased
    · next e =>
      split at used
      · exact absurd (Option.some.inj used).symm e
      · exact before (by rw [link_addLink, if_neg e]; exact refl _) ready used
  | takes how =>
    cases how with
    | releases => cases used
    | _ => exact before (refl _) ready used
  | rests => exact before (rel_link (r := r) refl rfl (fun e => by cases e) l) ready used
  | expectsEnd =>
    exact before (rel_link (r := r) refl rfl (fun e => ⟨e, fun e => e, fun _ => rfl⟩) l) ready used
  | flows | exits | tellsListener | tellsDrain | asks | mumbles | retracts | withdraws | answers | drops | fails
  | drains | drainRests | drainEnds | shuts =>
    exact before (rel_link (r := r) refl rfl (fun e => ⟨e, fun e => e, fun e => e⟩) l) ready used
  | _ => exact before (refl _) ready used

theorem act (h : Serving c d) (a : Sharing c d) (q : Queue c (turnOf d)) (b : Bounds c d)
    (act : Action hit c d c₁ d₁) : Serving c₁ d₁ :=
  ⟨act.audience_eq.trans h.audience, h.act_single b act, h.act_runs act, h.act_apart q b act,
    h.act_used a q b act, h.act_heard act, h.act_up act, h.act_ended b act⟩

theorem lose (h : Serving c d) : Serving (c.forget l id) d := by
  have role u : roleBy (c.forget l id) d u = roleBy c d u :=
    roleBy_congr fun u => congrArg Standing.role standing_forget
  have same {α : Type} (g : Link → α) (k : Nat)
      (keeps : ∀ (k : Link) ps, g { k with pending := ps } = g k := by intros; rfl) :
      g ((c.forget l id).link k) = g (c.link k) :=
    link_modifyLink_same g fun _ => keeps _ _
  refine ⟨h.audience, fun k => ?_, fun k => ?_, fun t u => ?_, fun ready => ?_, fun k => ?_,
    fun k => ?_, fun k => ?_⟩
  · rw [same Link.superseded]
    exact h.single k
  · rw [same (·.listener.phase)]
    exact h.runs k
  · rw [role]
    exact h.apart t u
  · refine (h.used ready).imp_right ?_
    rintro ⟨t, disposes⟩
    exact ⟨t, by rwa [role]⟩
  · rw [same (·.listener.phase)]
    exact h.heard k
  · rw [same Link.closed]
    exact h.up k
  · rw [same (·.listener.phase), same Link.crash, same Link.shuttingDown]
    exact h.ended k

end Serving

/-- A listener whose turn begins runs, unless it is cancelled before it has begun. -/
theorem Begins.listener_cases {rest : List Task} (begins : Begins c rest c₁ d) (b : Bounds c none)
    (l : Nat) : (c₁.link l).listener = (c.link l).listener ∨ turnOf d = some (.listener l) ∧
      ((c₁.link l).listener.phase = .running ∨
        (c₁.link l).listener.phase = .done ∧ (c.link l).closed) := by
  cases begins with
  | @listener m s p ready here pending =>
    by_cases e : m = l
    · subst e
      have lt : m < c.links.length := lt_of_phase (by rw [here]; rintro rfl; cases pending)
      refine .inr ⟨rfl, ?_⟩
      rw [setListener, link_modifyLink_self (c := { c with ready := rest }) lt]
      by_cases early : p = .fresh ∧ s = .cancelled
      · refine .inr ⟨if_pos early, b.shut m ?_⟩
        rw [here, early.2]
      · exact .inl (if_neg early)
    · left
      rw [setListener, link_modifyLink_ne e]
      rfl
  | drain => exact .inl (link_modifyLink_same (c := { c with ready := rest }) Link.listener fun _ => rfl)
  | _ => exact .inl rfl

theorem Begins.serving {rest : List Task} (begins : Begins c rest c₁ d) (b : Bounds c none)
    (h : Serving c none) : Serving c₁ d := by
  obtain ⟨held, audience, state, -, -⟩ := begins.frame
  have same (l : Nat) : (c₁.link l).superseded = (c.link l).superseded ∧
      (c₁.link l).closed = (c.link l).closed ∧ (c₁.link l).crash = (c.link l).crash ∧
      (c₁.link l).shuttingDown = (c.link l).shuttingDown := by
    let r (k j : Link) : Prop := j.superseded = k.superseded ∧ j.closed = k.closed ∧
      j.crash = k.crash ∧ j.shuttingDown = k.shuttingDown
    have refl k : r k k := ⟨rfl, rfl, rfl, rfl⟩
    cases begins with
    | listener => exact rel_link (c := c) (r := r) refl rfl ⟨rfl, rfl, rfl, rfl⟩ l
    | drain => exact rel_link (c := c) (r := r) refl rfl ⟨rfl, rfl, rfl, rfl⟩ l
    | _ => exact refl _
  refine ⟨audience.trans h.audience, fun l => (same l).1.trans (h.single l), fun l running => ?_,
    fun t u takes => ?_, fun ready => ?_, fun l used => ?_, fun l used => ?_,
    fun l ready used ceased => ?_⟩
  · obtain e | ⟨turn, -⟩ := begins.listener_cases b l
    · rw [e] at running
      cases h.runs l running
    · exact turn
  · rw [held]
    refine h.apart t u ?_
    obtain same | ⟨-, same⟩ := begins.role t <;> rw [same] at takes <;> exact takes
  · rw [held]
    exact (h.used (state ▸ ready)).imp_right begins.disposing
  · rw [held] at used
    obtain e | ⟨-, running | ⟨ceased, -⟩⟩ := begins.listener_cases b l
    · rw [e]
      exact h.heard l used
    · rw [running]
      nofun
    · rw [ceased]
      nofun
  · rw [(same l).2.1]
    exact h.up l (held ▸ used)
  · rw [held] at used
    rw [(same l).2.2.1, (same l).2.2.2]
    obtain e | ⟨-, running | ⟨-, closed⟩⟩ := begins.listener_cases b l
    · rw [e] at ceased
      exact h.ended l (state ▸ ready) used ceased
    · rw [running] at ceased
      cases ceased
    · rw [h.up l used] at closed
      cases closed

theorem invariant_serving : Invariant Always fun c d _ => Sharing c d ∧ Serving c d :=
  ⟨fun sound h act => ⟨h.1.act sound.queue sound.requests sound.bounds act,
      h.2.act h.1 sound.queue sound.bounds act⟩,
    fun _ h _ _ _ => ⟨h.1.lose, h.2.lose⟩,
    fun _ sound h begins =>
      ⟨begins.sharing sound.queue h.1, begins.serving sound.bounds h.2⟩⟩

/-! ## Runs of a client -/

section Run

variable {config : ServerConfig} {workspace : String} {policies : List Policy}

theorem standing_ofConfig : (ofConfig config workspace policies).standing t = .absent :=
  standing_eq_absent rfl rfl (fun _ => rfl) (fun _ => rfl) t

theorem serving_ofConfig : Sharing (ofConfig config workspace policies) none ∧
    Serving (ofConfig config workspace policies) none := by
  refine ⟨sharing_of_standing (fun _ => standing_ofConfig) rfl rfl, rfl, fun _ => rfl, nofun,
    fun t u takes => ?_, nofun, nofun, nofun, nofun⟩
  rw [roleBy, role, standing_ofConfig] at takes
  cases takes

/-- A job that cannot be done without the server. -/
def Job.needsServer : Job → Bool
  | .start => true
  | .sends (_ :: _) => true
  | _ => false

/-- A call that joins waits for an attempt that goes on. -/
theorem join_waits (here : n < c.calls.length)
    (shared : ∀ m, c.attempt = some m → m < c.attempts.length) (sends : List Send) :
    ∃ m, (c.join n sends).calls[n]? = some ⟨.joined m sends, none⟩ ∧ (c.join n sends).IsLive m := by
  have put (c' : Client) (m : Nat) (calls : c'.calls = c.calls) :
      (c'.setCall n (.joined m sends)).calls[n]? = some ⟨.joined m sends, none⟩ := by
    rw [setCall, calls]
    exact List.getElem?_set_self here
  have fresh : c.addAttempt.IsLive c.attempts.length :=
    ⟨by simp [addAttempt, push], attemptOutcome_addAttempt⟩
  unfold join shareAttempt
  cases attempt : c.attempt with
  | none => exact ⟨_, put _ _ rfl, fresh⟩
  | some m =>
    dsimp only
    split
    · exact ⟨_, put _ _ rfl, fresh⟩
    · next live => exact ⟨_, put _ _ rfl, shared m attempt, Option.not_isSome_iff_eq_none.mp live⟩

theorem turn_call {rest : List Task} {p : CallPhase} {s : Option Signal}
    (first : c.ready = .call n :: rest) (here : c.calls[n]? = some ⟨p, s⟩) :
    c.turn = (({ c with ready := rest } : Client).setCall n .running).resumeCall n (s.getD .go) p := by
  rw [turn, first]
  show Client.runCall { c with ready := rest } n = _
  simp only [runCall, here]

/-- A call that needs the server of a client that is not ready waits for an attempt. -/
theorem turn_joins (a : Sharing c none) (cold : c.state ≠ .ready) {rest : List Task} {job : Job}
    (first : c.ready = .call n :: rest) (here : c.calls[n]? = some ⟨.fresh job, some .go⟩)
    (needs : job.needsServer) :
    ∃ m sends, c.turn.calls[n]? = some ⟨.joined m sends, none⟩ ∧ c.turn.IsLive m := by
  have lt : n < c.calls.length := (List.getElem?_eq_some_iff.mp here).1
  let c' := { c with ready := rest }.setCall n .running
  have starts : c'.needsStart := decide_eq_true cold
  have begins : c.turn = c'.beginCall n job := turn_call first here
  have joins (sends : List Send) := join_waits (c := c') (n := n)
    (by simpa [c', setCall] using lt) a.here sends
  rw [begins]
  cases job with
  | start =>
    rw [beginCall, if_pos starts]
    exact (joins []).imp fun m h => ⟨[], h⟩
  | sends ss =>
    cases ss with
    | nil => cases needs
    | cons s ss =>
      rw [beginCall, sendAll, if_pos starts]
      exact (joins (s :: ss)).imp fun m h => ⟨s :: ss, h⟩
  | _ => cases needs

/-- A client that is ready and is not being disposed uses a connection. Its listener reads on,
unless it ended on a value of the wrong shape, or at an end that was to be expected. A client that
is not ready starts its server for the next call that needs it. -/
theorem ready_listens_or_starts (fits : ∀ i ∈ inputs, i.Fits (ofConfig config workspace policies)) :
    let c := (ofConfig config workspace policies).run inputs
    (c.state = .ready → (∀ t, ¬ (c.role t).disposes) → ∃ l, c.held.connection = some l ∧
      ((c.link l).listener.phase.isPending ∨ (c.link l).listener.phase = .done ∧
        ((c.link l).crash.isSome ∨ (c.link l).shuttingDown))) ∧
    (c.state ≠ .ready → ∀ (n : Nat) rest (job : Job), c.ready = .call n :: rest →
      c.calls[n]? = some ⟨.fresh job, some .go⟩ → job.needsServer →
      ∃ m sends, c.turn.calls[n]? = some ⟨.joined m sends, none⟩ ∧ c.turn.IsLive m) := by
  intro c
  obtain ⟨-, sharing, serving⟩ :=
    invariant_serving.run throughout_always fits sound_ofConfig serving_ofConfig
  refine ⟨fun ready alone => ?_, fun cold n rest job first here needs =>
    turn_joins sharing cold first here needs⟩
  obtain used | ⟨t, disposes⟩ := serving.used ready
  · obtain ⟨l, used⟩ := Option.isSome_iff_exists.mp used
    refine ⟨l, used, ?_⟩
    cases phase : (c.link l).listener.phase with
    | absent => exact absurd phase (serving.heard l used)
    | running => cases serving.runs l phase
    | fresh | waiting => exact .inl rfl
    | done => exact .inr ⟨rfl, serving.ended l ready used phase⟩
  · exact absurd disposes (alone t)

end Run

/-- A client whose server answers nothing by itself. -/
def plainClient : Client := ofConfig ⟨"x", [], [], "s", []⟩ "/ws" []

/-- The server is started. -/
def spawning : List Input := [.call .start, .turn, .turn, .turn, .turn]

/-- The server is started and agrees to that. -/
def starting : List Input :=
  spawning ++ [.output (Wire.encode (.obj [("id", .int 1), ("result", .null)])),
    .turn, .turn, .turn, .turn]

/-- The server sends a message that is no object. -/
def oddMessage : List Input := [.output (Wire.encode (.arr [.int 1])), .turn]

theorem ready_listens_or_starts_oddMessage :
    let c := (ofConfig ⟨"x", [], [], "s", []⟩ "/ws" []).run (starting ++ oddMessage)
    (c.state = .ready → (∀ t, ¬ (c.role t).disposes) → ∃ l, c.held.connection = some l ∧
      ((c.link l).listener.phase.isPending ∨ (c.link l).listener.phase = .done ∧
        ((c.link l).crash.isSome ∨ (c.link l).shuttingDown))) ∧
    (c.state ≠ .ready → ∀ (n : Nat) rest (job : Job), c.ready = .call n :: rest →
      c.calls[n]? = some ⟨.fresh job, some .go⟩ → job.needsServer →
      ∃ m sends, c.turn.calls[n]? = some ⟨.joined m sends, none⟩ ∧ c.turn.IsLive m) :=
  @ready_listens_or_starts (starting ++ oddMessage) ⟨"x", [], [], "s", []⟩ "/ws" []
    (by decide +kernel)

/-- After an odd message nobody listens to the server of a client that is ready, and every call
fails. -/
theorem ready_deaf_oddMessage :
    let c := plainClient.run (starting ++ oddMessage)
    c.ready = [] ∧ c.calls = [⟨.done .done, none⟩] ∧ c.state = .ready ∧
    c.held.connection = some 0 ∧ (c.link 0).listener.phase = .done ∧
    (c.run [.call (.sends [.request "m" .null]), .turn]).callOutcome? 1 = some (.error .closed) := by
  decide +kernel

end LspGateway.Client
