import LspGateway.Proofs.Client.Escalating
import LspGateway.Proofs.Client.Sparing

/-! # Closings in the course of a run

Between any two steps a call that waits for the process to exit waits for one that is there. It
learns of the exit, or that its time is up, and of nothing else.
-/

namespace LspGateway.Client

variable {hit : Nat → Prop} {c c₁ : Client} {d d₁ : Option Doer} {lost : List Loss} {l m n : Nat}
  {t : Teardown} {s : Signal} {o : Outcome} {i : Input} {p : CallPhase} {told : Option Signal}
  {blows : List Event} {r : Client × Progress} {ts : List Task} {u : Teardown}

/-! ## Answers -/

/-- Who closes a connection is not answered. -/
def Unanswered (c : Client) : Prop :=
  ∀ (n : Nat) (t : Teardown) o, c.calls[n]? ≠ some ⟨.closing t, some (.answered o)⟩

theorem Prompts.ne_answered (why : Prompts hit c d (.call n) (.answered o))
    (requests : Requests c d lost) (apart : turnOf d ≠ some (.call n)) :
    c.calls[n]? ≠ some ⟨.closing t, told⟩ := by
  intro here
  cases why with
  | call here' why =>
    obtain rfl := Option.some.inj (here'.symm.trans here)
    cases why
  | answer pending =>
    have claims := requests.pending _ _ _ pending
    rw [claim_ne apart, role, standing, here] at claims
    cases claims

theorem Unanswered.act (h : Unanswered c) (act : Action hit c d c₁ d₁) (sound : Sound c d lost) :
    Unanswered c₁ := by
  intro n t o after
  obtain before | ⟨apart, why, s', before⟩ := act.call_told sound.queue rfl (by simp) after
  · exact h n t o before
  · exact why.ne_answered sound.requests apart before

theorem invariant_unanswered : Invariant Always fun c _ _ => Unanswered c :=
  ⟨fun sound h act => h.act act sound, fun _ h _ _ _ => h,
    fun _ _ h begins n t o here => h n t o (begins.call_told here)⟩

/-! ## What comes from outside -/

theorem onLastLink_eq (f : Client → Nat → Client) :
    c.onLastLink f = c ∨ ∃ l < c.links.length, c.onLastLink f = f c l := by
  unfold onLastLink
  split
  · exact .inl rfl
  · next links => exact .inr ⟨_, by simp [links], rfl⟩

theorem unmoved_addCall {job : Job} : Unmoved c (c.addCall job) := by
  have before {n : Nat} {t : Teardown} {s : Option Signal}
      (here : (c.calls ++ [Call.mk (.fresh job) (some .go)])[n]? = some ⟨.closing t, s⟩) :
      c.calls[n]? = some ⟨.closing t, s⟩ := by
    rw [List.getElem?_append] at here
    split at here
    · exact here
    · rw [List.getElem?_singleton] at here
      split at here <;> cases here
  exact ⟨rfl, fun _ => .refl _, rfl, fun _ _ s here => ⟨s, before here⟩,
    fun _ _ _ here _ _ => before here⟩

theorem unmoved_cancelAttempt : Unmoved c (c.cancelAttempt n) := by
  unfold cancelAttempt
  split
  · split
    · split <;> exact unmoved_of_links rfl rfl rfl
    · exact .refl c
  · exact .refl c

theorem unmoved_cancelCall : Unmoved c (c.cancelCall n) := by
  have told {k : Call} (before : c.calls[n]? = some k) :
      Unmoved c { c with calls := c.calls.set n ⟨k.phase, some .cancelled⟩ } := by
    refine ⟨rfl, fun _ => .refl _, rfl, fun m t s here => ?_, fun m t s here _ news => ?_⟩
    · rw [List.getElem?_set] at here
      split at here
      · next same =>
        subst same
        split at here
        · obtain ⟨phase, -⟩ := Call.mk.inj (Option.some.inj here)
          exact ⟨k.signal, by rw [before, ← phase]⟩
        · cases here
      · exact ⟨s, here⟩
    · rw [List.getElem?_set] at here
      split at here
      · split at here
        · obtain ⟨-, rfl⟩ := Call.mk.inj (Option.some.inj here)
          cases news
        · cases here
      · exact here
  unfold cancelCall
  split
  · exact unmoved_cancelAttempt
  · next here =>
    split
    · dsimp only
      split
      · exact (told here).trans (unmoved_of_links rfl rfl rfl)
      · exact told here
    · exact .refl c
  · exact .refl c

theorem unmoved_feedErrors {l : Nat} {bytes : List UInt8} : Unmoved c (c.feedErrors l bytes) := by
  unfold feedErrors
  split
  · have fed : Unmoved c (c.modifyProcess l fun p => { p with errors := p.errors.append bytes }) :=
      unmoved_modifyLink fun _ => ⟨rfl, rfl, fun h => h⟩
    exact fed.trans unmoved_wakeDrain
  · exact .refl c

theorem unmoved_endOutput {l : Nat} : Unmoved c (c.endOutput l) := by
  unfold endOutput
  split
  · have ended : Unmoved c (c.modifyProcess l fun p => { p with
        output := { p.output with ended := true } }) :=
      unmoved_modifyLink fun _ => ⟨rfl, rfl, fun h => h⟩
    exact ended.trans unmoved_wakeListener
  · exact .refl c

/-- Processes exit by themselves, and nobody is sent a signal from outside. -/
theorem moved_input (outside : i ≠ .turn) (timeless : ∀ moment due, i ≠ .time moment due) :
    Moved c (c.step i) ∧ (c.step i).blows = c.blows := by
  have unmoved {f : Client → Nat → Client} (h : ∀ l, Unmoved c (f c l)) :
      Moved c (c.onLastLink f) ∧ (c.onLastLink f).blows = c.blows := by
    obtain e | ⟨l, -, e⟩ := onLastLink_eq (c := c) f <;> rw [e]
    · exact ⟨(Unmoved.refl c).moved, rfl⟩
    · exact ⟨(h l).moved, (h l).blows⟩
  cases i with
  | turn => exact absurd rfl outside
  | call job => exact ⟨unmoved_addCall.moved, unmoved_addCall.blows⟩
  | cancel n => exact ⟨unmoved_cancelCall.moved, unmoved_cancelCall.blows⟩
  | output bytes => exact unmoved (f := fun c l => c.feed l bytes) fun _ => unmoved_feed
  | errors bytes => exact unmoved (f := fun c l => c.feedErrors l bytes) fun _ => unmoved_feedErrors
  | outputEnd => exact unmoved fun _ => unmoved_endOutput
  | exit code =>
    obtain e | ⟨l, here, e⟩ := onLastLink_eq (c := c) fun c l => c.exit l code <;> rw [step, e]
    · exact ⟨(Unmoved.refl c).moved, rfl⟩
    · exact ⟨moved_exit here, blows_exit⟩
  | inputFault fault =>
    exact unmoved (f := fun c l => c.breakInput l fault) fun _ =>
      unmoved_modifyLink fun _ => ⟨rfl, rfl, fun h => h⟩
  | expectEnd =>
    have told : Unmoved c (c.expectEnd c.heldLink) := unmoved_modifyLink fun _ => .refl _
    exact ⟨told.moved, told.blows⟩
  | time moment due => exact absurd rfl (timeless moment due)

/-! ## Time -/

/-- Who stops waiting because of the time is told so. -/
theorem passTo_frame (c : Client) (moment due : Nat) : ∃ as ts, c.passTo moment due =
    { c with
      now := moment
      attempts := as
      calls := c.calls.map fun k => if isDue due k.phase.deadline? then k.prompt .timedOut else k
      ready := ts } := by
  obtain ⟨ts, e⟩ := wakeAttempts_frame (c := { c with now := moment }) (s := .timedOut)
    fun p => isDue due p.deadline?
  obtain ⟨ts', e'⟩ := wakeCalls_frame (s := .timedOut)
    (c := { c with now := moment }.wakeAttempts (fun p => isDue due p.deadline?) .timedOut)
    fun p => isDue due p.deadline?
  exact ⟨_, ts', by rw [passTo, e', e]⟩

/-- A closing that has its time up was told nothing so far. -/
theorem told_passTo {moment due : Nat}
    (here : (c.passTo moment due).calls[n]? = some ⟨.closing t, told⟩) :
    c.calls[n]? = some ⟨.closing t, told⟩ ∨
      told = some .timedOut ∧ c.calls[n]? = some ⟨.closing t, none⟩ ∧
        ∃ d, t.stage.deadline? = some d ∧ d ≤ due := by
  obtain ⟨as, ts, e⟩ := passTo_frame c moment due
  rw [e, List.getElem?_map] at here
  obtain ⟨q, before, e⟩ := Option.map_eq_some_iff.mp here
  split at e
  · next comes =>
    have phase : q.phase = .closing t := (q.phase_prompt).symm.trans (congrArg Call.phase e)
    obtain ⟨p, s⟩ := q
    obtain rfl : p = .closing t := phase
    cases s with
    | some s =>
      obtain rfl : some s = told := congrArg Call.signal e
      exact .inl before
    | none =>
      obtain rfl : some .timedOut = told := congrArg Call.signal e
      refine .inr ⟨rfl, before, ?_⟩
      have comes : isDue due t.stage.deadline? = true := comes
      unfold isDue at comes
      split at comes
      · next d deadline => exact ⟨d, deadline, of_decide_eq_true comes⟩
      · cases comes
  · exact .inl (e ▸ before)

/-! ## Steps -/

/-- Nothing comes to be pending over a connection that was closed. -/
theorem Action.pending_closed (act : Action hit c d c₁ d₁) (closed : (c.link l).closed)
    (clear : (c.link l).pending = []) : (c₁.link l).pending = [] := by
  let r (k j : Link) : Prop := k.closed → k.pending = [] → j.pending = []
  have refl k : r k k := fun _ clear => clear
  suffices h : ∀ l, r (c.link l) (c₁.link l) from h l closed clear
  cases act with
  | asks idle left up | mumbles idle left up =>
    refine rel_link (r := r) refl rfl fun closed _ => ?_
    exact absurd (up.symm.trans (Link.isClosed_of_closed closed)) nofun
  | fails idle reason first =>
    refine rel_link (r := r) refl rfl fun _ clear => ?_
    cases first.symm.trans clear
  | retracts | withdraws | answers | drops =>
    refine rel_link (r := r) refl rfl fun _ clear => ?_
    simp [clear]
  | connects task done starts cold ps policy =>
    intro k
    rw [link_addLink]
    split
    · exact fun _ _ => rfl
    · exact refl _
  | takes how =>
    rw [how.frame]
    exact fun _ => refl _
  | flows | exits | tellsListener | tellsDrain | rests | halts | supersedes | renews | restarts
  | drains | drainRests | drainEnds | shuts | expectsEnd =>
    exact rel_link (r := r) refl rfl fun _ clear => clear
  | _ => exact fun _ => refl _

theorem invariant_pending_closed :
    Invariant Always fun c _ _ => (c.link l).closed ∧ (c.link l).pending = [] := by
  refine ⟨fun _ h act => ⟨act.closed_mono h.1, act.pending_closed h.1 h.2⟩,
    fun {c d lost k id t} _ h _ _ _ => ⟨?_, ?_⟩, fun {c rest c₁ d lost} _ _ h begins => ?_⟩
  · exact (link_modifyLink_same (f := fun k => { k with pending := k.pending.filter (·.1 != id) })
      Link.closed fun _ => rfl).trans h.1
  · simp [pending_forget, h.2]
  · have same : (c₁.link l).closed = (c.link l).closed ∧
        (c₁.link l).pending = (c.link l).pending := by
      let r (k j : Link) : Prop := j.closed = k.closed ∧ j.pending = k.pending
      cases begins with
      | listener => exact rel_link (c := c) (r := r) (fun _ => ⟨rfl, rfl⟩) rfl ⟨rfl, rfl⟩ l
      | drain => exact rel_link (c := c) (r := r) (fun _ => ⟨rfl, rfl⟩) rfl ⟨rfl, rfl⟩ l
      | _ => exact ⟨rfl, rfl⟩
    exact ⟨same.1.trans h.1, same.2.trans h.2⟩

/-- What a step does to processes and to those who wait for their exit. -/
inductive Moves (c : Client) (i : Input) : Prop
  | quiet (moved : Moved c (c.step i)) (silent : (c.step i).blows = c.blows)
  | passes {moment due : Nat} (time : i = .time moment due)
  | closes {n : Nat} {p : CallPhase} {t : Teardown} {s : Signal} {blows : List Event}
    {r : Client × Progress} (turn : c.IsTurn n i) (here : c.calls[n]? = some ⟨p, some s⟩)
    (carries : CarriesOut c p t) (rises : Rises c n t s blows r)

/-- What is known of the calls that close a connection. -/
structure Steady (c : Client) : Prop where
  plain : ∀ (n : Nat) (t : Teardown) s, c.calls[n]? = some ⟨.closing t, s⟩ →
    t.link = 0 ∧ t.drain = none ∧ t.stage ≠ .drain
  alert : Alert c
  unanswered : Unanswered c
  shut : ∀ (n : Nat) (t : Teardown) s, c.calls[n]? = some ⟨.closing t, s⟩ → t.stage ≠ .listener →
    IsShut c 0

theorem heldLink_of_used (mere : Mere c d) : c.heldLink = 0 := by
  rw [heldLink, mere.used]
  rfl

/-- The turn of a call that does not close a connection. -/
theorem unmoved_turn_call (sound : Sound c none lost) (mere : Mere c none)
    (first : c.ready = .call n :: ts) (here : c.calls[n]? = some ⟨p, told⟩)
    (other : p.role.errand ≠ .closes) : Unmoved c c.turn := by
  let b : Client := ({ c with ready := ts } : Client).setCall n .running
  have queued : Unmoved c { c with ready := ts } := unmoved_of_links rfl rfl rfl
  have began : Unmoved c b := queued.trans (unmoved_setCall (n := n) (p := .running) nofun)
  have disposes : p.role.errand ≠ .disposes := by
    have := mere.errand_ne sound.bounds (.call n)
    rwa [roleBy, role, standing_of_call here] at this
  rw [turn_call first here]
  exact began.trans (unmoved_resumeCall (c := b) mere.observed other disposes
    fun a sends => mere.alone n _ a sends here)

theorem Steady.rises (h : Steady c) (sound : Sound c none lost) (mere : Mere c none)
    (first : c.ready = .call n :: ts) (here : c.calls[n]? = some ⟨p, some s⟩)
    (carries : CarriesOut c p t) : ∃ blows r, Rises c n t s blows r := by
  have one : 0 < c.links.length := by
    rw [mere.links]
    exact Nat.one_pos
  cases carries with
  | begins =>
    refine rises_turn first here .begins rfl ?_ nofun
    rwa [heldLink_of_used mere]
  | goesOn =>
    obtain ⟨link, drain, stage⟩ := h.plain n t _ here
    refine rises_turn first here .goesOn drain (link ▸ one) ?_
    rintro _ ⟨⟩
    refine ⟨?_, fun waits go => ?_, stage, fun first => ?_⟩
    · rintro o rfl
      exact h.unanswered n t o here
    · exact (h.alert n t _ here waits).2 (congrArg some go)
    · refine sound.bounds.closing (.call n) t turnOf_none_ne ?_ first
      rw [roleBy, role, standing_of_call here]
      rfl

theorem Steady.moves (h : Steady c) (sound : Sound c none lost) (mere : Mere c none) :
    Moves c i := by
  by_cases turns : i = .turn
  · subst turns
    have quiet (same : Unmoved c c.turn) : Moves c .turn := .quiet same.moved same.blows
    rcases first : c.ready with _ | ⟨u, ts⟩
    · refine quiet ?_
      rw [turn, first]
      exact .refl c
    · by_cases call : ∃ n, u = .call n
      · obtain ⟨n, rfl⟩ := call
        have head : c.ready.head? = some (.call n) := by rw [first, List.head?_cons]
        obtain ⟨p, s, here⟩ := exists_call sound head
        by_cases closes : p.role.errand = .closes
        · obtain ⟨t, carries⟩ : ∃ t, CarriesOut c p t := by
            cases p with
            | fresh job => cases job <;> first | exact ⟨_, .begins⟩ | cases closes
            | closing t => exact ⟨t, .goesOn⟩
            | _ => cases closes
          obtain ⟨blows, r, rises⟩ := h.rises sound mere first here carries
          exact .closes ⟨rfl, head⟩ here carries rises
        · exact quiet (unmoved_turn_call sound mere first here closes)
      · exact quiet (unmoved_turn_other sound mere first fun n e => call ⟨n, e⟩)
  · by_cases timeless : ∀ moment due, i ≠ .time moment due
    · obtain ⟨moved, silent⟩ := moved_input (c := c) turns timeless
      exact .quiet moved silent
    · simp only [not_forall, not_not] at timeless
      obtain ⟨moment, due, time⟩ := timeless
      exact .passes time

theorem links_afterClosing : (r.1.afterClosing n r.2).links = r.1.links := by
  unfold afterClosing
  split <;> rfl

theorem length_afterClosing : (r.1.afterClosing n r.2).calls.length = r.1.calls.length := by
  unfold afterClosing
  split <;> exact List.length_set ..

theorem blows_afterClosing : (r.1.afterClosing n r.2).blows = r.1.blows := by
  unfold afterClosing
  split
  · rfl
  · exact (blows_emit _).trans (List.append_nil _)

/-- Who waits to close a connection has waited before the turn of another call or waits since its
own one. -/
theorem closing_afterClosing
    (here : (r.1.afterClosing n r.2).calls[m]? = some ⟨.closing t, told⟩) :
    m = n ∧ r.2 = .waits t ∧ told = none ∨
      m ≠ n ∧ r.1.calls[m]? = some ⟨.closing t, told⟩ := by
  obtain ⟨c, progress⟩ := r
  cases progress with
  | waits u =>
    have here : (c.calls.set n ⟨.closing u, none⟩)[m]? = some ⟨.closing t, told⟩ := here
    rw [List.getElem?_set] at here
    split at here
    · next same =>
      split at here
      · obtain ⟨phase, rfl⟩ := Call.mk.inj (Option.some.inj here)
        cases phase
        exact .inl ⟨same.symm, rfl, rfl⟩
      · cases here
    · next other => exact .inr ⟨Ne.symm other, here⟩
  | «over» o =>
    have here : (c.calls.set n ⟨.done o, none⟩)[m]? = some ⟨.closing t, told⟩ := here
    rw [List.getElem?_set] at here
    split at here
    · split at here <;> cases here
    · next other => exact .inr ⟨Ne.symm other, here⟩

theorem process_of_links (links : c₁.links = c.links) : c₁.process l = c.process l :=
  congrArg Link.process (link_of_links links)

theorem isAlive_of_links (links : c₁.links = c.links) : c₁.isAlive l = c.isAlive l := by
  rw [isAlive_eq, link_of_links links, isAlive_eq]

/-- Processes only go on and exit. -/
theorem Moves.ages (h : Moves c i) (l : Nat) : (c.process l).Ages ((c.step i).process l) := by
  cases h with
  | quiet moved => exact moved.process l
  | @passes moment due time =>
    subst time
    obtain ⟨as, ts, e⟩ := passTo_frame c moment due
    have same : (c.passTo moment due).process l = c.process l :=
      process_of_links (by rw [e])
    rw [step, same]
    exact ⟨rfl, fun h => h, fun h => h⟩
  | @closes n p t s blows r turn here carries rises =>
    obtain ⟨rfl, -⟩ := turn
    have same : (c.step .turn).process l = r.1.process l := by
      rw [step, rises.comes]
      exact process_of_links links_afterClosing
    rw [same]
    exact rises.rung.moved.process l

theorem Concludes.of_links (h : Concludes c l blows o) (links : c₁.links = c.links) :
    Concludes c₁ l blows o := by
  have same : c₁.process l = c.process l := process_of_links links
  cases h with
  | left gone => exact .left ((isAlive_of_links links).trans gone)
  | absent told policy => exact .absent told (same ▸ policy)
  | unkillable told policy => exact .unkillable told (same ▸ policy)
  | crashed silent crash => exact .crashed silent ((link_of_links links) ▸ crash)
  | cancelled silent => exact .cancelled silent

theorem IsShut.of_links (h : IsShut c l) (links : c₁.links = c.links) : IsShut c₁ l := by
  have same : c₁.link l = c.link l := link_of_links links
  exact ⟨same ▸ h.closed, same ▸ h.pending, process_of_links links ▸ h.input⟩

theorem IsShut.step (h : IsShut c l) (sound : Sound c none lost) (fits : i.Fits c)
    (ages : (c.process l).Ages ((c.step i).process l)) : IsShut (c.step i) l := by
  obtain ⟨-, closed, pending⟩ :=
    invariant_pending_closed.step trivial fits sound ⟨h.closed, h.pending⟩
  exact ⟨closed, pending, ages.input h.input⟩

theorem Rung.isShut (rung : Rung c t blows r) (enters : t.stage = .listener → Enters t.link r)
    (waits : r.2 = .waits u) (past : u.stage ≠ .listener) (first : t.stage = .listener) :
    IsShut r.1 t.link := by
  cases enters first with
  | waits stage =>
    cases waits
    exact absurd stage past
  | crashed => cases waits
  | cancelled => cases waits
  | shut shut => exact shut

theorem Steady.step (h : Steady c) (sound : Sound c none lost) (mere : Mere c none)
    (fits : i.Fits c) : Steady (c.step i) := by
  have moves := h.moves (i := i) sound mere
  have kept (shut : IsShut c 0) : IsShut (c.step i) 0 := shut.step sound fits (moves.ages 0)
  have unanswered := (invariant_unanswered.step trivial fits sound h.unanswered).2
  cases moves with
  | quiet moved =>
    refine ⟨fun n t s here => ?_, moved.alert h.alert, unanswered, fun n t s here past => ?_⟩
    · obtain ⟨s', before⟩ := moved.closing n t s here
      exact h.plain n t s' before
    · obtain ⟨s', before⟩ := moved.closing n t s here
      exact kept (h.shut n t s' before past)
  | @passes moment due time =>
    subst time
    obtain ⟨as, ts, e⟩ := passTo_frame c moment due
    have alive l : (c.passTo moment due).isAlive l = c.isAlive l := isAlive_of_links (by rw [e])
    refine ⟨fun n t s here => ?_, fun n t s here waits => ?_, unanswered, fun n t s here past => ?_⟩
    · obtain before | ⟨-, before, -⟩ := told_passTo here
      · exact h.plain n t s before
      · exact h.plain n t none before
    · rw [Client.step, alive]
      obtain before | ⟨rfl, -⟩ := told_passTo here
      · exact h.alert n t s before waits
      · simp
    · obtain before | ⟨-, before, -⟩ := told_passTo here
      · exact kept (h.shut n t s before past)
      · exact kept (h.shut n t none before past)
  | @closes n p t s blows r turn here carries rises =>
    obtain ⟨rfl, -⟩ := turn
    obtain ⟨comes, rung, -, enters, -⟩ := rises
    have own : t.link = 0 := by
      cases carries with
      | begins => exact heldLink_of_used mere
      | goesOn => exact (h.plain n t _ here).1
    have waits {u : Teardown} (next : r.2 = .waits u) := rung.waits u next
    rw [Client.step] at unanswered ⊢
    rw [comes] at unanswered ⊢
    refine ⟨fun m u s' after => ?_, fun m u s' after stage => ?_, unanswered,
      fun m u s' after past => ?_⟩
    · obtain ⟨-, next, -⟩ | ⟨-, before⟩ := closing_afterClosing after
      · obtain ⟨link, drain, begins, -⟩ := waits next
        refine ⟨link.trans own, drain, fun drained => ?_⟩
        rw [drained] at begins
        exact begins
      · obtain ⟨s'', before⟩ := rung.moved.closing m u s' before
        exact h.plain m u s'' before
    · have alive : (r.1.afterClosing n r.2).isAlive u.link = r.1.isAlive u.link :=
        isAlive_of_links links_afterClosing
      rw [alive]
      obtain ⟨-, next, rfl⟩ | ⟨-, before⟩ := closing_afterClosing after
      · obtain ⟨link, -, -, there⟩ := waits next
        exact ⟨fun _ => link ▸ there stage, by simp⟩
      · exact rung.moved.alert h.alert m u s' before stage
    · have shut : IsShut c 0 → IsShut (r.1.afterClosing n r.2) 0 := by
        rw [← comes]
        exact kept
      obtain ⟨-, next, -⟩ | ⟨-, before⟩ := closing_afterClosing after
      · by_cases first : t.stage = .listener
        · have entered := rung.isShut enters next past first
          rw [own] at entered
          exact entered.of_links links_afterClosing
        · cases carries with
          | begins => exact absurd rfl first
          | goesOn => exact shut (h.shut n t _ here first)
      · obtain ⟨s'', before⟩ := rung.moved.closing m u s' before
        exact shut (h.shut m u s'' before past)

/-- Who has its time up was told nothing before, and waited for a process that was there. -/
theorem Steady.late (h : Steady c) (sound : Sound c none lost) (mere : Mere c none)
    (here : (c.step i).calls[n]? = some ⟨.closing t, some .timedOut⟩) (waits : t.stage.awaitsExit) :
    c.calls[n]? = some ⟨.closing t, some .timedOut⟩ ∨
      c.calls[n]? = some ⟨.closing t, none⟩ ∧ c.isAlive t.link ∧
        ∃ moment due d, i = .time moment due ∧ t.stage.deadline? = some d ∧ d ≤ due := by
  cases h.moves (i := i) sound mere with
  | quiet moved => exact .inl (moved.late n t here waits)
  | @passes moment due time =>
    subst time
    obtain before | ⟨-, before, d, deadline, le⟩ := told_passTo here
    · exact .inl before
    · exact .inr ⟨before, (h.alert n t none before waits).1 rfl, moment, due, d, rfl, deadline, le⟩
  | @closes m p u s blows r turn here' carries rises =>
    obtain ⟨rfl, -⟩ := turn
    rw [Client.step, rises.comes] at here
    obtain ⟨-, -, told⟩ | ⟨-, before⟩ := closing_afterClosing here
    · cases told
    · exact .inl (rises.rung.moved.late n t before waits)

section OfProcess

variable {name : String} {policy : Policy} {observed : Bool} {inputs : List Input}

theorem steady_ofProcess : Steady (ofProcess name policy observed) where
  plain := nofun
  alert := nofun
  unanswered := nofun
  shut := nofun

theorem steady_run (fits : ∀ i ∈ inputs, i.Fits (ofProcess name policy observed)) :
    Steady ((ofProcess name policy observed).run inputs) := by
  induction inputs using List.reverseRecOn with
  | nil => exact steady_ofProcess
  | append_singleton inputs i ih =>
    obtain ⟨⟨lost, sound, -⟩, mere, later⟩ := mere_run fits
    rw [run_append]
    exact (ih fun j mem => fits j (List.mem_append_left _ mem)).step sound mere (later i (by simp))

end OfProcess

end LspGateway.Client
