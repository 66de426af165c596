import LspGateway.Proofs.Client.Conveying
import LspGateway.Proofs.Client.Poise
import LspGateway.Proofs.Client.Steadying

/-! # Requests over a connection that is closed

Nothing more is read for a request that is pending when its connection is closed. It ends with an
error that tells of the end of the connection.
-/

namespace LspGateway.Client

variable {hit : Nat → Prop} {c c₁ : Client} {d d₁ : Option Doer} {ls lost : List Loss}
  {l m n id : Nat} {t : Task} {s : Signal} {i : Input} {rest : List Task} {told : Option Signal}

/-! ## Listeners -/

/-- No listener waits over a closed connection while something is pending, but one that is
cancelled. -/
structure Muted (c : Client) : Prop where
  closed : (c.link 0).closed
  ceases : (c.link 0).pending ≠ [] → (c.link 0).listener.phase = .waiting →
    (c.link 0).listener.signal = some .cancelled

/-- Who is cancelled is told nothing else. -/
theorem WatcherPrompt.eq_cancelled {w : Watcher} (why : WatcherPrompt w s)
    (told : w.signal = some .cancelled) : s = .cancelled := by
  cases why with
  | arrival => cases told
  | cancelled => rfl

theorem Action.muted (act : Action hit c d c₁ d₁)
    (apart : ∀ x l, d = some x → x.task ≠ .listener l) (h : Muted c) : Muted c₁ := by
  refine ⟨act.closed_mono h.closed, ?_⟩
  let p (k : Link) : Prop :=
    k.pending ≠ [] → k.listener.phase = .waiting → k.listener.signal = some .cancelled
  let r (k j : Link) : Prop := k.closed → p k → p j
  have refl k : r k k := fun _ h => h
  suffices r : ∀ l, r (c.link l) (c₁.link l) from r 0 h.closed h.ceases
  cases act with
  | tellsListener why =>
    exact rel_link (r := r) refl rfl fun _ h some waits =>
      congrArg Option.some (why.eq_cancelled (h some waits))
  | asks idle left up | mumbles idle left up =>
    refine rel_link (r := r) refl rfl fun closed _ => ?_
    exact absurd (up.symm.trans (Link.isClosed_of_closed closed)) nofun
  | fails idle reason first =>
    refine rel_link (r := r) refl rfl fun _ h _ => h ?_
    rw [first]
    nofun
  | retracts | withdraws | answers | drops =>
    refine rel_link (r := r) refl rfl fun _ h some => h fun none => some ?_
    simp [none]
  | rests task => exact absurd task (apart _ _ rfl)
  | halts task => exact absurd task (apart _ _ rfl)
  | restarts => exact rel_link (r := r) refl rfl fun _ _ _ => nofun
  | connects task done starts cold ps policy =>
    intro k
    rw [link_addLink]
    split
    · exact fun _ _ some => absurd rfl some
    · exact refl _
  | takes how =>
    rw [how.frame]
    exact fun _ => refl _
  | flows | exits | tellsDrain | supersedes | renews | drains | drainRests | drainEnds | shuts
  | expectsEnd => exact rel_link (r := r) refl rfl fun _ h => h
  | _ => exact fun _ => refl _

theorem Path.muted (path : Path hit c d ls c₁ d₁)
    (apart : ∀ x l, d = some x → x.task ≠ .listener l) (h : Muted c) : Muted c₁ := by
  induction path with
  | nil => exact h
  | @step c d c₁ d₁ _ _ _ act _ ih =>
    refine ih ?_ (act.muted apart h)
    rintro y l rfl task
    cases d with
    | none => cases act.none_eq
    | some x => exact apart x l rfl (act.task_eq.1.symm.trans task)
  | @loses c d l id t ls c₂ d₂ _ _ _ _ ih =>
    refine ih apart ⟨?_, fun some waits => ?_⟩
    · exact (link_modifyLink_same (f := fun k => { k with pending := k.pending.filter (·.1 != id) })
        Link.closed fun _ => rfl).trans h.closed
    · have same : ((c.forget l id).link 0).listener = (c.link 0).listener :=
        link_modifyLink_same (f := fun k => { k with pending := k.pending.filter (·.1 != id) })
          Link.listener fun _ => rfl
      rw [same] at waits ⊢
      exact h.ceases (fun none => some (by simp [pending_forget, none])) waits

namespace Muted

/-- A listener that has its turn takes nothing. -/
theorem runListener (h : Muted c) (one : 0 < c.links.length) (some : (c.link 0).pending ≠ [])
    (begins : (c.link 0).listener.phase.isPending) : c.hearTurn 0 = [] ∧
      (((c.runListener 0).link 0).pending = [] ∨
        ((c.runListener 0).link 0).listener.phase = .done) := by
  have ends : ((c.endListener 0).link 0).listener.phase = .done := by
    obtain ⟨ts, e⟩ := wakeTeardowns_frame (c := c.setListener 0 .done) (s := .go)
      fun t => t.link == 0 && t.stage = .listener
    rw [endListener, e]
    exact congrArg (·.listener.phase) (link_modifyLink_self one fun k => { k with
      listener := ⟨.done, none⟩ })
  have closed : ((c.setListener 0 .running).link 0).closed :=
    (link_modifyLink_same (f := fun k => { k with listener := ⟨.running, none⟩ }) Link.closed
      fun _ => rfl).trans h.closed
  have begun : (c.setListener 0 .running).hearBegin 0 = [] ∧
      (((c.setListener 0 .running).beginListening 0 .first).link 0).pending = [] := by
    rw [hearBegin, beginListening, if_pos closed, if_pos closed]
    exact ⟨rfl, pending_stopListening⟩
  have ceases := h.ceases some
  unfold hearTurn Client.runListener
  rcases here : (c.link 0).listener with ⟨p, told⟩
  rw [here] at begins ceases
  cases p with
  | fresh =>
    by_cases cancelled : told = Option.some .cancelled
    · subst cancelled
      simp only [here]
      exact ⟨trivial, .inr ends⟩
    · simp only [here]
      rcases told with _ | _ | _ | _ | _ <;> first
        | exact absurd rfl cancelled
        | exact ⟨begun.1, .inl begun.2⟩
  | waiting =>
    obtain rfl : told = Option.some .cancelled := ceases rfl
    simp only [here]
    exact ⟨trivial, .inl pending_stopListening⟩
  | absent | running | done => cases begins

theorem begin (h : Muted c) (begins : Begins c rest c₁ d)
    (other : ∀ l, c.ready ≠ .listener l :: rest) : Muted c₁ := by
  let r (k j : Link) : Prop :=
    j.closed = k.closed ∧ j.pending = k.pending ∧ j.listener = k.listener
  have same : r (c.link 0) (c₁.link 0) := by
    cases begins with
    | listener ready => exact absurd ready (other _)
    | drain => exact rel_link (c := c) (r := r) (fun _ => ⟨rfl, rfl, rfl⟩) rfl ⟨rfl, rfl, rfl⟩ 0
    | _ => exact ⟨rfl, rfl, rfl⟩
  obtain ⟨closed, pending, listener⟩ := same
  exact ⟨closed ▸ h.closed, by rw [pending, listener]; exact h.ceases⟩

theorem step (h : Muted c) (sound : Sound c none lost) (mere : Mere c none) (fits : i.Fits c) :
    Muted (c.step i) := by
  by_cases turns : i = .turn
  · subst turns
    rcases first : c.ready with _ | ⟨u, rest⟩
    · have rests : c.step .turn = c := by rw [Client.step, turn, first]
      rwa [rests]
    · by_cases listens : ∃ l, u = .listener l
      · obtain ⟨l, rfl⟩ := listens
        obtain rfl := listener_eq_zero sound mere first
        obtain ⟨-, closed⟩ := invariant_closed.step trivial fits sound h.closed
        refine ⟨closed, fun some waits => ?_⟩
        exfalso
        have before : (c.link 0).pending ≠ [] := fun none =>
          some (invariant_pending_closed.step trivial fits sound ⟨h.closed, none⟩).2.2
        obtain ⟨⟨⟩⟩ | ⟨begins, -⟩ := sound.queue.canGo (.listener 0) (by simp [first])
        have one : 0 < c.links.length := by rw [mere.links]; exact Nat.one_pos
        have muted : Muted ({ c with ready := rest } : Client) := ⟨h.closed, h.ceases⟩
        have comes : c.step .turn = ({ c with ready := rest } : Client).runListener 0 :=
          turn_listener first
        rw [comes] at some waits
        obtain none | ended := (muted.runListener one before begins).2
        · exact some none
        · cases ended.symm.trans waits
      · obtain ⟨c₁, d, begins, path⟩ := @path_turn_of_ready NoHit c sound.fit u rest first
        have other l : c.ready ≠ .listener l :: rest := fun ready =>
          listens ⟨l, (List.cons.inj (first.symm.trans ready)).1⟩
        refine path.muted ?_ (h.begin begins other)
        rintro x l rfl task
        exact other l (task ▸ begins.first)
  · refine (path_input i fits turns).muted ?_ h
    rintro x l ⟨⟩

end Muted

/-! ## Who waits for an answer -/

/-- The connection has ended before an answer. -/
def Signal.isEnd (s : Signal) : Prop := ∃ reason, s = .answered (.error (.ended reason))

/-- A call that waits for the answer to a request was told nothing else than that the connection
has ended. -/
structure Fated (c : Client) (m id : Nat) : Prop where
  expects : (c.role (.call m)).expects = some (0, id)
  pending : c.told (.call m) = none → (id, .call m) ∈ (c.link 0).pending
  fate : ∀ s, c.told (.call m) = some s → s.isEnd

theorem awaiting_of_expects {p : CallPhase} (waits : p.role.expects.isSome)
    (stays : p.role.errand ≠ .disposes) : ∃ l id sends, p = .awaiting l id sends := by
  cases p with
  | awaiting l id sends => exact ⟨l, id, sends, rfl⟩
  | shuttingDown => exact absurd rfl stays
  | _ => cases waits

theorem live_of_expects (waits : (c.role (.call m)).expects.isSome) :
    (c.standing (.call m)).live = true := by
  rcases here : c.calls[m]? with _ | ⟨p, told⟩
  · simp [role, standing, here, Standing.absent, Role.idle] at waits
  · rw [role, standing_of_call here] at waits
    rw [standing_of_call here]
    cases p <;> first | rfl | cases waits

/-- Who waits for an answer is told while nobody listens only that the connection has ended. -/
theorem Prompts.isEnd (why : Prompts hit c d (.call m) s) (safe : ¬ hit m)
    (quiet : ∀ l, ¬ Hears d l) (waits : (c.role (.call m)).expects.isSome)
    (stays : (c.role (.call m)).errand ≠ .disposes) : s.isEnd := by
  cases why with
  | @call _ k _ here why outside =>
    rw [role, standing_of_call here] at waits stays
    obtain ⟨l, id, sends, phase⟩ := awaiting_of_expects waits stays
    obtain ⟨p, told⟩ := k
    obtain rfl : p = .awaiting l id sends := phase
    cases why with
    | step teardown => cases teardown
    | late deadline => cases deadline
    | cancelled => exact absurd (outside rfl) safe
  | answer pending heeds good heard =>
    obtain hears | ⟨reason, rfl⟩ := heard
    · exact absurd hears (quiet _)
    · exact ⟨reason, rfl⟩

theorem Path.isEnd (path : Path hit c d ls c₁ d₁) (q : Queue c (turnOf d))
    (apart : turnOf d ≠ some (.call m)) (safe : ¬ hit m) (quiet : ∀ l, ¬ Hears d l)
    (waits : (c.role (.call m)).expects.isSome) (stays : (c.role (.call m)).errand ≠ .disposes)
    (h : ∀ s, c.told (.call m) = some s → s.isEnd) :
    ∀ s, c₁.told (.call m) = some s → s.isEnd := by
  induction path with
  | nil => exact h
  | @step c d c₁ d₁ _ _ _ act _ ih =>
    have role : c₁.role (.call m) = c.role (.call m) := by
      obtain same | ⟨-, job, -, e, -⟩ := act.role_other apart
      · exact same
      · rw [e] at waits
        simp [Client.role, standing, Standing.absent, Role.idle] at waits
    refine ih (act.queue q) (act.apart apart) (fun l hears => quiet l (act.hears hears))
      (by rwa [role]) (by rwa [role]) fun s told => ?_
    obtain same | ⟨s₁, same, why⟩ | ⟨dead, -⟩ := act.stirs apart
    · rw [Client.told, same] at told
      exact h s told
    · rw [Client.told, same] at told
      obtain rfl : s₁ = s := Option.some.inj told
      exact why.isEnd safe quiet waits stays
    · exact absurd dead (by simp [live_of_expects waits])
  | @loses c d l id t ls c₂ d₂ _ _ _ _ ih =>
    have same u : (c.forget l id).standing u = c.standing u := standing_forget
    exact ih (q.congr same rfl fun u => has_modifyLink.mpr) apart quiet (by rwa [role, same])
      (by rwa [role, same]) fun s told => h s (by rwa [Client.told, same] at told)

namespace Fated

theorem congr (h : Fated c m id) (same : c₁.standing (.call m) = c.standing (.call m))
    (pending : (c₁.link 0).pending = (c.link 0).pending) : Fated c₁ m id := by
  have told : c₁.told (.call m) = c.told (.call m) := congrArg Standing.told same
  have role : c₁.role (.call m) = c.role (.call m) := congrArg Standing.role same
  exact ⟨role ▸ h.expects, fun untold => pending ▸ h.pending (told ▸ untold),
    fun s e => h.fate s (told ▸ e)⟩

/-- No message was taken. -/
theorem heard (h : Fated c m id) (heard : c.told (.call m) = none → Heard c 0 id (.call m) [] c₁)
    (apart : c.told (.call m) ≠ none → c₁.standing (.call m) = c.standing (.call m)) :
    Fated c₁ m id := by
  cases untold : c.told (.call m) with
  | none =>
    cases heard untold with
    | waits _ awaits => exact ⟨awaits.expects, fun _ => awaits.pending, fun s told => by
        rw [awaits.untold] at told
        cases told⟩
    | ends _ reason told =>
      have role : c₁.role (.call m) = c.role (.call m) := by rw [role, told, role]
      have told : c₁.told (.call m) = some (.answered (.error (.ended reason))) := by
        rw [Client.told, told]
      refine ⟨role ▸ h.expects, fun none => ?_, fun s e => ?_⟩
      · cases told.symm.trans none
      · obtain rfl := Option.some.inj (told.symm.trans e)
        exact ⟨reason, rfl⟩
    | answered answer => cases answer
  | some s =>
    have same := apart (by simp [untold])
    have told : c₁.told (.call m) = c.told (.call m) := congrArg Standing.told same
    have role : c₁.role (.call m) = c.role (.call m) := congrArg Standing.role same
    refine ⟨role ▸ h.expects, fun none => ?_, fun s e => h.fate s (told ▸ e)⟩
    cases (told.trans untold).symm.trans none

theorem isSome (h : Fated c m id) : (c.role (.call m)).expects.isSome := by
  rw [h.expects]
  rfl

/-- Who listens over a closed connection is turned away. -/
theorem startListening (h : Fated c m id) (closed : (c.link 0).closed)
    (awaits : c.told (.call m) = none → Awaits c 0 id (.call m)) :
    Fated (c.startListening 0) m id := by
  have caller : Task.isCaller (.call m) := rfl
  unfold Client.startListening
  dsimp only
  split
  · exact h
  · have same : (c.renewListener 0).standing (.call m) = c.standing (.call m) :=
      standing_caller caller rfl rfl
    have pending : ((c.renewListener 0).link 0).pending = (c.link 0).pending :=
      link_modifyLink_same Link.pending fun _ => rfl
    have renewed : Fated (c.renewListener 0) m id := h.congr same pending
    have silent : (c.renewListener 0).hearBegin 0 = [] := by
      refine if_pos (Eq.trans ?_ closed)
      exact link_modifyLink_same Link.closed fun _ => rfl
    refine renewed.heard (fun untold => ?_) fun told => ?_
    · have untold : c.told (.call m) = none := by rwa [Client.told, same] at untold
      exact silent ▸ ((awaits untold).congr same pending).beginListening
    · exact standing_beginListening renewed.isSome fun h => told h.2
  · exact h.congr (standing_caller caller rfl rfl) (link_modifyLink_same Link.pending fun _ => rfl)

section Step

variable (sound : Sound c none lost) (mere : Mere c none)

include sound mere

theorem stays (_ : Fated c m id) : (c.role (.call m)).errand ≠ .disposes :=
  mere.errand_ne sound.bounds (.call m)

/-- A step in which nobody listens. -/
theorem quiet (h : Fated c m id)
    (unlost : (id, .call m) ∈ (c.link 0).pending → ⟨0, id, .call m⟩ ∉ lost) (fits : i.Fits c)
    (apart : ¬ c.IsTurn m i) (spares : i ≠ .cancel m)
    (deaf : i = .turn → ∀ u rest, c.ready = u :: rest →
      (∀ l, u ≠ .listener l) ∧ (c.role u).errand ≠ .listens) : Fated (c.step i) m id := by
  have waits := h.isSome
  have stays := h.stays sound mere
  have here : m < c.calls.length := by
    by_contra out
    have absent : c.calls[m]? = none := List.getElem?_eq_none (Nat.le_of_not_lt out)
    simp [role, standing, absent, Standing.absent, Role.idle] at waits
  have safe : ¬ i.hits c m := by
    cases i with
    | cancel k => exact fun struck => spares (congrArg Input.cancel struck.1.symm)
    | call job => exact fun struck => absurd here (struck ▸ Nat.lt_irrefl _)
    | _ => exact fun struck => struck
  have unlost₁ : c.lossOfStep i = none := by
    by_cases turns : i = .turn
    · subst turns
      rw [lossOfStep]
      rcases first : c.ready with _ | ⟨u, rest⟩
      · rw [lossOfTurn, first]
      · obtain ⟨silent, listens⟩ := deaf rfl u rest first
        exact (silent_turn (l := 0) first silent listens).2
    · cases i <;> first | rfl | exact absurd rfl turns
  have role : (c.step i).role (.call m) = c.role (.call m) := by
    obtain ⟨s, after⟩ := call_kept sound fits apart (List.getElem?_eq_getElem here)
    rw [Client.role, standing_of_call after, Client.role,
      standing_of_call (List.getElem?_eq_getElem here)]
    rfl
  refine ⟨role ▸ h.expects, fun none => ?_, ?_⟩
  · have untold : c.told (.call m) = .none := by
      refine Option.not_isSome_iff_eq_none.mp fun some => ?_
      have := told_step sound fits apart some
      rw [none] at this
      cases this
    obtain ⟨sound₁, -⟩ := invariant_true.step trivial fits sound trivial
    rw [unlost₁, Option.toList_none, List.append_nil] at sound₁
    have expects : (roleBy (c.step i) .none (.call m)).expects = some (0, id) :=
      (congrArg Role.expects role).trans h.expects
    exact (sound₁.requests.waits _ _ _ expects none).resolve_right (unlost (h.pending untold))
  · have outside {ls : List Loss} (path : Path (i.hits c) c .none ls (c.step i) .none) :
        ∀ s, (c.step i).told (.call m) = some s → s.isEnd := by
      refine path.isEnd sound.queue turnOf_none_ne safe ?_ waits stays h.fate
      rintro l ⟨x, ⟨⟩, -⟩
    by_cases turns : i = .turn
    · subst turns
      obtain path | ⟨rest, c₁, d, begins, path⟩ := path_step sound.fit .turn fits
      · exact outside path
      · have own := apart_of_head begins fun head => apart ⟨rfl, head⟩
        have same := begins.standing own
        refine path.isEnd (begins.queue sound.queue) own safe ?_ (by rwa [Client.role, same])
          (by rwa [Client.role, same]) fun s told => h.fate s (by rwa [Client.told, same] at told)
        rintro l ⟨x, rfl, task | errand⟩
        · exact (deaf rfl _ _ begins.first).1 l task
        · refine (deaf rfl _ _ begins.first).2 ?_
          rwa [begins.turn.2.2.1] at errand
    · exact outside (path_input i fits turns)

/-- A call has its turn that listens. -/
theorem turn_listen (h : Fated c m id) (closed : (c.link 0).closed)
    (first : c.ready = .call n :: rest)
    (here : c.calls[n]? = some ⟨.fresh .listen, some s⟩) (apart : n ≠ m) : Fated c.turn m id := by
  let b : Client := ({ c with ready := rest } : Client).setCall n .running
  have put {b : Client} {p : CallPhase} :
      (b.setCall n p).standing (.call m) = b.standing (.call m) := by
    rw [setCall_eq, standing_putCall, if_neg fun h => apart (Task.call.inj h.1).symm]
  have begun : Fated b m id := h.congr put rfl
  have ended {b : Client} {o : Outcome} (h : Fated b m id) : Fated (b.finish n o) m id :=
    h.congr put rfl
  have awaits (untold : b.told (.call m) = none) : Awaits b 0 id (.call m) := by
    have same : b.told (.call m) = c.told (.call m) := congrArg Standing.told put
    rw [same] at untold
    exact (sound.requests.awaits h.expects untold (h.pending untold)).congr put rfl
  have held : b.heldLink = 0 := heldLink_of_used (c := c) mere
  have started : Fated (b.startListening b.heldLink) m id :=
    held ▸ begun.startListening closed awaits
  rw [turn_call first here, Option.getD_some, resumeCall]
  split
  · exact ended begun
  · exact ended started

/-- A listener has its turn. -/
theorem turn_listener (h : Fated c m id) (muted : Muted c) (first : c.ready = .listener 0 :: rest) :
    Fated c.turn m id := by
  let b : Client := { c with ready := rest }
  have begun : Fated b m id := h.congr rfl rfl
  have one : 0 < b.links.length := by
    rw [show b.links = c.links from rfl, mere.links]
    exact Nat.one_pos
  obtain ⟨⟨⟩⟩ | ⟨begins, -⟩ := sound.queue.canGo (.listener 0) (by simp [first])
  rw [Client.turn_listener first]
  have turn : ListenerTurn b 0 (b.runListener 0) (b.hearTurn 0) := listenerTurn
  refine begun.heard (fun untold => ?_) fun told => ?_
  · have pending := h.pending untold
    have muted : Muted b := ⟨muted.closed, muted.ceases⟩
    have silent : b.hearTurn 0 = [] :=
      (muted.runListener one (List.ne_nil_of_mem pending) begins).1
    have awaits : Awaits b 0 id (.call m) :=
      (sound.requests.awaits h.expects untold pending).congr rfl rfl
    exact silent ▸ awaits.listenerTurn turn
  · exact turn.apart begun.isSome fun h => told h.2

/-- A step over a closed connection. -/
theorem step (h : Fated c m id) (muted : Muted c)
    (unlost : (id, .call m) ∈ (c.link 0).pending → ⟨0, id, .call m⟩ ∉ lost) (fits : i.Fits c)
    (apart : ¬ c.IsTurn m i) (spares : i ≠ .cancel m) : Fated (c.step i) m id := by
  by_cases deaf : i = .turn → ∀ u rest, c.ready = u :: rest →
      (∀ l, u ≠ .listener l) ∧ (c.role u).errand ≠ .listens
  · exact h.quiet sound mere unlost fits apart spares deaf
  · simp only [not_forall] at deaf
    obtain ⟨rfl, u, rest, first, hears⟩ := deaf
    by_cases listener : ∃ l, u = .listener l
    · obtain ⟨l, rfl⟩ := listener
      obtain rfl := listener_eq_zero sound mere first
      exact h.turn_listener sound mere muted first
    · obtain listens : (c.role u).errand = .listens := by
        by_contra other
        exact hears ⟨fun l e => listener ⟨l, e⟩, other⟩
      obtain ⟨n, told, rfl, here⟩ := listens_of_role listens
      obtain ⟨p, s, here'⟩ := exists_call sound (n := n) (by rw [first, List.head?_cons])
      cases here.symm.trans here'
      refine h.turn_listen sound mere muted.closed first here fun same => apart ⟨rfl, ?_⟩
      rw [first, same, List.head?_cons]

end Step

end Fated

/-! ## Runs -/

/-- A request has ended with the connection, or is about to. -/
def Resigned (c : Client) (m id : Nat) : Prop :=
  Fated c m id ∨ ∃ reason, c.callOutcome? m = some (.error (.ended reason))

/-- Who was told that the connection has ended ends with that. -/
theorem Fated.ends (h : Fated c m id) (sound : Sound c none lost) (mere : Mere c none)
    (head : c.ready.head? = some (.call m)) :
    ∃ reason, c.turn.callOutcome? m = some (.error (.ended reason)) := by
  obtain ⟨p, s, here⟩ := exists_call sound head
  obtain ⟨rest, first⟩ := List.head?_eq_some_iff.mp head
  have waits := h.isSome
  have stays := h.stays sound mere
  rw [role, standing_of_call here] at waits stays
  obtain ⟨l, id, sends, rfl⟩ := awaiting_of_expects waits stays
  obtain ⟨reason, rfl⟩ := h.fate s (congrArg Standing.told (standing_of_call here))
  have lt : m < (({ c with ready := rest } : Client).setCall m .running).calls.length := by
    simpa [setCall] using (List.getElem?_eq_some_iff.mp here).1
  rw [turn_call first here, Option.getD_some]
  exact ⟨reason, callOutcome_finish lt⟩

theorem Resigned.step (h : Resigned c m id) (muted : Muted c) (sound : Sound c none lost)
    (mere : Mere c none)
    (lingers : ∀ l id n, ⟨l, id, .call n⟩ ∈ lost → Lingers n l id c none)
    (fits : i.Fits c) (spares : i ≠ .cancel m) : Resigned (c.step i) m id := by
  obtain fated | ⟨reason, ended⟩ := h
  · by_cases own : c.IsTurn m i
    · obtain ⟨rfl, head⟩ := own
      exact .inr (fated.ends sound mere head)
    · exact .inl (fated.step sound mere muted (not_lost lingers fated.isSome) fits own spares)
  · obtain ⟨s, here⟩ := callOutcome_eq_some.mp ended
    have apart : ¬ c.IsTurn m i := by
      rintro ⟨-, head⟩
      obtain ⟨⟨⟩⟩ | ⟨live, -⟩ := sound.queue.canGo (.call m) (List.mem_of_head? head)
      rw [standing_of_call here] at live
      cases live
    exact .inr ⟨reason, callOutcome_eq_some.mpr (call_kept sound fits apart here)⟩

section OfProcess

variable {name : String} {policy : Policy} {observed : Bool} {before after : List Input}

theorem resigned_run (fits : ∀ i ∈ before ++ after, i.Fits (ofProcess name policy observed))
    (muted : Muted ((ofProcess name policy observed).run before))
    (resigned : Resigned ((ofProcess name policy observed).run before) m id)
    (spares : .cancel m ∉ after) :
    Muted ((ofProcess name policy observed).run (before ++ after)) ∧
      Resigned ((ofProcess name policy observed).run (before ++ after)) m id := by
  induction after using List.reverseRecOn with
  | nil => exact (List.append_nil before).symm ▸ ⟨muted, resigned⟩
  | append_singleton after i ih =>
    rw [← List.append_assoc] at fits ⊢
    obtain ⟨⟨lost, sound, lingers⟩, mere, later⟩ := mere_run fits
    obtain ⟨muted, resigned⟩ := ih (fun j mem => fits j (List.mem_append_left _ mem))
      fun mem => spares (List.mem_append_left _ mem)
    have fit := later i (by simp)
    rw [run_append]
    refine ⟨muted.step sound mere fit, resigned.step muted sound mere lingers fit ?_⟩
    rintro rfl
    exact spares (by simp)

end OfProcess

end LspGateway.Client
