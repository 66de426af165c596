import LspGateway.Proofs.Client.Sorting

/-! # How often the end of a stream is told of

A listener that ends tells of the end of its stream, or of what broke it, at most once, and only if
the end was not to be expected. So an observer is told at most once for each listener that was
started, and never after the connection was closed or its end was announced.
-/

namespace LspGateway.Client

variable {hit : Nat → Prop} {c c₁ : Client} {d d₁ : Option Doer} {ls lost : List Loss} {x : Doer}
  {l n fuel : Nat} {i : Input} {m : Json} {inputs rest : List Input} {turn : Turn}
  {reading : Wire.Reading}

/-- How often an observer was told of the end of the stream, or that it broke. -/
def ends (c : Client) : Nat := c.traffic.countP Event.isEnd

theorem ends_congr (same : c₁.traffic = c.traffic) : c₁.ends = c.ends := by rw [ends, same, ends]

theorem isEnd_reaction (k : Link) (who : Audience) (m : Json) :
    (k.reaction who m).countP Event.isEnd = 0 := by
  unfold Link.reaction
  split
  · split <;> rfl
  · split <;> rfl
  · rfl

theorem ends_dispatch : (c.dispatch 0 m).1.ends = c.ends := by
  rw [ends, traffic_dispatch, List.countP_append, isEnd_reaction, Nat.add_zero, ends]

/-- The end of the stream is told of once at most, and then something has ended. -/
def TellsOnce (c c₁ : Client) (ended : Prop) : Prop :=
  c₁.ends = c.ends ∨ c₁.ends = c.ends + 1 ∧ ended

theorem TellsOnce.after {b : Client} {ended : Prop} (h : TellsOnce b c₁ ended)
    (same : b.ends = c.ends) : TellsOnce c c₁ ended := by
  rw [TellsOnce, ← same]
  exact h

theorem tellsOnce_stopAfter {reason : Ending} {announce : Client → Client} {e : Event}
    (here : 0 < c.links.length) (here' : 0 < (announce c).links.length)
    (told : (announce c).traffic = c.traffic ++ if c.audience = .observer then [e] else []) :
    TellsOnce c (c.stopAfter 0 turn reason announce)
      (turn = .first → Over (c.stopAfter 0 turn reason announce)) := by
  have counted : (c.stopAfter 0 turn reason announce).ends = c.ends ∨
      (c.stopAfter 0 turn reason announce).ends = c.ends + 1 := by
    unfold stopAfter
    dsimp only
    split
    · exact .inl (ends_congr traffic_stopListening)
    · rw [ends, traffic_stopListening, told, List.countP_append]
      split
      · rw [List.countP_singleton]
        split
        · exact .inr rfl
        · exact .inl rfl
      · exact .inl rfl
  refine counted.imp_right fun once => ⟨once, ?_⟩
  rintro rfl
  exact over_stopAfter here reason here'

theorem tellsOnce_stopAfterFault {f : Wire.Fault} (off : c.audience ≠ .client)
    (here : 0 < c.links.length) :
    TellsOnce c (c.stopAfterFault 0 turn f) (turn = .first → Over (c.stopAfterFault 0 turn f)) := by
  refine tellsOnce_stopAfter (e := .broke f) here ?_ ?_
  all_goals
    unfold announceFault
    split <;> rename_i who
    · exact absurd who off
  · exact here
  · exact here
  · simp [who, traffic_event, Event.passes]
  · simp [who]

theorem tellsOnce_stopAfterEnd (off : c.audience ≠ .client) (here : 0 < c.links.length) :
    TellsOnce c (c.stopAfter 0 turn .byServer (·.announceEnd 0))
      (turn = .first → Over (c.stopAfter 0 turn .byServer (·.announceEnd 0))) := by
  refine tellsOnce_stopAfter (e := .ended) here ?_ ?_
  all_goals
    unfold announceEnd
    split <;> rename_i who
    · exact absurd who off
  · exact here
  · exact here
  · simp [who, traffic_event, Event.passes]
  · simp [who]

/-- A listener tells of the end once at most, and the first one is over then. -/
theorem tellsOnce_listen (off : c.audience ≠ .client) (here : 0 < c.links.length) :
    TellsOnce c (listen 0 turn fuel reading c)
      (turn = .first → Over (listen 0 turn fuel reading c)) := by
  induction fuel generalizing c reading with
  | zero =>
    unfold listen
    split
    · exact .inl (ends_congr traffic_pauseListening)
    · exact .inl rfl
  | succ fuel ih =>
    have set (rest : List UInt8) : (c.setOutput 0 rest).ends = c.ends := ends_congr traffic_setOutput
    have here' (rest : List UInt8) : 0 < (c.setOutput 0 rest).links.length := by
      rwa [setOutput, modifyProcess, links_length_modifyLink]
    unfold listen
    cases Wire.next (c.process 0).output reading with
    | unfinished r rest =>
      cases turn with
      | first => exact .inl ((ends_congr traffic_pauseListening).trans (set rest))
      | later =>
        exact (tellsOnce_stopAfterFault (c := c.setOutput 0 rest) off (here' rest)).after (set rest)
    | fault f rest =>
      exact (tellsOnce_stopAfterFault (c := c.setOutput 0 rest) off (here' rest)).after (set rest)
    | ended rest =>
      exact (tellsOnce_stopAfterEnd (c := c.setOutput 0 rest) off (here' rest)).after (set rest)
    | message m rest =>
      have same : ((c.setOutput 0 rest).dispatch 0 m).1.ends = c.ends := ends_dispatch.trans (set rest)
      have length : ((c.setOutput 0 rest).dispatch 0 m).1.links.length = _ := links_length_dispatch
      have audience : ((c.setOutput 0 rest).dispatch 0 m).1.audience = c.audience :=
        frame_dispatch.audience
      dsimp only
      generalize (c.setOutput 0 rest).dispatch 0 m = a at *
      obtain ⟨b, _ | fault⟩ := a
      · dsimp only at same length audience ⊢
        split
        · exact .inl ((ends_congr traffic_stopListening).trans same)
        · exact (ih (audience ▸ off) (length ▸ here' rest)).after same
      · exact .inl ((ends_congr traffic_crashListening).trans same)

/-! ## Steps -/

/-- A listener begins or comes to run only by who listens, or with a new link. -/
theorem Action.isPending_listener (act : Action hit c d c₁ d₁) (quiet : ∀ l, ¬ Hears d l)
    (links : ∀ x n, d = some x → x.task ≠ .attempt n)
    (pending : (c₁.link l).listener.phase.isPending) : (c.link l).listener.phase.isPending := by
  let r (k j : Link) : Prop := j.listener.phase.isPending → k.listener.phase.isPending
  have refl k : r k k := fun h => h
  cases act with
  | connects task => exact absurd task (links _ _ rfl)
  | rests task | halts task => exact absurd ⟨_, rfl, .inl task⟩ (quiet _)
  | restarts task listens => exact absurd ⟨_, rfl, .inr listens⟩ (quiet l)
  | supersedes listens | renews listens => exact absurd ⟨_, rfl, .inr listens⟩ (quiet l)
  | takes how => rwa [how.frame] at pending
  | flows | exits | tellsListener | tellsDrain | asks | mumbles | retracts | withdraws | answers
  | drops | fails | drains | drainRests | drainEnds | shuts | expectsEnd =>
    exact rel_link (r := r) refl rfl (fun h => h) l pending
  | _ => exact pending

theorem Path.isPending_listener (path : Path hit c d ls c₁ d₁) (quiet : ∀ l, ¬ Hears d l)
    (links : ∀ x n, d = some x → x.task ≠ .attempt n)
    (pending : (c₁.link l).listener.phase.isPending) : (c.link l).listener.phase.isPending := by
  induction path with
  | nil => exact pending
  | @step c d b d' ls c₂ d₂ act _ ih =>
    refine act.isPending_listener quiet links (ih (fun l hears => quiet l (act.hears hears)) ?_ pending)
    rintro y n rfl task
    cases d with
    | none => cases act.none_eq
    | some x => exact links x n rfl (act.task_eq.1 ▸ task)
  | @loses c d k id t ls c₂ d₂ _ _ _ _ ih =>
    have kept : ((c.forget k id).link l).listener = (c.link l).listener :=
      link_modifyLink_same Link.listener fun _ => rfl
    have before := ih quiet links pending
    rwa [kept] at before

/-- A call of the given kind begins in a step: it has its turn and was not cancelled. -/
def enters (c : Client) (i : Input) (job : Job) : Bool :=
  i = .turn && match c.ready with
    | .call n :: _ => c.calls[n]?.any fun k => k.phase = .fresh job && k.signal ≠ some .cancelled
    | _ => false

/-- The call that begins is the first in the queue. -/
theorem first_of_enters {job : Job} (h : c.enters i job) : i = .turn ∧ ∃ n rest s,
    c.ready = .call n :: rest ∧ c.calls[n]? = some ⟨.fresh job, s⟩ ∧ s ≠ some .cancelled := by
  unfold enters at h
  split at h
  · next n rest first =>
    obtain ⟨turns, h⟩ := Bool.and_eq_true_iff.mp h
    obtain ⟨⟨p, s⟩, here, h⟩ := Option.any_eq_true _ _ |>.mp h
    obtain ⟨rfl, goes⟩ : p = .fresh job ∧ s ≠ some .cancelled := by simpa using h
    exact ⟨by simpa using turns, n, rest, s, first, here, goes⟩
  · simp at h

/-- A listener is started. -/
def starts (c : Client) (i : Input) : Bool := c.enters i .listen

/-- Counts the listeners that may still tell of the end. -/
def listening (c : Client) : Nat := if (c.link 0).listener.phase.isPending then 1 else 0

theorem listening_le : c.listening ≤ 1 := by
  unfold listening
  split
  · exact Nat.le_refl 1
  · exact Nat.zero_le 1

theorem listening_over (ended : c.Over) : c.listening = 0 := by
  rw [listening, ended]
  rfl

theorem listening_mono (h : (c₁.link 0).listener.phase.isPending →
    (c.link 0).listener.phase.isPending) : c₁.listening ≤ c.listening := by
  unfold listening
  split
  · next pending => rw [if_pos (h pending)]
  · exact Nat.zero_le _

/-- In its turn a listener tells of the end once at most, and is over then. -/
theorem tellsOnce_turn {ms : List Json} (h : ListenerTurn c 0 c₁ ms) (off : c.audience ≠ .client)
    (here : 0 < c.links.length) : TellsOnce c c₁ c₁.Over := by
  have here' : 0 < (c.setListener 0 .running).links.length := by
    rwa [setListener, links_length_modifyLink]
  have listened (fuel : Nat) (reading : Wire.Reading) :
      TellsOnce c (listen 0 .first fuel reading (c.setListener 0 .running))
        (listen 0 .first fuel reading (c.setListener 0 .running)).Over := by
    have told : TellsOnce (c.setListener 0 .running)
        (listen 0 .first fuel reading (c.setListener 0 .running)) _ := tellsOnce_listen off here'
    exact (told.after (ends_congr traffic_setListener)).imp_right fun once => ⟨once.1, once.2 rfl⟩
  cases h with
  | ends => exact .inl (ends_congr traffic_endListener)
  | stops => exact .inl (ends_congr traffic_stopListening)
  | begins =>
    unfold beginListening
    split
    · exact .inl (ends_congr traffic_stopListening)
    · exact listened _ _
  | goesOn reading => exact listened _ _

section Turn

variable {ts : List Task} {t : Task} (sound : Sound c none lost) (mere : Mere c none)
  (first : c.ready = t :: ts)

include sound mere first

/-- Who does not listen begins no listener. -/
theorem listening_turn (apart : ∀ l, t ≠ .listener l) (other : (c.role t).errand ≠ .listens) :
    c.turn.listening ≤ c.listening := by
  obtain ⟨b, d, begins, path⟩ := @path_turn_of_ready NoHit c sound.fit t ts first
  have sound' := begins.sound sound
  have mere' := begins.mere sound.queue mere
  have own x (turn : d = some x) : x.task = t := by
    subst turn
    have := begins.first
    rw [first] at this
    exact (List.cons.inj this).1.symm
  refine listening_mono fun pending => ?_
  have before := path.isPending_listener ?_ ?_ pending
  · have same : (b.link 0).listener = (c.link 0).listener := by
      cases begins with
      | @listener l s p ready =>
        rw [first] at ready
        exact absurd (List.cons.inj ready).1 (apart l)
      | drain =>
        exact link_modifyLink_same (c := { c with ready := ts }) Link.listener fun _ => rfl
      | _ => rfl
    rwa [same] at before
  · rintro l ⟨x, turn, task | errand⟩
    · exact apart l ((own x turn).symm.trans task)
    · have began := begins.role t
      rw [← own x turn, turn, roleBy_self rfl, own x turn] at began
      obtain same | ⟨-, same⟩ := began <;> rw [same] at errand <;> exact other errand
  · rintro x n rfl task
    exact mere'.ne_attempt sound'.queue task

end Turn

/-- What a listener has told, with what one that listens may still tell. -/
def tales (c : Client) : Nat := c.ends + c.listening

theorem tales_le (ends : c₁.ends = c.ends) (listening : c₁.listening ≤ c.listening) :
    c₁.tales ≤ c.tales :=
  Nat.add_le_add (Nat.le_of_eq ends) listening

/-- A listener that has its turn may be over when it tells of the end. -/
theorem tales_listener {ts : List Task} (sound : Sound c none lost) (mere : Mere c none)
    (first : c.ready = .listener l :: ts) : c.turn.tales ≤ c.tales := by
  obtain rfl := listener_eq_zero sound mere first
  have one : 0 < c.links.length := by rw [mere.links]; exact Nat.one_pos
  have waits := (sound.queue.canGo _ (by rw [first]; exact List.mem_cons_self)).resolve_left
    (by simp [Task.isRelay])
  have listening : c.listening = 1 := if_pos waits.1
  have told : TellsOnce c c.turn c.turn.Over := by
    rw [turn_listener first]
    exact (tellsOnce_turn (c := { c with ready := ts }) listenerTurn mere.observed one).after rfl
  rw [tales, tales, listening]
  obtain same | ⟨once, ended⟩ := told
  · exact Nat.add_le_add (Nat.le_of_eq same) listening_le
  · rw [once, listening_over ended]

/-- A call that listens leaves the listener that waits, or starts another one. -/
theorem tales_listen {ts : List Task} {s : Option Signal} (mere : Mere c none)
    (first : c.ready = .call n :: ts) (here : c.calls[n]? = some ⟨.fresh .listen, s⟩)
    (goes : s ≠ some .cancelled) : c.turn.tales ≤ c.tales + 1 := by
  let b : Client := ({ c with ready := ts } : Client).setCall n .running
  have one : 0 < b.links.length := by
    rw [show b.links = c.links from rfl, mere.links]
    exact Nat.one_pos
  have held : b.heldLink = 0 := by
    rw [heldLink, show b.held.connection = some 0 from mere.used]
    rfl
  have go : s.getD .go ≠ .cancelled := by
    cases s with
    | none => simp
    | some s => exact fun e => goes (congrArg some e)
  have turn : c.turn = (b.startListening 0).succeed n := by
    rw [turn_call first here, resumeCall, if_neg go, beginCall, held]
  have ended : c.turn.ends = (b.startListening 0).ends := by
    rw [turn]
    exact ends_congr traffic_finish
  have listening : c.turn.listening = (b.startListening 0).listening := by rw [turn]; rfl
  rw [tales, tales, ended, listening]
  unfold startListening
  cases phase : (b.link 0).listener.phase with
  | fresh =>
    have same : c.ends + c.listening ≤ c.ends + c.listening + 1 := Nat.le_succ _
    exact same
  | waiting =>
    have link : (b.renewListener 0).link 0 =
        { b.link 0 with crash := none, superseded := false } := link_modifyLink_self one _
    have one' : 0 < (b.renewListener 0).links.length := (links_length_modifyLink _).symm ▸ one
    have told : ((b.renewListener 0).beginListening 0 .later).ends ≤ c.ends + 1 ∧
        ((b.renewListener 0).beginListening 0 .later).listening ≤ c.listening := by
      unfold beginListening
      split
      · refine ⟨Nat.le_trans (Nat.le_of_eq (ends_congr traffic_stopListening)) (Nat.le_succ _), ?_⟩
        refine listening_mono fun pending => ?_
        rwa [listener_stopLater, link] at pending
      · refine ⟨?_, listening_mono fun pending => ?_⟩
        · have told : TellsOnce (b.renewListener 0)
              ((b.renewListener 0).listenFrom 0 .later .start) _ :=
            tellsOnce_listen mere.observed one'
          obtain same | ⟨once, -⟩ := told
          · exact Nat.le_trans (Nat.le_of_eq same) (Nat.le_succ _)
          · exact Nat.le_of_eq once
        · have off : (b.renewListener 0).audience ≠ .client := mere.observed
          rw [listenFrom, listener_listen_later off one', link] at pending
          exact pending
    dsimp only
    exact Nat.le_trans (Nat.add_le_add told.1 told.2) (by omega)
  | _ => exact Nat.le_trans (Nat.add_le_add (Nat.le_refl c.ends) listening_le) (by omega)

/-- A step makes no more tales unless a listener is started in it. -/
theorem tales_step (sound : Sound c none lost) (mere : Mere c none) (fit : i.Fits c) :
    (c.step i).tales ≤ c.tales + if c.starts i then 1 else 0 := by
  by_cases turns : i = .turn
  · subst turns
    have quiet {b : Client} (h : b.tales ≤ c.tales) :
        b.tales ≤ c.tales + if c.starts .turn then 1 else 0 := Nat.le_trans h (Nat.le_add_right _ _)
    show c.turn.tales ≤ _
    cases first : c.ready with
    | nil =>
      have idle : c.turn = c := by rw [turn, first]
      exact quiet (by rw [idle])
    | cons t ts =>
      have runs : c.turn = ({ c with ready := ts } : Client).runTask t := by rw [turn, first]
      cases t with
      | listener l => exact quiet (tales_listener sound mere first)
      | drain l =>
        refine quiet (tales_le (ends_congr ?_) (listening_turn sound mere first (by simp) ?_))
        · rw [runs]
          exact traffic_runDrain
        · rw [role, standing, Watcher.standing]
          simp [Role.idle]
      | attempt a =>
        have idle : c.turn = { c with ready := ts } := by
          rw [runs]
          show ({ c with ready := ts } : Client).runAttempt a = _
          simp only [runAttempt, mere.attempts, List.getElem?_nil]
        exact quiet (by rw [idle]; exact Nat.le_refl _)
      | relay a =>
        refine quiet (tales_le (ends_congr ?_) (listening_turn sound mere first (by simp) ?_))
        · rw [runs]
          show (({ c with ready := ts } : Client).runRelay a).traffic = _
          unfold runRelay
          split
          · exact traffic_wakeCalls
          · rfl
        · simp [role, standing, Standing.absent, Role.idle]
      | call n =>
        have waits := (sound.queue.canGo _ (by rw [first]; exact List.mem_cons_self)).resolve_left
          (by simp [Task.isRelay])
        obtain ⟨p, told, here⟩ := call_of_told waits.2
        have role : (c.role (.call n)).errand = p.role.errand := by
          rw [Client.role, standing_of_call here]
          rfl
        by_cases listens : p.role.errand = .listens
        · obtain rfl := eq_listen listens
          have starts : c.starts .turn = decide (some told ≠ some .cancelled) := by
            simp [Client.starts, enters, first, here]
          by_cases goes : some told = some .cancelled
          · have ends : c.turn = (({ c with ready := ts } : Client).setCall n .running).finish n
                .cancelled := by
              obtain rfl := Option.some.inj goes
              rw [turn_call first here]
              rfl
            refine quiet (tales_le (ends_congr ?_) ?_)
            · rw [ends]
              exact traffic_finish
            · rw [ends]
              exact Nat.le_refl c.listening
          · rw [starts, decide_eq_true goes]
            exact tales_listen mere first here goes
        · have still := listening_turn sound mere first (by simp) (role ▸ listens)
          refine quiet (tales_le ?_ still)
          by_cases sends : p.role.errand = .sends
          · rw [ends, (spoke_turn mere first here sends).traffic, List.countP_append,
              List.countP_map]
            simp [Function.comp_def, Event.isEnd, ends]
          · exact ends_congr (traffic_turn_call sound mere first here sends listens)
  · have same : (c.step i).ends = c.ends := ends_congr (traffic_input turns)
    have still : (c.step i).listening ≤ c.listening :=
      listening_mono ((path_input i fit turns).isPending_listener
        (fun l hears => by obtain ⟨x, e, -⟩ := hears; cases e) (by simp))
    exact Nat.le_trans (tales_le same still) (Nat.le_add_right _ _)

/-! ## Ends that are expected -/

/-- The end of the stream is to be expected. -/
def Link.isLeaving (k : Link) : Bool := k.closed || k.shuttingDown

/-- What is expected stays so. -/
theorem Action.isLeaving_mono (act : Action hit c d c₁ d₁) (leaving : (c.link l).isLeaving) :
    (c₁.link l).isLeaving := by
  let r (k j : Link) : Prop := k.isLeaving → j.isLeaving
  have refl k : r k k := fun h => h
  suffices h : ∀ l, r (c.link l) (c₁.link l) from h l leaving
  cases act with
  | connects task done starts cold ps policy =>
    intro k
    rw [link_addLink]
    split
    · next new =>
      intro leaving
      rw [link_of_le (Nat.le_of_eq new.symm)] at leaving
      cases leaving
    · exact refl _
  | takes how =>
    rw [how.frame]
    exact fun _ => refl _
  | shuts => exact rel_link (r := r) refl rfl fun _ => by simp [Link.isLeaving]
  | expectsEnd => exact rel_link (r := r) refl rfl fun _ => by simp [Link.isLeaving]
  | flows | exits | tellsListener | tellsDrain | asks | mumbles | retracts | withdraws | answers
  | drops | fails | rests | halts | restarts | supersedes | renews | drains | drainRests
  | drainEnds =>
    exact rel_link (r := r) refl rfl fun h => h
  | _ => exact fun _ => refl _

theorem isLeaving_forget {id : Nat} : ((c.forget n id).link l).isLeaving = (c.link l).isLeaving :=
  link_modifyLink_same Link.isLeaving fun _ => rfl

theorem Begins.isLeaving {ts : List Task} (begins : Begins c ts c₁ d) :
    (c₁.link l).isLeaving = (c.link l).isLeaving := by
  let r (k j : Link) : Prop := j.isLeaving = k.isLeaving
  cases begins with
  | listener => exact rel_link (c := c) (r := r) (fun _ => rfl) rfl rfl l
  | drain => exact rel_link (c := c) (r := r) (fun _ => rfl) rfl rfl l
  | _ => rfl

theorem invariant_leaving : Invariant Always fun c _ _ => (c.link l).isLeaving :=
  ⟨fun _ leaving act => act.isLeaving_mono leaving,
    fun _ leaving _ _ _ => isLeaving_forget.trans leaving,
    fun _ _ leaving begins => begins.isLeaving.trans leaving⟩

theorem Path.closed_mono (path : Path hit c d ls c₁ d₁) (closed : (c.link l).closed) :
    (c₁.link l).closed := by
  induction path with
  | nil => exact closed
  | step act _ ih => exact ih (act.closed_mono closed)
  | loses _ _ _ _ ih =>
    refine ih ((link_modifyLink_same Link.closed ?_).trans closed)
    exact fun _ => rfl

/-- A connection is closed from the beginning of its closing on. -/
theorem closed_closeConnection {t : Teardown} (here : t.link < c.links.length) :
    ((c.closeConnection t).1.link t.link).closed := by
  let r : Role := { Role.attempting .fails with teardown := some t }
  let x : Doer := ⟨.attempt 0, .go, r, r, none, none, .nothing⟩
  have closed : ((c.modifyLink t.link fun k => { k with closed := true }).link t.link).closed :=
    congrArg Link.closed (link_modifyLink_self here _)
  unfold closeConnection
  dsimp only
  generalize c.modifyLink t.link (fun k => { k with closed := true }) = c₁ at closed ⊢
  have after : Closes NoHit c₁ x (c₁.closeAfterListener t) :=
    closes_closeAfterListener rfl rfl ⟨rfl, rfl⟩ fun _ => closed
  have stream : Closes NoHit c₁ x (c₁.closeStream t) :=
    closes_closeStream rfl rfl ⟨rfl, rfl⟩ fun _ => closed
  have waits (pending : (c₁.link t.link).listener.phase.isPending) :
      Path NoHit c₁ none [] (c₁.cancelListener t.link) none := path_cancelListener pending closed
  split
  · exact after.path.closed_mono closed
  · split
    · next phase => exact (waits (by rw [phase]; rfl)).closed_mono closed
    · next phase => exact (waits (by rw [phase]; rfl)).closed_mono closed
    · exact after.path.closed_mono closed
    · exact stream.path.closed_mono closed

/-- From now on the end of the stream is expected, or the connection begins to be closed. -/
def leaves (c : Client) (i : Input) : Bool := i = .expectEnd || c.enters i .close

/-- Of the end of a connection that is left nobody is told in that step. -/
theorem leaves_step (sound : Sound c none lost) (mere : Mere c none) (leaves : c.leaves i) :
    ((c.step i).link 0).isLeaving ∧ (c.step i).ends = c.ends := by
  have one : 0 < c.links.length := by rw [mere.links]; exact Nat.one_pos
  have held : c.heldLink = 0 := by rw [heldLink, mere.used]; rfl
  obtain rfl | enters : i = .expectEnd ∨ c.enters i .close := by simpa [Client.leaves] using leaves
  · refine ⟨?_, rfl⟩
    show ((c.expectEnd c.heldLink).link 0).isLeaving
    rw [held, expectEnd, link_modifyLink_self one]
    simp [Link.isLeaving]
  · obtain ⟨rfl, n, ts, s, first, here, goes⟩ := first_of_enters enters
    refine ⟨?_, ends_congr (traffic_turn_call sound mere first here (fun h => by cases h)
      fun h => by cases h)⟩
    have go : s.getD .go ≠ .cancelled := by
      cases s with
      | none => simp
      | some s => exact fun e => goes (congrArg some e)
    let b : Client := ({ c with ready := ts } : Client).setCall n .running
    have closed (l : Nat) (own : l = 0) :
        ((b.closeConnection ⟨l, none, .listener⟩).1.link 0).closed := by
      subst own
      exact closed_closeConnection one
    have turn : c.turn = (b.closeConnection ⟨b.heldLink, none, .listener⟩).1.afterClosing n
        (b.closeConnection ⟨b.heldLink, none, .listener⟩).2 := by
      rw [turn_call first here, resumeCall, if_neg go, beginCall]
    have kept (p : Progress) {e : Client} : (e.afterClosing n p).link 0 = e.link 0 := by
      cases p <;> rfl
    show (c.turn.link 0).isLeaving
    rw [turn, kept, Link.isLeaving, closed b.heldLink held]
    rfl

/-- Of an end that is expected nobody is told. -/
theorem ends_step_leaving (sound : Sound c none lost) (mere : Mere c none)
    (leaving : (c.link 0).isLeaving) : (c.step i).ends = c.ends := by
  obtain ⟨e, traffic, tells⟩ := passes_step (i := i) sound mere
  have none' : e = none := by
    cases e with
    | none => rfl
    | some x =>
      have tells := tells x rfl
      simp [Link.isLeaving, tells.up, tells.sudden] at leaving
  have spoken : ((c.speech i).map Event.wrote).countP Event.isEnd = 0 := by
    rw [List.countP_map]
    exact List.countP_eq_zero.mpr fun _ _ => Bool.false_ne_true
  have reacted : ((c.received 0 i).flatMap ((c.link 0).reaction c.audience)).countP Event.isEnd =
      0 := by
    rw [List.countP_flatMap]
    exact List.sum_eq_zero fun k mem => by
      obtain ⟨m, -, rfl⟩ := List.mem_map.mp mem
      exact isEnd_reaction _ _ _
  rw [ends, traffic, none', List.countP_append, List.countP_append, List.countP_append, spoken,
    reacted]
  rfl

/-! ## Runs -/

/-- How many listeners are started in a run. -/
def startsIn (c : Client) : List Input → Nat
  | [] => 0
  | i :: rest => (if c.starts i then 1 else 0) + (c.step i).startsIn rest

theorem tales_run (sound : Sound c none lost) (mere : Mere c none)
    (fits : ∀ i ∈ inputs, i.Fits c) : (c.run inputs).tales ≤ c.tales + c.startsIn inputs := by
  induction inputs generalizing c lost with
  | nil => exact Nat.le_refl _
  | cons i inputs ih =>
    have fit := fits i List.mem_cons_self
    obtain ⟨sound', mere'⟩ := invariant_mere.step trivial fit sound mere
    have fits' j (mem : j ∈ inputs) : j.Fits (c.step i) :=
      (fits j (List.mem_cons_of_mem i mem)).congr (audience_step sound.fit fit)
    have one := tales_step sound mere fit
    have all := ih sound' mere' fits'
    rw [run_cons, startsIn]
    omega

theorem ends_run_leaving (sound : Sound c none lost) (mere : Mere c none)
    (fits : ∀ i ∈ inputs, i.Fits c) (leaving : (c.link 0).isLeaving) :
    (c.run inputs).ends = c.ends := by
  induction inputs generalizing c lost with
  | nil => rfl
  | cons i inputs ih =>
    have fit := fits i List.mem_cons_self
    obtain ⟨sound', mere'⟩ := invariant_mere.step trivial fit sound mere
    obtain ⟨-, leaving'⟩ := invariant_leaving.step trivial fit sound leaving
    have fits' j (mem : j ∈ inputs) : j.Fits (c.step i) :=
      (fits j (List.mem_cons_of_mem i mem)).congr (audience_step sound.fit fit)
    rw [run_cons, ih sound' mere' fits' leaving', ends_step_leaving sound mere leaving]

/-- Once a connection is left, nobody is told of its end. -/
theorem ends_run_leaves {before later : List Input} (sound : Sound c none lost)
    (mere : Mere c none) (fits : ∀ j ∈ before ++ i :: later, j.Fits c)
    (leaves : (c.run before).leaves i) :
    (c.run (before ++ i :: later)).ends = (c.run before).ends := by
  obtain ⟨sound', mere'⟩ := invariant_mere.run throughout_always
    (fun j mem => fits j (List.mem_append_left _ mem)) sound mere
  have fits' j (mem : j ∈ i :: later) : j.Fits (c.run before) :=
    (fits j (List.mem_append_right _ mem)).congr
      (audience_run sound fun j mem => fits j (List.mem_append_left _ mem))
  have fit := fits' i List.mem_cons_self
  obtain ⟨leaving, same⟩ := leaves_step sound' mere' leaves
  obtain ⟨sound'', mere''⟩ := invariant_mere.step trivial fit sound' mere'
  have fits'' j (mem : j ∈ later) : j.Fits ((c.run before).step i) :=
    (fits' j (List.mem_cons_of_mem i mem)).congr (audience_step sound'.fit fit)
  rw [run_append, run_cons, ends_run_leaving sound'' mere'' fits'' leaving, same]

end LspGateway.Client
