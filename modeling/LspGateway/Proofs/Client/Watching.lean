import LspGateway.Proofs.Client.Correlating
import LspGateway.Proofs.Client.Exchange

/-! # Waiting for an exit

A call that closes a connection and waits for the process to exit is told when it does. Of what
else happens only the time that has passed is news to it.
-/

namespace LspGateway.Client

variable {c c₁ c₂ : Client} {l k n id : Nat} {t : Teardown} {u : Task} {s : Signal} {m : Json}

/-- Whoever waits for an exit was told nothing, or that it has come, or that it is late. -/
def isNews : Option Signal → Bool
  | none => true
  | some .go => true
  | some .timedOut => true
  | _ => false

/-- A signal that a process is sent. -/
def Output.blow? : Output → Option Event
  | .event _ .terminated => some .terminated
  | .event _ .killed => some .killed
  | _ => none

/-- The signals that processes were sent, in their order. -/
def blows (c : Client) : List Event := (c.history.filterMap Output.blow?).reverse

theorem blows_emit (o : Output) : (c.emit o).blows = c.blows ++ o.blow?.toList := by
  rw [blows, blows, emit, List.filterMap_cons]
  cases o.blow? <;> simp

/-- A process goes on, and its input is not opened again. -/
structure Process.GoesOn (p q : Process) : Prop where
  policy : q.policy = p.policy
  exit : q.exitCode = p.exitCode
  input : p.inputClosed → q.inputClosed

theorem Process.GoesOn.refl (p : Process) : p.GoesOn p := ⟨rfl, rfl, fun h => h⟩

/-- No process exits or is sent a signal, no call comes to close a connection, and whoever waits
for an exit learns nothing of it. -/
structure Unmoved (c c₁ : Client) : Prop where
  links : c₁.links.length = c.links.length
  process : ∀ l, (c.process l).GoesOn (c₁.process l)
  blows : c₁.blows = c.blows
  closing : ∀ (n : Nat) (t : Teardown) s, c₁.calls[n]? = some ⟨.closing t, s⟩ →
    ∃ s, c.calls[n]? = some ⟨.closing t, s⟩
  told : ∀ (n : Nat) (t : Teardown) s, c₁.calls[n]? = some ⟨.closing t, s⟩ →
    t.stage.awaitsExit → isNews s → c.calls[n]? = some ⟨.closing t, s⟩

namespace Unmoved

theorem refl (c : Client) : Unmoved c c :=
  ⟨rfl, fun _ => .refl _, rfl, fun _ _ s h => ⟨s, h⟩, fun _ _ _ h _ _ => h⟩

theorem trans (h : Unmoved c c₁) (h₁ : Unmoved c₁ c₂) : Unmoved c c₂ := by
  refine ⟨h₁.links.trans h.links, fun l => ?_, h₁.blows.trans h.blows, fun n t s here => ?_,
    fun n t s here waits news => h.told n t s (h₁.told n t s here waits news) waits news⟩
  · exact ⟨(h₁.process l).policy.trans (h.process l).policy,
      (h₁.process l).exit.trans (h.process l).exit,
      fun shut => (h₁.process l).input ((h.process l).input shut)⟩
  · obtain ⟨s', before⟩ := h₁.closing n t s here
    exact h.closing n t s' before

theorem isAlive (h : Unmoved c c₁) (l : Nat) : c₁.isAlive l = c.isAlive l := by
  rw [Client.isAlive, (h.process l).exit, Client.isAlive]

theorem foldl {α : Type} {f : Client → α → Client} (step : ∀ c x, Unmoved c (f c x)) (xs : List α) :
    Unmoved c (xs.foldl f c) := by
  induction xs generalizing c with
  | nil => exact refl c
  | cons x xs ih => exact (step c x).trans ih

end Unmoved

/-- Nothing changes about processes and calls. -/
theorem unmoved_of_links (links : c₁.links = c.links) (calls : c₁.calls = c.calls)
    (blows : c₁.blows = c.blows) : Unmoved c c₁ := by
  refine ⟨congrArg List.length links, fun l => ?_, blows, fun _ _ s here => ⟨s, calls ▸ here⟩,
    fun _ _ _ here _ _ => calls ▸ here⟩
  have same : c₁.process l = c.process l := congrArg Link.process (link_of_links links)
  rw [same]
  exact .refl _

theorem unmoved_modifyLink {f : Link → Link} (same : ∀ k : Link, k.process.GoesOn (f k).process) :
    Unmoved c (c.modifyLink l f) := by
  let r (k j : Link) : Prop := k.process.GoesOn j.process
  have kept (m : Nat) : r (c.link m) ((c.modifyLink l f).link m) :=
    rel_link (r := r) (fun _ => .refl _) rfl (same _) m
  exact ⟨links_length_modifyLink f, kept, rfl, fun _ _ s here => ⟨s, here⟩,
    fun _ _ _ here _ _ => here⟩

theorem unmoved_of_modify {f : Link → Link} (links : c₁.links = c.links.modify l f)
    (calls : c₁.calls = c.calls) (blows : c₁.blows = c.blows)
    (same : ∀ k : Link, k.process.GoesOn (f k).process) : Unmoved c c₁ :=
  (unmoved_modifyLink same).trans (unmoved_of_links links calls blows)

theorem unmoved_emit {o : Output} (quiet : o.blow? = none) : Unmoved c (c.emit o) :=
  unmoved_of_links rfl rfl (by rw [blows_emit, quiet, Option.toList_none, List.append_nil])

theorem unmoved_event {e : Event} (quiet : (Output.event (c.link l).spawn e).blow? = none) :
    Unmoved c (c.event l e) :=
  unmoved_emit quiet

theorem unmoved_log {level : Log.Level} {text : String} : Unmoved c (c.log level text) :=
  unmoved_emit rfl

/-! ## Telling -/

theorem unmoved_wakeListener : Unmoved c (c.wakeListener l) := by
  obtain e | ⟨-, e⟩ := wakeListener_eq (c := c) (l := l) <;> rw [e]
  · exact .refl c
  · exact unmoved_of_modify rfl rfl rfl fun _ => ⟨rfl, rfl, fun h => h⟩

theorem unmoved_wakeDrain : Unmoved c (c.wakeDrain l) := by
  obtain e | ⟨-, e⟩ := wakeDrain_eq (c := c) (l := l) <;> rw [e]
  · exact .refl c
  · exact unmoved_of_modify rfl rfl rfl fun _ => ⟨rfl, rfl, fun h => h⟩

theorem unmoved_cancelListener : Unmoved c (c.cancelListener l) := by
  unfold cancelListener
  dsimp only
  split
  · exact unmoved_of_modify rfl rfl rfl fun _ => ⟨rfl, rfl, fun h => h⟩
  · exact unmoved_modifyLink fun _ => ⟨rfl, rfl, fun h => h⟩

/-- Nobody is told something who waits for an exit. -/
theorem unmoved_prompts {p : CallPhase → Bool} {as : List Attempt} {ts : List Task}
    (apart : ∀ t, t.stage.awaitsExit → p (.closing t) = false) :
    Unmoved c { c with
      calls := c.calls.map fun k => if p k.phase then k.prompt s else k
      attempts := as
      ready := ts } := by
  have phase {q : Call} {n : Nat} (here : (c.calls.map fun k =>
      if p k.phase then k.prompt s else k)[n]? = some q) :
      ∃ k, c.calls[n]? = some k ∧ (if p k.phase then k.prompt s else k) = q ∧
        k.phase = q.phase := by
    rw [List.getElem?_map] at here
    obtain ⟨k, before, e⟩ := Option.map_eq_some_iff.mp here
    refine ⟨k, before, e, ?_⟩
    rw [← e]
    split
    · exact k.phase_prompt.symm
    · rfl
  refine ⟨rfl, fun _ => .refl _, rfl, fun n t s' here => ?_, fun n t s' here waits news => ?_⟩
  · obtain ⟨⟨q, told⟩, before, -, rfl⟩ := phase here
    exact ⟨told, before⟩
  · obtain ⟨k, before, e, same⟩ := phase here
    rw [show k.phase = .closing t from same, apart t waits, if_neg Bool.false_ne_true] at e
    rw [before, e]

theorem unmoved_prompt (strange : isNews (some s) = false) : Unmoved c (c.prompt u s) := by
  refine ⟨rfl, fun _ => .refl _, rfl, fun n t s' here => ?_, fun n t s' here waits news => ?_⟩
  · cases u with
    | call m =>
      simp only [prompt, List.getElem?_modify] at here
      obtain ⟨⟨q, told⟩, before, e⟩ := Option.map_eq_some_iff.mp here
      obtain rfl : q = .closing t := by
        split at e
        · exact (Call.phase_prompt _).symm.trans (congrArg Call.phase e)
        · exact congrArg Call.phase e
      exact ⟨told, before⟩
    | _ => exact ⟨s', here⟩
  · cases u with
    | call m =>
      simp only [prompt, List.getElem?_modify] at here
      obtain ⟨k, before, e⟩ := Option.map_eq_some_iff.mp here
      split at e
      · obtain same | told := k.eq_prompt (s := s)
        · rw [before, ← e, same]
        · obtain rfl := congrArg Call.signal (told.symm.trans e)
          cases strange.symm.trans news
      · rw [before, e]
    | _ => exact here

theorem unmoved_wake (strange : isNews (some s) = false) : Unmoved c (c.wake u s) := by
  rw [wake_eq_prompt]
  exact unmoved_prompt strange

theorem unmoved_failPending {reason : Ending} : Unmoved c (c.failPending l reason) := by
  have cleared : Unmoved c (c.modifyLink l fun k => { k with pending := [] }) :=
    unmoved_modifyLink fun _ => ⟨rfl, rfl, fun h => h⟩
  exact cleared.trans (.foldl (fun _ _ => unmoved_wake rfl) _)

theorem unmoved_wakeCalls {p : CallPhase → Bool} (apart : ∀ t, p (.closing t) = false) :
    Unmoved c (c.wakeCalls p s) := by
  obtain ⟨ts, e⟩ := wakeCalls_frame (c := c) (s := s) p
  rw [e]
  exact unmoved_prompts fun t _ => apart t

/-- A teardown that does not wait for an exit goes on. -/
theorem unmoved_wakeTeardowns {p : Teardown → Bool}
    (apart : ∀ t, t.stage.awaitsExit → p t = false) :
    Unmoved c (c.wakeTeardowns p s) := by
  obtain ⟨ts, e⟩ := wakeTeardowns_frame (c := c) (s := s) p
  rw [e]
  exact unmoved_prompts (p := fun q => q.teardown?.any p) apart

/-- A call that does not close a connection comes to stand somewhere. -/
theorem unmoved_setCall {p : CallPhase} (apart : ∀ t, p ≠ .closing t) :
    Unmoved c (c.setCall n p) := by
  have before {m : Nat} {t : Teardown} {s : Option Signal}
      (here : (c.setCall n p).calls[m]? = some ⟨.closing t, s⟩) :
      c.calls[m]? = some ⟨.closing t, s⟩ := by
    rw [setCall, List.getElem?_set] at here
    split at here
    · split at here
      · exact absurd (congrArg Call.phase (Option.some.inj here)) (apart t)
      · cases here
    · exact here
  exact ⟨rfl, fun _ => .refl _, rfl, fun _ _ s here => ⟨s, before here⟩,
    fun _ _ _ here _ _ => before here⟩

theorem unmoved_finish {o : Outcome} : Unmoved c (c.finish n o) :=
  (unmoved_setCall (p := .done o) nofun).trans (unmoved_emit rfl)

/-! ## Sending -/

theorem unmoved_feed {bytes : List UInt8} : Unmoved c (c.feed l bytes) := by
  unfold feed
  split
  · have fed : Unmoved c (c.modifyProcess l fun p => { p with output := p.output.append bytes }) :=
      unmoved_modifyLink fun _ => ⟨rfl, rfl, fun h => h⟩
    exact fed.trans unmoved_wakeListener
  · exact .refl c

theorem unmoved_write : Unmoved c (c.write l m).1 := by
  have wrote : Unmoved c (c.event l (.wrote m)) := unmoved_event rfl
  unfold write
  dsimp only
  split
  · exact .refl c
  · split
    · exact .refl c
    · cases Policy.answer? (c.process l).policy m with
      | none => split <;> exact wrote
      | some reply => split <;> exact wrote.trans unmoved_feed

theorem unmoved_forget : Unmoved c (c.forget l id) :=
  unmoved_modifyLink fun _ => ⟨rfl, rfl, fun h => h⟩

theorem unmoved_notify {method : String} {params : Json} :
    Unmoved c (c.notify l method params).1 := by
  unfold notify
  split
  · exact .refl c
  · exact unmoved_write

theorem unmoved_request {method : String} {params : Json} :
    Unmoved c (c.request l u method params).1 := by
  unfold request
  split
  · exact .refl c
  · dsimp only
    generalize message _ _ _ = m
    have listed : Unmoved c (c.modifyLink l fun k => { k with
        lastId := (c.link l).lastId + 1
        pending := k.pending ++ [((c.link l).lastId + 1, u)] }) :=
      unmoved_modifyLink fun _ => ⟨rfl, rfl, fun h => h⟩
    have asked := listed.trans (unmoved_write (l := l) (m := m))
    split
    · next e =>
      rw [e] at asked
      exact asked
    · next e =>
      rw [e] at asked
      exact asked.trans unmoved_forget

theorem unmoved_join {sends : List Send} : Unmoved c (c.join n sends) := by
  have shared : Unmoved c c.shareAttempt.1 := by
    unfold shareAttempt
    dsimp only
    split
    · split <;> exact unmoved_of_links rfl rfl rfl
    · exact unmoved_of_links rfl rfl rfl
  exact shared.trans (unmoved_setCall nofun)

theorem unmoved_sendOne {send : Send} {rest : List Send} : Unmoved c (c.sendOne n send rest).1 := by
  unfold sendOne
  split
  · exact unmoved_finish
  · next l _ =>
    cases send with
    | notify method params =>
      have sent : Unmoved c (c.notify l method params).1 := unmoved_notify
      dsimp only
      split
      · next e =>
        rw [e] at sent
        exact sent
      · next e =>
        rw [e] at sent
        exact sent.trans unmoved_finish
    | request method params =>
      have sent : Unmoved c (c.request l (.call n) method params).1 := unmoved_request
      dsimp only
      split
      · next e =>
        rw [e] at sent
        exact sent.trans (unmoved_setCall nofun)
      · next e =>
        rw [e] at sent
        exact sent.trans unmoved_finish

theorem unmoved_sendAll {sends : List Send} {last : Json} : Unmoved c (c.sendAll n last sends) := by
  induction sends generalizing c last with
  | nil => exact unmoved_finish
  | cons send rest ih =>
    unfold sendAll
    split
    · exact unmoved_join
    · have sent : Unmoved c (c.sendOne n send rest).1 := unmoved_sendOne
      split
      · next e =>
        rw [e] at sent
        exact sent.trans ih
      · next e =>
        rw [e] at sent
        exact sent

/-! ## Listening -/

theorem unmoved_setListener {p : WatcherPhase} : Unmoved c (c.setListener l p) :=
  unmoved_modifyLink fun _ => ⟨rfl, rfl, fun h => h⟩

theorem unmoved_endListener : Unmoved c (c.endListener l) := by
  refine unmoved_setListener.trans (unmoved_wakeTeardowns fun t waits => ?_)
  cases stage : t.stage with
  | listener =>
    rw [stage] at waits
    cases waits
  | _ => simp

theorem unmoved_stopListening {turn : Turn} {reason : Ending} :
    Unmoved c (c.stopListening l turn reason) := by
  cases turn with
  | first => exact unmoved_failPending.trans unmoved_endListener
  | later => exact unmoved_failPending.trans (unmoved_modifyLink fun _ => ⟨rfl, rfl, fun h => h⟩)

theorem unmoved_handleResponse {j : Json} {ms : Json.Members} :
    Unmoved c (c.handleResponse l j ms).1 := by
  unfold handleResponse
  split
  · split
    · exact unmoved_log
    · exact .refl c
  · split
    · exact unmoved_log
    · next k v _ =>
      dsimp only
      split
      · exact unmoved_forget.trans unmoved_log
      · split
        · exact unmoved_forget.trans (unmoved_wake rfl)
        · exact unmoved_forget

theorem unmoved_rejectRequest {j method : Json} : Unmoved c (c.rejectRequest l j method) := by
  let b : Client := c.log .debug ("[" ++ c.id ++ "] Rejecting server request " ++ method.plain)
  have answered : Unmoved c (b.write l (rejection j method)).1 := unmoved_log.trans unmoved_write
  unfold rejectRequest
  dsimp only
  split
  · next e =>
    rw [e] at answered
    exact answered
  · next e =>
    rw [e] at answered
    exact answered.trans unmoved_log

theorem unmoved_dispatch : Unmoved c (c.dispatch l m).1 := by
  unfold dispatch
  split
  · exact .refl c
  · exact unmoved_handleResponse
  · unfold handleNotification
    split
    · exact unmoved_log
    · exact unmoved_event rfl
    · exact .refl c
  · exact unmoved_rejectRequest

section Listening

variable {turn : Turn} {reading : Wire.Reading}

theorem unmoved_stopAfter {reason : Ending} {announce : Client → Client}
    (announces : Unmoved c (announce c)) : Unmoved c (c.stopAfter l turn reason announce) := by
  unfold stopAfter
  dsimp only
  split
  · exact unmoved_stopListening
  · exact announces.trans unmoved_stopListening

theorem unmoved_crashListening {fault : Json.Misuse} :
    Unmoved c (c.crashListening l turn fault) := by
  refine (unmoved_modifyLink fun k => ?_).trans unmoved_stopListening
  split <;> exact ⟨rfl, rfl, fun h => h⟩

theorem unmoved_setOutput {rest : List UInt8} : Unmoved c (c.setOutput l rest) :=
  unmoved_modifyLink fun _ => ⟨rfl, rfl, fun h => h⟩

theorem unmoved_pauseListening : Unmoved c (c.pauseListening l reading) :=
  unmoved_setListener.trans (unmoved_modifyLink fun _ => ⟨rfl, rfl, fun h => h⟩)

variable (observed : c.audience ≠ .client)

include observed

theorem unmoved_stopAfterFault {f : Wire.Fault} : Unmoved c (c.stopAfterFault l turn f) := by
  refine unmoved_stopAfter ?_
  unfold announceFault
  split
  · next who => exact absurd who observed
  · exact unmoved_event rfl
  · exact .refl c

theorem unmoved_stopAfterEnd : Unmoved c (c.stopAfter l turn .byServer (·.announceEnd l)) := by
  refine unmoved_stopAfter ?_
  unfold announceEnd
  split
  · next who => exact absurd who observed
  · exact unmoved_event rfl
  · exact .refl c

theorem unmoved_listen {fuel : Nat} : Unmoved c (listen l turn fuel reading c) := by
  induction fuel generalizing c reading with
  | zero =>
    unfold listen
    split
    · exact unmoved_pauseListening
    · exact .refl c
  | succ fuel ih =>
    unfold listen
    split
    · cases turn with
      | first => exact unmoved_setOutput.trans unmoved_pauseListening
      | later =>
        exact unmoved_setOutput.trans (unmoved_stopAfterFault (c := c.setOutput l _) observed)
    · exact unmoved_setOutput.trans (unmoved_stopAfterFault (c := c.setOutput l _) observed)
    · exact unmoved_setOutput.trans (unmoved_stopAfterEnd (c := c.setOutput l _) observed)
    · next m rest _ =>
      have dispatched : Unmoved c ((c.setOutput l rest).dispatch l m).1 :=
        unmoved_setOutput.trans unmoved_dispatch
      have same : ((c.setOutput l rest).dispatch l m).1.audience = c.audience :=
        frame_dispatch.audience
      split
      · next e =>
        rw [e] at dispatched same
        split
        · exact dispatched.trans unmoved_stopListening
        · exact dispatched.trans (ih (by rwa [same]))
      · next e =>
        rw [e] at dispatched
        exact dispatched.trans unmoved_crashListening

theorem unmoved_beginListening : Unmoved c (c.beginListening l turn) := by
  unfold beginListening
  split
  · exact unmoved_stopListening
  · exact unmoved_listen observed

theorem unmoved_runListener : Unmoved c (c.runListener l) := by
  unfold runListener
  dsimp only
  split
  · exact unmoved_endListener
  · exact unmoved_stopListening
  · exact unmoved_setListener.trans
      (unmoved_beginListening (c := c.setListener l .running) observed)
  · exact unmoved_setListener.trans (unmoved_listen (c := c.setListener l .running) observed)

theorem unmoved_startListening : Unmoved c (c.startListening l) := by
  unfold startListening
  dsimp only
  split
  · exact .refl c
  · have renewed : Unmoved c (c.renewListener l) :=
      unmoved_modifyLink fun _ => ⟨rfl, rfl, fun h => h⟩
    exact renewed.trans (unmoved_beginListening (c := c.renewListener l) observed)
  · exact unmoved_of_modify rfl rfl rfl fun _ => ⟨rfl, rfl, fun h => h⟩

end Listening

/-! ## Standard error -/

theorem unmoved_setDrain {p : WatcherPhase} : Unmoved c (c.setDrain l p) :=
  unmoved_modifyLink fun _ => ⟨rfl, rfl, fun h => h⟩

theorem unmoved_endDrain : Unmoved c (c.endDrain l) := by
  refine unmoved_setDrain.trans (unmoved_wakeTeardowns fun t waits => ?_)
  cases stage : t.stage with
  | drain =>
    rw [stage] at waits
    cases waits
  | _ => simp

theorem unmoved_readErrors {fuel : Nat} : Unmoved c (readErrors l fuel c) := by
  have taken {c : Client} {rest : List UInt8} : Unmoved c (c.setErrors l rest) :=
    unmoved_modifyLink fun _ => ⟨rfl, rfl, fun h => h⟩
  induction fuel generalizing c with
  | zero => exact unmoved_setDrain
  | succ fuel ih =>
    unfold readErrors
    split
    · exact unmoved_setDrain
    · exact unmoved_endDrain
    · exact (taken.trans unmoved_log).trans unmoved_endDrain
    · exact (taken.trans unmoved_log).trans ih

theorem unmoved_runDrain : Unmoved c (c.runDrain l) := by
  unfold runDrain
  split
  · exact unmoved_endDrain
  · exact unmoved_setDrain.trans unmoved_readErrors

/-! ## Exits -/

/-- Who waits for an exit and was told nothing waits for a process that is there. If it was told
that the exit has come, the process is gone. -/
def Alert (c : Client) : Prop :=
  ∀ (n : Nat) (t : Teardown) s, c.calls[n]? = some ⟨.closing t, s⟩ → t.stage.awaitsExit →
    (s = none → c.isAlive t.link) ∧ (s = some .go → c.isAlive t.link = false)

/-- A process goes on or exits. -/
structure Process.Ages (p q : Process) : Prop where
  policy : q.policy = p.policy
  exit : q.exitCode.isNone → p.exitCode.isNone
  input : p.inputClosed → q.inputClosed

/-- Processes may exit and be sent signals. Whoever waits for an exit learns when it comes. -/
structure Moved (c c₁ : Client) : Prop where
  links : c₁.links.length = c.links.length
  process : ∀ l, (c.process l).Ages (c₁.process l)
  closing : ∀ (n : Nat) (t : Teardown) s, c₁.calls[n]? = some ⟨.closing t, s⟩ →
    ∃ s, c.calls[n]? = some ⟨.closing t, s⟩
  alert : Alert c → Alert c₁
  late : ∀ (n : Nat) (t : Teardown), c₁.calls[n]? = some ⟨.closing t, some .timedOut⟩ →
    t.stage.awaitsExit → c.calls[n]? = some ⟨.closing t, some .timedOut⟩

theorem Moved.trans (h : Moved c c₁) (h₁ : Moved c₁ c₂) : Moved c c₂ := by
  refine ⟨h₁.links.trans h.links, fun l => ?_, fun n t s here => ?_,
    fun alert => h₁.alert (h.alert alert),
    fun n t here waits => h.late n t (h₁.late n t here waits) waits⟩
  · exact ⟨(h₁.process l).policy.trans (h.process l).policy,
      fun alive => (h.process l).exit ((h₁.process l).exit alive),
      fun shut => (h₁.process l).input ((h.process l).input shut)⟩
  · obtain ⟨s', before⟩ := h₁.closing n t s here
    exact h.closing n t s' before

theorem Unmoved.moved (h : Unmoved c c₁) : Moved c c₁ := by
  refine ⟨h.links, fun l => ⟨(h.process l).policy, ?_, (h.process l).input⟩, h.closing,
    fun alert n t s here waits => ?_, fun n t here waits => h.told n t _ here waits rfl⟩
  · rw [(h.process l).exit]
    exact fun alive => alive
  · rw [h.isAlive]
    constructor
    · rintro rfl
      exact (alert n t none (h.told n t _ here waits rfl) waits).1 rfl
    · rintro rfl
      exact (alert n t _ (h.told n t _ here waits rfl) waits).2 rfl

/-- A process is sent a signal, or something is shown. -/
theorem moved_emit (o : Output) : Moved c (c.emit o) :=
  ⟨rfl, fun _ => ⟨rfl, fun h => h, fun h => h⟩, fun _ _ s here => ⟨s, here⟩, fun alert => alert,
    fun _ _ here _ => here⟩

section Exit

variable {f : Process → Process} {code : Int}

theorem isAlive_modifyProcess_self (here : l < c.links.length)
    (exits : ∀ p, (f p).exitCode.isNone = false) : (c.modifyProcess l f).isAlive l = false := by
  rw [isAlive_eq, modifyProcess, link_modifyLink_self here]
  exact exits _

theorem isAlive_modifyProcess_ne (other : k ≠ l) :
    (c.modifyProcess l f).isAlive k = c.isAlive k := by
  rw [isAlive_eq, modifyProcess, link_modifyLink_ne other.symm, isAlive_eq]

theorem ages_modifyProcess (ages : ∀ p : Process, p.Ages (f p)) :
    (c.process k).Ages ((c.modifyProcess l f).process k) := by
  let r (k j : Link) : Prop := k.process.Ages j.process
  exact rel_link (c := c) (r := r) (fun _ => ⟨rfl, fun h => h, fun h => h⟩) rfl (ages _) k

/-- Whoever waits for a process that has exited is told. -/
theorem alert_wakeTeardowns (h : Alert c) (dead : c₁.isAlive l = false)
    (others : ∀ k, k ≠ l → c₁.isAlive k = c.isAlive k)
    (told : ∀ (n : Nat) (t : Teardown) s, c₁.calls[n]? = some ⟨.closing t, s⟩ →
      t.stage.awaitsExit → isNews s → c.calls[n]? = some ⟨.closing t, s⟩) :
    Alert (c₁.wakeTeardowns (fun t => t.link == l && t.stage.awaitsExit) .go) := by
  obtain ⟨ts, e⟩ := wakeTeardowns_frame (c := c₁) (s := .go)
    fun t => t.link == l && t.stage.awaitsExit
  rw [e]
  intro n t s here waits
  rw [List.getElem?_map] at here
  obtain ⟨q, before, e⟩ := Option.map_eq_some_iff.mp here
  have phase : q.phase = .closing t := by
    split at e
    · exact (q.phase_prompt).symm.trans (congrArg Call.phase e)
    · exact congrArg Call.phase e
  obtain ⟨p, s₁⟩ := q
  obtain rfl : p = .closing t := phase
  show (s = none → c₁.isAlive t.link) ∧ (s = some .go → c₁.isAlive t.link = false)
  by_cases same : t.link = l
  · subst same
    refine ⟨?_, fun _ => dead⟩
    rintro rfl
    have woken := Call.signal_prompt (s := .go) (k := ⟨.closing t, s₁⟩) rfl
    rw [if_pos (by simp [CallPhase.teardown?, waits])] at e
    rw [e] at woken
    cases woken
  · rw [if_neg (by simp [CallPhase.teardown?, same])] at e
    cases e
    rw [others _ same]
    constructor
    · rintro rfl
      exact (h n t none (told n t _ before waits rfl) waits).1 rfl
    · rintro rfl
      exact (h n t _ (told n t _ before waits rfl) waits).2 rfl

theorem moved_exit (here : l < c.links.length) : Moved c (c.exit l code) := by
  unfold exit
  split
  · let b : Client := (c.event l (.exited code)).modifyProcess l fun p => { p with
      exitCode := some code
      output := { p.output with ended := true }
      errors := { p.errors with ended := true } }
    have ages k : (c.process k).Ages (b.process k) :=
      ages_modifyProcess (c := c.event l (.exited code)) fun _ => ⟨rfl, nofun, fun h => h⟩
    have dead : b.isAlive l = false :=
      isAlive_modifyProcess_self (c := c.event l (.exited code)) here fun _ => rfl
    have others k (other : k ≠ l) : b.isAlive k = c.isAlive k := isAlive_modifyProcess_ne other
    have woken : Unmoved b ((b.wakeListener l).wakeDrain l) :=
      unmoved_wakeListener.trans unmoved_wakeDrain
    show Moved c (((b.wakeListener l).wakeDrain l).wakeTeardowns _ _)
    generalize (b.wakeListener l).wakeDrain l = e at woken
    obtain ⟨ts, told⟩ := wakeTeardowns_frame (c := e) (s := .go)
      fun t => t.link == l && t.stage.awaitsExit
    refine ⟨?_, fun k => ?_, fun n t s here => ?_, fun alert => ?_, fun n t here waits => ?_⟩
    · rw [told]
      exact woken.links.trans (links_length_modifyLink _)
    · have same := woken.process k
      rw [told]
      exact ⟨same.policy.trans (ages k).policy, fun alive => (ages k).exit (same.exit ▸ alive),
        fun shut => same.input ((ages k).input shut)⟩
    · rw [told, List.getElem?_map] at here
      obtain ⟨⟨q, s'⟩, before, e⟩ := Option.map_eq_some_iff.mp here
      obtain rfl : q = .closing t := by
        split at e
        · exact (Call.phase_prompt _).symm.trans (congrArg Call.phase e)
        · exact congrArg Call.phase e
      exact woken.closing n t s' before
    · exact alert_wakeTeardowns alert ((woken.isAlive l).trans dead)
        (fun k other => (woken.isAlive k).trans (others k other)) woken.told
    · rw [told, List.getElem?_map] at here
      obtain ⟨q, before, e⟩ := Option.map_eq_some_iff.mp here
      have kept : q = ⟨.closing t, some .timedOut⟩ := by
        split at e
        · obtain same | woke := q.eq_prompt (s := .go)
          · rwa [← same]
          · cases congrArg Call.signal (woke.symm.trans e)
        · exact e
      exact woken.told n t _ (kept ▸ before) waits rfl
  · exact (Unmoved.refl c).moved

theorem isAlive_exit (here : l < c.links.length) : (c.exit l code).isAlive l = false := by
  unfold exit
  split
  · dsimp only
    obtain ⟨ts, told⟩ := wakeTeardowns_frame (s := .go)
      (c := (((c.event l (.exited code)).modifyProcess l _).wakeListener l).wakeDrain l)
      fun t => t.link == l && t.stage.awaitsExit
    rw [told]
    exact ((unmoved_wakeListener.trans unmoved_wakeDrain).isAlive l).trans
      (isAlive_modifyProcess_self (c := c.event l (.exited code)) here fun _ => rfl)
  · next dead => simpa using dead

theorem blows_exit : (c.exit l code).blows = c.blows := by
  unfold exit
  split
  · dsimp only
    obtain ⟨ts, told⟩ := wakeTeardowns_frame (s := .go)
      (c := (((c.event l (.exited code)).modifyProcess l _).wakeListener l).wakeDrain l)
      fun t => t.link == l && t.stage.awaitsExit
    rw [told]
    exact ((unmoved_wakeListener.trans unmoved_wakeDrain).blows).trans
      ((blows_emit _).trans (List.append_nil _))
  · rfl

/-- Standard input is closed, for which the process may exit. -/
theorem moved_closeInput (here : l < c.links.length) : Moved c (c.closeInput l) := by
  have closed : Unmoved c ((c.event l .inputClosed).modifyProcess l
      fun p => { p with inputClosed := true }) :=
    (unmoved_event rfl).trans (unmoved_modifyLink fun _ => ⟨rfl, rfl, fun _ => rfl⟩)
  unfold closeInput
  split
  · exact (Unmoved.refl c).moved
  · dsimp only
    split
    · exact closed.moved.trans (moved_exit (by rwa [closed.links]))
    · exact closed.moved

theorem blows_closeInput : (c.closeInput l).blows = c.blows := by
  have closed : ((c.event l .inputClosed).modifyProcess l
      fun p => { p with inputClosed := true }).blows = c.blows :=
    (blows_emit _).trans (List.append_nil _)
  unfold closeInput
  split
  · rfl
  · dsimp only
    split
    · exact blows_exit.trans closed
    · exact closed

theorem inputClosed_closeInput (here : l < c.links.length) :
    ((c.closeInput l).process l).inputClosed := by
  have closed : (((c.event l .inputClosed).modifyProcess l
      fun p => { p with inputClosed := true }).process l).inputClosed :=
    congrArg (·.process.inputClosed) (link_modifyLink_self (c := c.event l .inputClosed) here _)
  unfold closeInput
  split
  · assumption
  · dsimp only
    split
    · exact ((moved_exit (by rwa [modifyProcess, links_length_modifyLink])).process l).input closed
    · exact closed

/-- Closing standard input changes no more of a link than its process and who is told of that. -/
theorem link_closeInput {α : Type} (g : Link → α) (process : ∀ k p, g { k with process := p } = g k)
    (signal : ∀ k s, g { k with listener := ⟨k.listener.phase, s⟩ } = g k)
    (drain : ∀ k w, g { k with drain := w } = g k) :
    g ((c.closeInput l).link k) = g (c.link k) := by
  have closed : g (((c.event l .inputClosed).modifyProcess l
      fun p => { p with inputClosed := true }).link k) = g (c.link k) :=
    link_modifyLink_same (c := c.event l .inputClosed) g fun _ => process _ _
  unfold closeInput
  split
  · rfl
  · dsimp only
    split
    · exact (link_exit g process signal drain).trans closed
    · exact closed

end Exit

end LspGateway.Client
