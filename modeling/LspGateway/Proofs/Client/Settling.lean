import LspGateway.Client.Unrest
import Mathlib.Data.List.Basic

/-! # A client comes to rest

Whatever a client does in a turn, it pays for: the activity in its turn comes closer to its end
than what it wakes or begins costs. So a client takes only finitely many turns without new input,
and no activity is ever taken out of the queue but the first.
-/

namespace LspGateway.Client

variable {c c₁ c₂ : Client} {a b k l n : Nat} {s : Signal} {m : Json} {t : Teardown}

/-! ## Costs of lists -/

section Lists

variable {α : Type} {xs : List α} {x y : α} (f : α → Nat)

theorem total_concat : total f (xs ++ [x]) = total f xs + f x := by
  induction xs with
  | nil => simp [total]
  | cons y ys ih =>
    simp only [List.cons_append, total, ih]
    omega

theorem total_set (here : xs[n]? = some x) : total f (xs.set n y) + f x = total f xs + f y := by
  induction xs generalizing n with
  | nil => cases here
  | cons z zs ih =>
    cases n with
    | zero =>
      obtain rfl : z = x := by simpa using here
      simp only [List.set_cons_zero, total]
      omega
    | succ n =>
      have later := ih (n := n) (by simpa using here)
      simp only [List.set_cons_succ, total]
      omega

theorem total_set_le : total f (xs.set n y) ≤ total f xs + f y := by
  cases here : xs[n]? with
  | none =>
    rw [List.set_eq_of_length_le (List.getElem?_eq_none_iff.mp here)]
    omega
  | some x =>
    have := total_set (y := y) f here
    omega

theorem total_modify {g : α → α} (here : xs[n]? = some x) :
    total f (xs.modify n g) + f x = total f xs + f (g x) := by
  induction xs generalizing n with
  | nil => cases here
  | cons z zs ih =>
    cases n with
    | zero =>
      obtain rfl : z = x := by simpa using here
      simp only [List.modify_zero_cons, total]
      omega
    | succ n =>
      have later := ih (n := n) (by simpa using here)
      simp only [List.modify_succ_cons, total]
      omega

theorem total_modify_same {g : α → α} (same : ∀ x, f (g x) = f x) :
    total f (xs.modify n g) = total f xs := by
  cases here : xs[n]? with
  | none => rw [List.modify_eq_self (List.getElem?_eq_none_iff.mp here)]
  | some x =>
    have := total_modify (g := g) f here
    have := same x
    omega

end Lists

/-! ## What is spent -/

/-- A client goes on at a cost, and keeps its queue. -/
structure Spends (k : Nat) (c c₁ : Client) : Prop where
  grows : c.ready <+: c₁.ready
  timeless : c₁.now = c.now
  costs : c₁.unrest ≤ c.unrest + k

namespace Spends

theorem rfl : Spends 0 c c := ⟨List.prefix_rfl, Eq.refl _, Nat.le_refl _⟩

theorem mono (h : Spends a c c₁) (le : a ≤ b) : Spends b c c₁ :=
  ⟨h.grows, h.timeless, Nat.le_trans h.costs (Nat.add_le_add_left le _)⟩

theorem trans (h : Spends a c c₁) (h' : Spends b c₁ c₂) : Spends (a + b) c c₂ := by
  constructor
  · exact h.grows.trans h'.grows
  · exact h'.timeless.trans h.timeless
  · have := h.costs
    have := h'.costs
    omega

/-- Two steps that cost nothing but for the second. -/
theorem andThen (h : Spends 0 c c₁) (h' : Spends b c₁ c₂) : Spends b c c₂ :=
  (h.trans h').mono (by omega)

theorem foldl {α : Type} {f : Client → α → Client} (step : ∀ c x, Spends 0 c (f c x)) (xs : List α) :
    Spends 0 c (xs.foldl f c) := by
  induction xs generalizing c with
  | nil => exact rfl
  | cons x xs ih => exact (step c x).andThen ih

end Spends

theorem spends_push (t : Task) : Spends 1 c (c.push t) := by
  constructor
  · exact List.prefix_append _ _
  · rfl
  · simp only [push, unrest, List.length_append, List.length_singleton]
    omega

theorem spends_modifyLink {f : Link → Link} (same : ∀ k, (f k).cost = k.cost) :
    Spends 0 c (c.modifyLink l f) := by
  constructor
  · exact List.prefix_rfl
  · rfl
  · have same : total Link.cost (c.links.modify l f) = total Link.cost c.links :=
      total_modify_same Link.cost same
    simp only [modifyLink, unrest]
    omega

theorem spends_modifyProcess {f : Process → Process} (same : ∀ p, (f p).exitCode = p.exitCode) :
    Spends 0 c (c.modifyProcess l f) :=
  spends_modifyLink fun k => by simp [Link.cost, same]

theorem spends_setAttempt (p : AttemptPhase) :
    Spends (p.cost + if p.isWaiting then 1 else 0) c (c.setAttempt n p) := by
  constructor
  · exact List.prefix_rfl
  · rfl
  · have le : total Attempt.cost (c.attempts.set n ⟨p, none⟩) ≤
        total Attempt.cost c.attempts + Attempt.cost ⟨p, none⟩ := total_set_le Attempt.cost
    have : Attempt.cost ⟨p, none⟩ = p.cost + if p.isWaiting then 1 else 0 := by simp [Attempt.cost]
    simp only [setAttempt, unrest]
    omega

theorem spends_setCall (p : CallPhase) :
    Spends (p.cost + if p.isWaiting then 1 else 0) c (c.setCall n p) := by
  constructor
  · exact List.prefix_rfl
  · rfl
  · have le : total Call.cost (c.calls.set n ⟨p, none⟩) ≤
        total Call.cost c.calls + Call.cost ⟨p, none⟩ := total_set_le Call.cost
    have : Call.cost ⟨p, none⟩ = p.cost + if p.isWaiting then 1 else 0 := by simp [Call.cost]
    simp only [setCall, unrest]
    omega

theorem spends_finish (o : Outcome) : Spends 0 c (c.finish n o) :=
  (spends_setCall (.done o)).trans (b := 0) ⟨List.prefix_rfl, Eq.refl _, Nat.le_refl _⟩

/-! ## Waking and cancelling -/

theorem spends_wakeListener : Spends 1 c (c.wakeListener l) := by
  unfold wakeListener
  split
  · exact (spends_modifyLink fun _ => by rfl).andThen (spends_push _)
  · exact Spends.rfl.mono (by omega)

theorem spends_wakeDrain : Spends 1 c (c.wakeDrain l) := by
  unfold wakeDrain
  split
  · exact (spends_modifyLink fun _ => by rfl).andThen (spends_push _)
  · exact Spends.rfl.mono (by omega)

/-- Who waits has paid for being woken. -/
theorem spends_wakeAttempt : Spends 0 c (c.wakeAttempt n s) := by
  unfold wakeAttempt
  split
  · next p here =>
    split
    · next waits =>
      constructor
      · exact List.prefix_append _ _
      · rfl
      · have := total_set (y := ⟨p, some s⟩) Attempt.cost here
        have : Attempt.cost ⟨p, none⟩ = p.cost + 1 := by simp [Attempt.cost, waits]
        have : Attempt.cost ⟨p, some s⟩ = p.cost := by simp [Attempt.cost]
        simp only [push, unrest, List.length_append, List.length_singleton]
        omega
    · exact Spends.rfl
  · exact Spends.rfl

theorem spends_wakeCall : Spends 0 c (c.wakeCall n s) := by
  unfold wakeCall
  split
  · next p here =>
    split
    · next waits =>
      constructor
      · exact List.prefix_append _ _
      · rfl
      · have := total_set (y := ⟨p, some s⟩) Call.cost here
        have : Call.cost ⟨p, none⟩ = p.cost + 1 := by simp [Call.cost, waits]
        have : Call.cost ⟨p, some s⟩ = p.cost := by simp [Call.cost]
        simp only [push, unrest, List.length_append, List.length_singleton]
        omega
    · exact Spends.rfl
  · exact Spends.rfl

theorem spends_wake (t : Task) : Spends 0 c (c.wake t s) := by
  cases t with
  | attempt n => exact spends_wakeAttempt
  | call n => exact spends_wakeCall
  | listener l => exact Spends.rfl
  | drain l => exact Spends.rfl
  | relay n => exact Spends.rfl

theorem spends_wakeAttempts {p : AttemptPhase → Bool} : Spends 0 c (c.wakeAttempts p s) :=
  Spends.foldl (fun _ _ => spends_wakeAttempt) _

theorem spends_wakeCalls {p : CallPhase → Bool} : Spends 0 c (c.wakeCalls p s) :=
  Spends.foldl (fun _ _ => spends_wakeCall) _

theorem spends_wakeTeardowns {p : Teardown → Bool} : Spends 0 c (c.wakeTeardowns p s) :=
  spends_wakeCalls.andThen spends_wakeAttempts

theorem spends_cancelListener : Spends 1 c (c.cancelListener l) := by
  unfold cancelListener
  have told := spends_modifyLink (c := c) (l := l)
    (f := fun k => { k with listener := (c.link l).listener.cancel.1 }) fun _ => by rfl
  dsimp only
  split
  · exact told.andThen (spends_push _)
  · exact told.mono (by omega)

theorem spends_cancelDrain : Spends 1 c (c.cancelDrain l) := by
  unfold cancelDrain
  have told := spends_modifyLink (c := c) (l := l)
    (f := fun k => { k with drain := (c.link l).drain.cancel.1 }) fun _ => by rfl
  dsimp only
  split
  · exact told.andThen (spends_push _)
  · exact told.mono (by omega)

theorem spends_cancelAttempt : Spends 1 c (c.cancelAttempt n) := by
  unfold cancelAttempt
  split
  · next a here =>
    split
    · have told : Spends 0 c { c with attempts := c.attempts.set n ⟨a.phase, some .cancelled⟩ } := by
        constructor
        · exact List.prefix_rfl
        · rfl
        · have := total_set (y := ⟨a.phase, some .cancelled⟩) Attempt.cost here
          have : Attempt.cost ⟨a.phase, some .cancelled⟩ ≤ a.cost := by simp [Attempt.cost]
          simp only [unrest]
          omega
      dsimp only
      split
      · exact told.andThen (spends_push _)
      · exact told.mono (by omega)
    · exact Spends.rfl.mono (by omega)
  · exact Spends.rfl.mono (by omega)

/-! ## What a process does -/

theorem wakeListener_of_length_le (beyond : c.links.length ≤ l) : c.wakeListener l = c := by
  have : c.link l = default := by simp [link, List.getElem?_eq_none beyond]
  unfold wakeListener
  rw [this]
  rfl

theorem wakeDrain_of_length_le (beyond : c.links.length ≤ l) : c.wakeDrain l = c := by
  have : c.link l = default := by simp [link, List.getElem?_eq_none beyond]
  unfold wakeDrain
  rw [this]
  rfl

theorem spends_event (e : Event) : Spends 0 c (c.event l e) := ⟨List.prefix_rfl, Eq.refl _, Nat.le_refl _⟩

theorem spends_log {level : Log.Level} {text : String} : Spends 0 c (c.log level text) :=
  ⟨List.prefix_rfl, Eq.refl _, Nat.le_refl _⟩

/-- The end of a process pays for the end of its streams. -/
theorem spends_bury {f : Process → Process} (alive : c.isAlive l)
    (dead : ∀ p, (f p).exitCode.isNone = false) :
    Spends 0 c (((c.modifyProcess l f).wakeListener l).wakeDrain l) := by
  by_cases here : l < c.links.length
  · have found : c.links[l]? = some (c.link l) := by simp [link, here]
    have paid := total_modify (g := fun k => { k with process := f k.process }) Link.cost found
    have before : (c.link l).cost = 2 := if_pos alive
    have after : Link.cost { c.link l with process := f (c.link l).process } = 0 := by
      simp only [Link.cost, dead, Bool.false_eq_true, if_false]
    rw [before, after] at paid
    have woken := (spends_wakeListener (l := l) (c := c.modifyProcess l f)).trans
      (spends_wakeDrain (l := l))
    constructor
    · exact woken.grows
    · exact woken.timeless
    · have := woken.costs
      simp only [modifyProcess, modifyLink, unrest] at this paid ⊢
      omega
  · have beyond := Nat.le_of_not_lt here
    have same : c.modifyProcess l f = c := by
      rw [modifyProcess, modifyLink, List.modify_eq_self beyond]
    rw [same, wakeListener_of_length_le beyond, wakeDrain_of_length_le beyond]
    exact Spends.rfl

theorem spends_exit {code : Int} : Spends 0 c (c.exit l code) := by
  unfold exit
  split
  · next alive =>
    have buried := spends_bury (c := c.event l (.exited code)) (l := l) alive (f := fun p => { p with
      exitCode := some code
      output := { p.output with ended := true }
      errors := { p.errors with ended := true } }) fun _ => rfl
    exact ((spends_event _).andThen buried).andThen spends_wakeTeardowns
  · exact Spends.rfl

theorem spends_feed {bytes : List UInt8} : Spends 1 c (c.feed l bytes) := by
  unfold feed
  split
  · exact Spends.andThen (spends_modifyProcess fun _ => by rfl) spends_wakeListener
  · exact Spends.rfl.mono (by omega)

theorem spends_closeInput : Spends 0 c (c.closeInput l) := by
  unfold closeInput
  have closed : Spends 0 c ((c.event l .inputClosed).modifyProcess l fun p =>
      { p with inputClosed := true }) := (spends_event _).andThen (spends_modifyProcess fun _ => rfl)
  split
  · exact Spends.rfl
  · dsimp only
    split
    · exact closed.andThen spends_exit
    · exact closed

theorem spends_terminate : Spends 0 c (c.terminate l).1 := by
  unfold terminate
  have told := spends_event (c := c) (l := l) .terminated
  dsimp only
  split
  · exact told.andThen spends_exit
  · exact told
  · exact told

theorem spends_kill : Spends 0 c (c.kill l).1 := by
  unfold kill
  have told := spends_event (c := c) (l := l) .killed
  dsimp only
  split
  · exact told.andThen spends_exit
  · exact told

/-! ## Messages -/

theorem spends_write : Spends 1 c (c.write l m).1 := by
  unfold write
  split
  · exact Spends.rfl.mono (by omega)
  · dsimp only
    split
    · exact Spends.rfl.mono (by omega)
    · have written := spends_event (c := c) (l := l) (.wrote m)
      cases Policy.answer? (c.process l).policy m with
      | some reply =>
        have fed : Spends 1 c ((c.event l (.wrote m)).feed l (Wire.encode reply)) :=
          written.andThen spends_feed
        dsimp only
        split
        · exact fed
        · exact fed
      | none =>
        have fed := written.mono (Nat.zero_le 1)
        dsimp only
        split
        · exact fed
        · exact fed

/-- No process answers what is no request. -/
theorem spends_write_unanswered (quiet : ∀ p : Policy, Policy.answer? p m = none) :
    Spends 0 c (c.write l m).1 := by
  unfold write
  split
  · exact Spends.rfl
  · dsimp only
    rw [quiet]
    split
    · exact Spends.rfl
    · have written := spends_event (c := c) (l := l) (.wrote m)
      split
      · exact written
      · exact written

theorem spends_notify {method : String} {params : Json} :
    Spends 0 c (c.notify l method params).1 := by
  unfold notify
  split
  · exact Spends.rfl
  · refine spends_write_unanswered fun p => ?_
    unfold Policy.answer? message Json.get?
    by_cases e : params = .null <;> simp [e, Json.Members.get?]

theorem spends_forget : Spends 0 c (c.forget l n) := spends_modifyLink fun _ => by rfl

theorem spends_request {u : Task} {method : String} {params : Json} :
    Spends 1 c (c.request l u method params).1 := by
  unfold request
  split
  · exact Spends.rfl.mono (by omega)
  · dsimp only
    have asked (id : Nat) := (spends_modifyLink (c := c) (l := l) (f := fun k =>
      { k with lastId := id, pending := k.pending ++ [(id, u)] }) fun _ => by rfl).andThen
        (spends_write (l := l) (m := message (some id) method params))
    have wrote := asked ((c.link l).lastId + 1)
    split
    · next written => rwa [written] at wrote
    · next written =>
      rw [written] at wrote
      exact (wrote.trans spends_forget).mono (by omega)

theorem spends_failPending {reason : Ending} : Spends 0 c (c.failPending l reason) :=
  (spends_modifyLink fun _ => by rfl).andThen (Spends.foldl (fun _ _ => spends_wake _) _)

/-! ## Listening -/

theorem spends_rejectRequest {id method : Json} : Spends 0 c (c.rejectRequest l id method) := by
  unfold rejectRequest
  dsimp only
  have said : Spends 0 c
      (c.log .debug ("[" ++ c.id ++ "] Rejecting server request " ++ method.plain)) := spends_log
  have wrote := said.andThen (spends_write_unanswered (l := l) (m := rejection id method) fun p => by
    simp [Policy.answer?, rejection, Json.get?, Json.Members.get?])
  split
  · next written => rwa [written] at wrote
  · next written =>
    rw [written] at wrote
    exact wrote.andThen spends_log

theorem spends_handleResponse {id : Json} {ms : Json.Members} :
    Spends 0 c (c.handleResponse l id ms).1 := by
  unfold handleResponse
  split
  · split
    · exact spends_log
    · exact Spends.rfl
  · split
    · exact spends_log
    · dsimp only
      split
      · exact spends_forget.andThen spends_log
      · split
        · exact spends_forget.andThen (spends_wake _)
        · exact spends_forget

theorem spends_dispatch : Spends 0 c (c.dispatch l m).1 := by
  unfold dispatch
  split
  · exact Spends.rfl
  · exact spends_handleResponse
  · unfold handleNotification
    dsimp only
    split
    · exact spends_log
    · exact spends_event _
    · exact Spends.rfl
  · exact spends_rejectRequest

theorem spends_giveUp : Spends 0 c c.giveUp := by
  have fails {b : Client} (h : Spends 0 c b) :
      Spends 0 c { b with state := .failed, capabilities := .null } :=
    ⟨h.grows, h.timeless, h.costs⟩
  unfold giveUp
  refine fails ?_
  split
  · split
    · exact spends_kill
    · exact Spends.rfl
  · exact Spends.rfl

theorem spends_announceFault {f : Wire.Fault} : Spends 0 c (c.announceFault l f) := by
  unfold announceFault
  split
  · exact spends_log.andThen spends_giveUp
  · exact spends_event _
  · exact Spends.rfl

theorem spends_announceEnd : Spends 0 c (c.announceEnd l) := by
  unfold announceEnd
  split
  · exact spends_log.andThen spends_giveUp
  · exact spends_event _
  · exact Spends.rfl

theorem spends_endListener : Spends 0 c (c.endListener l) :=
  Spends.andThen (spends_modifyLink fun _ => by rfl) spends_wakeTeardowns

theorem spends_stopListening {turn : Turn} {reason : Ending} :
    Spends 0 c (c.stopListening l turn reason) := by
  cases turn with
  | first => exact spends_failPending.andThen spends_endListener
  | later => exact spends_failPending.andThen (spends_modifyLink fun _ => by rfl)

theorem spends_stopAfter {turn : Turn} {reason : Ending} {announce : Client → Client}
    (announces : Spends 0 c (announce c)) : Spends 0 c (c.stopAfter l turn reason announce) := by
  unfold stopAfter
  dsimp only
  split
  · exact spends_stopListening
  · exact announces.andThen spends_stopListening

theorem spends_crashListening {turn : Turn} {fault : Json.Misuse} :
    Spends 0 c (c.crashListening l turn fault) := by
  refine Spends.andThen (spends_modifyLink fun k => ?_) spends_stopListening
  split
  · rfl
  · rfl

theorem spends_setOutput {rest : List UInt8} : Spends 0 c (c.setOutput l rest) :=
  spends_modifyProcess fun _ => rfl

theorem spends_pauseListening {reading : Wire.Reading} :
    Spends 0 c (c.pauseListening l reading) :=
  Spends.andThen (spends_modifyLink fun _ => by rfl) (spends_modifyLink fun _ => by rfl)

/-- A listener wakes only those who have paid for it, however much it takes. -/
theorem spends_listen {turn : Turn} {fuel : Nat} {reading : Wire.Reading} :
    Spends 0 c (listen l turn fuel reading c) := by
  induction fuel generalizing c reading with
  | zero =>
    unfold listen
    split
    · exact spends_pauseListening
    · exact Spends.rfl
  | succ fuel ih =>
    unfold listen
    split
    · split
      · exact spends_setOutput.andThen spends_pauseListening
      · exact spends_setOutput.andThen (spends_stopAfter spends_announceFault)
    · exact spends_setOutput.andThen (spends_stopAfter spends_announceFault)
    · exact spends_setOutput.andThen (spends_stopAfter spends_announceEnd)
    · next m rest _ =>
      have set : Spends 0 c (c.setOutput l rest) := spends_setOutput
      have dealt := set.andThen (spends_dispatch (l := l) (m := m))
      split
      · next done =>
        rw [done] at dealt
        split
        · exact dealt.andThen spends_stopListening
        · exact dealt.andThen ih
      · next done =>
        rw [done] at dealt
        exact dealt.andThen spends_crashListening

theorem spends_beginListening {turn : Turn} : Spends 0 c (c.beginListening l turn) := by
  unfold beginListening
  split
  · exact spends_stopListening
  · exact spends_listen

theorem spends_runListener : Spends 0 c (c.runListener l) := by
  unfold runListener
  dsimp only
  split
  · exact spends_endListener
  · exact spends_stopListening
  · exact Spends.andThen (spends_modifyLink fun _ => by rfl) spends_beginListening
  · exact Spends.andThen (spends_modifyLink fun _ => by rfl) spends_listen

theorem spends_startListening : Spends 1 c (c.startListening l) := by
  unfold startListening
  dsimp only
  split
  · exact Spends.rfl.mono (by omega)
  · exact (Spends.andThen (spends_modifyLink fun _ => by rfl) spends_beginListening).mono (by omega)
  · exact Spends.andThen (spends_modifyLink fun _ => by rfl) (spends_push _)

theorem spends_endDrain : Spends 0 c (c.endDrain l) :=
  Spends.andThen (spends_modifyLink fun _ => by rfl) spends_wakeTeardowns

theorem spends_readErrors {fuel : Nat} : Spends 0 c (readErrors l fuel c) := by
  have rests (c : Client) : Spends 0 c (c.setDrain l .waiting) :=
    spends_modifyLink fun _ => by rfl
  have takes (c : Client) (rest : List UInt8) : Spends 0 c (c.setErrors l rest) :=
    spends_modifyProcess fun _ => rfl
  induction fuel generalizing c with
  | zero => exact rests c
  | succ fuel ih =>
    unfold readErrors
    split
    · exact rests c
    · exact spends_endDrain
    · exact ((takes c _).andThen spends_log).andThen spends_endDrain
    · exact ((takes c _).andThen spends_log).andThen ih

theorem spends_runDrain : Spends 0 c (c.runDrain l) := by
  unfold runDrain
  split
  · exact spends_endDrain
  · exact Spends.andThen (spends_modifyLink fun _ => by rfl) spends_readErrors

theorem spends_startDraining : Spends 1 c (c.startDraining l) :=
  Spends.andThen (spends_modifyLink fun _ => by rfl) (spends_push _)

/-! ## Teardowns -/

/-- What it costs to go on from where a teardown stands, if `rest` follows it. -/
def Progress.cost (rest : Nat) : Progress → Nat
  | .waits t => t.cost + rest + 1
  | .over _ => rest

/-- A step of a teardown, with what it costs to go on from there. -/
def Pays (k rest : Nat) (c : Client) (r : Client × Progress) : Prop :=
  ∃ a, Spends a c r.1 ∧ a + r.2.cost rest ≤ k

section Teardowns

variable {rest : Nat}

theorem Pays.mono {r : Client × Progress} (h : Pays a rest c r) (le : a ≤ b) : Pays b rest c r :=
  have ⟨d, spends, cost⟩ := h
  ⟨d, spends, Nat.le_trans cost le⟩

theorem Pays.after {r : Client × Progress} (first : Spends 0 c c₁) (h : Pays a rest c₁ r) :
    Pays a rest c r :=
  have ⟨d, spends, cost⟩ := h
  ⟨d, first.andThen spends, cost⟩

theorem pays_over (o : Outcome) : Pays rest rest c (c, .over o) := ⟨0, Spends.rfl, by simp [Progress.cost]⟩

theorem pays_closeDrain : Pays (rest + 2) rest c (c.closeDrain t) := by
  unfold closeDrain
  split
  · exact (pays_over _).mono (by omega)
  · split
    · exact ⟨1, spends_cancelDrain, by simp only [Progress.cost, Teardown.cost, Stage.left]; omega⟩
    · exact ⟨1, spends_cancelDrain, by simp only [Progress.cost, Teardown.cost, Stage.left]; omega⟩
    · exact (pays_over _).mono (by omega)

theorem pays_closeByKill : Pays (rest + 2) rest c (c.closeByKill t) := by
  unfold closeByKill
  have killed := spends_kill (c := c) (l := t.link)
  split
  · next done =>
    rw [done] at killed
    exact pays_closeDrain.after killed
  · next done =>
    rw [done] at killed
    exact ((pays_over _).mono (by omega)).after killed

theorem pays_closeProcess : Pays (rest + 4) rest c (c.closeProcess t) := by
  unfold closeProcess
  split
  · have told := spends_terminate (c := c) (l := t.link)
    split
    · next done =>
      rw [done] at told
      split
      · exact ⟨0, told, by simp only [Progress.cost, Teardown.cost, Stage.left]; omega⟩
      · exact (pays_closeDrain.mono (by omega)).after told
    · next done =>
      rw [done] at told
      exact (pays_closeDrain.mono (by omega)).after told
  · exact pays_closeDrain.mono (by omega)

theorem pays_closeGracefully : Pays (rest + 5) rest c (c.closeGracefully t) := by
  unfold closeGracefully
  split
  · exact ⟨0, Spends.rfl, by simp only [Progress.cost, Teardown.cost, Stage.left]; omega⟩
  · exact pays_closeDrain.mono (by omega)

theorem pays_closeStream : Pays (rest + 7) rest c (c.closeStream t) := by
  unfold closeStream
  have failed : Spends 0 c (c.failPending t.link .deliberate) := spends_failPending
  have closed := failed.andThen (spends_closeInput (l := t.link))
  dsimp only
  split
  · exact ⟨0, closed, by simp only [Progress.cost, Teardown.cost, Stage.left]; omega⟩
  · exact (pays_closeGracefully.mono (by omega)).after closed

theorem pays_closeAfterListener : Pays (rest + 7) rest c (c.closeAfterListener t) := by
  unfold closeAfterListener
  split
  · exact (pays_over _).mono (by omega)
  · exact pays_closeStream

theorem pays_closeConnection : Pays (rest + 10) rest c (c.closeConnection t) := by
  unfold closeConnection
  have shut : Spends 0 c (c.modifyLink t.link fun k => { k with closed := true }) :=
    spends_modifyLink fun _ => by rfl
  dsimp only
  split
  · exact (pays_closeAfterListener.mono (by omega)).after shut
  · split
    · refine ⟨1, shut.andThen spends_cancelListener, ?_⟩
      simp only [Progress.cost, Teardown.cost, Stage.left]
      omega
    · refine ⟨1, shut.andThen spends_cancelListener, ?_⟩
      simp only [Progress.cost, Teardown.cost, Stage.left]
      omega
    · exact (pays_closeAfterListener.mono (by omega)).after shut
    · exact (pays_closeStream.mono (by omega)).after shut

theorem pays_release : Pays (rest + 10) rest c c.release := by
  unfold release
  have freed : Spends 0 c { c with held := .nothing } := ⟨List.prefix_rfl, Eq.refl _, Nat.le_refl _⟩
  dsimp only
  split
  · exact pays_closeConnection.after freed
  · exact (pays_closeProcess.mono (by omega)).after freed
  · exact ((pays_over _).mono (by omega)).after freed

/-- A teardown that goes on comes to a later stage, which costs less. -/
theorem pays_resumeTeardown : Pays (t.cost + rest) rest c (c.resumeTeardown t s) := by
  unfold resumeTeardown Teardown.cost
  cases t.stage with
  | listener => exact pays_closeAfterListener.mono (by simp only [Stage.left]; omega)
  | drain => exact (pays_over _).mono (by omega)
  | input d =>
    dsimp only
    split
    · exact (pays_over _).mono (by omega)
    · exact pays_closeGracefully.mono (by simp only [Stage.left]; omega)
  | grace d =>
    dsimp only
    split
    · exact (pays_over _).mono (by omega)
    · exact pays_closeProcess.mono (by simp only [Stage.left]; omega)
  | terminated d =>
    dsimp only
    split
    · exact (pays_over _).mono (by omega)
    · exact pays_closeByKill.mono (by simp only [Stage.left]; omega)
    · exact pays_closeDrain.mono (by simp only [Stage.left]; omega)

end Teardowns

/-! ## Attempts -/

section Attempts

variable {o : Outcome} {e : Error} {r : Client × Progress}

theorem spends_endAttempt : Spends 1 c (c.endAttempt n o) := by
  have ended : Spends 1 c ((c.setAttempt n (.done o)).push (.relay n)) :=
    Spends.andThen (spends_setAttempt (.done o)) (spends_push _)
  exact (ended.trans spends_wakeCalls).mono (by omega)

theorem spends_afterFailing (pays : Pays k 1 c r) : Spends k c (r.1.afterFailing n o r.2) := by
  obtain ⟨a, spends, cost⟩ := pays
  obtain ⟨c₁, p⟩ := r
  cases p with
  | waits t =>
    exact (spends.trans (spends_setAttempt (.failing t o))).mono
      (by simpa [Progress.cost, AttemptPhase.cost, AttemptPhase.isWaiting] using cost)
  | «over» o' =>
    cases o' with
    | value j =>
      have marked : Spends 0 c₁ c₁.markFailed := ⟨List.prefix_rfl, Eq.refl _, Nat.le_refl _⟩
      exact (spends.trans (marked.andThen spends_endAttempt)).mono (by simpa [Progress.cost] using cost)
    | error e => exact (spends.trans spends_endAttempt).mono (by simpa [Progress.cost] using cost)
    | cancelled => exact (spends.trans spends_endAttempt).mono (by simpa [Progress.cost] using cost)

theorem spends_abandon : Spends 11 c (c.abandon n o) := spends_afterFailing pays_release

theorem spends_failAttempt : Spends 11 c (c.failAttempt n e) :=
  spends_log.andThen spends_abandon

theorem spends_introduce : Spends 13 c (c.introduce n l) := by
  unfold introduce
  have asked : Spends 1 c (c.request l (.attempt n) "initialize" c.introduction).1 :=
    spends_request
  split
  · next id done =>
    rw [done] at asked
    exact asked.trans (spends_setAttempt (.handshake l id))
  · next done =>
    rw [done] at asked
    exact (asked.trans spends_failAttempt).mono (by omega)

theorem spends_connect {p : Policy} : Spends 17 c (c.connect n p) := by
  unfold connect
  have joined (held : Held) : Spends 2 c { c with
      links := c.links ++ [Link.ofPolicy (c.spawns - 1) p], held := held } := by
    constructor
    · exact List.prefix_rfl
    · rfl
    · have : (Link.ofPolicy (c.spawns - 1) p).cost = 2 := rfl
      simp only [unrest, total_concat]
      omega
  have holds (c : Client) (held : Held) : Spends 0 c { c with held := held } :=
    ⟨List.prefix_rfl, Eq.refl _, Nat.le_refl _⟩
  dsimp only
  split
  · have heard := (joined ⟨some c.links.length, some c.links.length, c.held.drain⟩).trans
      (spends_startListening (l := c.links.length))
    split
    · exact ((heard.trans ((holds _ _).andThen spends_startDraining)).trans spends_introduce).mono
        (by omega)
    · exact (heard.trans spends_introduce).mono (by omega)
  · exact ((joined _).trans spends_failAttempt).mono (by omega)

theorem spends_spawn : Spends 17 c (c.spawn n) := by
  unfold spawn
  have run (ps : List Policy) : Spends 0 c ({ c with policies := ps, spawns := c.spawns + 1 }.emit
      (.event c.spawns .spawned)) := ⟨List.prefix_rfl, Eq.refl _, Nat.le_refl _⟩
  dsimp only
  split
  · exact spends_failAttempt.mono (by omega)
  · split
    · exact ((run _).andThen spends_failAttempt).mono (by omega)
    · exact ((run _).andThen spends_failAttempt).mono (by omega)
    · exact (run _).andThen spends_connect

theorem spends_afterClearing (pays : Pays k 17 c r) : Spends k c (r.1.afterClearing n r.2) := by
  obtain ⟨a, spends, cost⟩ := pays
  obtain ⟨c₁, p⟩ := r
  cases p with
  | waits t =>
    exact (spends.trans (spends_setAttempt (.clearing t))).mono
      (by simpa [Progress.cost, AttemptPhase.cost, AttemptPhase.isWaiting] using cost)
  | «over» o' =>
    simp only [Progress.cost] at cost
    cases o' with
    | value j =>
      have begun : Spends 0 c₁ ({ c₁ with state := .starting }.log .info ("Starting LSP " ++ c₁.id ++
          ": " ++ String.intercalate " " (c₁.config.command :: c₁.config.args))) :=
        ⟨List.prefix_rfl, Eq.refl _, Nat.le_refl _⟩
      exact (spends.trans (begun.andThen spends_spawn)).mono cost
    | error e => exact (spends.trans spends_endAttempt).mono (by omega)
    | cancelled => exact (spends.trans spends_endAttempt).mono (by omega)

theorem spends_completeHandshake {result : Json} : Spends 11 c (c.completeHandshake n result) := by
  unfold completeHandshake
  split
  · exact spends_failAttempt
  · next l _ =>
    have told : Spends 0 c (c.notify l "initialized" (.obj [])).1 := spends_notify
    split
    · next done =>
      rw [done] at told
      exact told.andThen spends_failAttempt
    · next c₁ done =>
      rw [done] at told
      split
      · exact told.andThen spends_failAttempt
      · next capabilities _ =>
        have ready : Spends 0 c₁ ({ { c₁ with capabilities := capabilities }.log .debug
            ("LSP " ++ c₁.id ++ " capabilities: " ++ capabilities.compact) with
              state := .ready }.log .info ("LSP " ++ c₁.id ++ " initialized successfully")) :=
          ⟨List.prefix_rfl, Eq.refl _, Nat.le_refl _⟩
        exact ((told.andThen ready).andThen spends_endAttempt).mono (by omega)

/-- An attempt pays for its turn with what it has left. -/
theorem spends_runAttempt : Spends 0 c (c.runAttempt n) := by
  unfold runAttempt
  split
  · exact Spends.rfl
  · next phase signal here =>
    -- What the attempt had left is free to be spent while it runs.
    have frees {c₁ : Client} (h : Spends phase.cost (c.setAttempt n .running) c₁) :
        Spends 0 c c₁ := by
      constructor
      · exact h.grows
      · exact h.timeless
      · have := h.costs
        have freed := total_set (y := ⟨.running, none⟩) Attempt.cost here
        have : Attempt.cost ⟨.running, none⟩ = 0 := rfl
        have : phase.cost ≤ Attempt.cost ⟨phase, signal⟩ := Nat.le_add_right _ _
        simp only [setAttempt, unrest] at *
        omega
    refine frees ?_
    dsimp only
    cases phase with
    | fresh =>
      dsimp only
      split
      · exact spends_endAttempt.mono (by simp [AttemptPhase.cost])
      · exact spends_afterClearing pays_release
    | clearing t => exact spends_afterClearing pays_resumeTeardown
    | handshake l id =>
      dsimp only
      split
      · exact spends_completeHandshake
      · exact spends_failAttempt
      · exact spends_forget.andThen spends_abandon
    | failing t o => exact spends_afterFailing pays_resumeTeardown
    | running => exact spends_setAttempt .running
    | done o => exact spends_setAttempt (.done o)

end Attempts

/-! ## Calls -/

section Calls

variable {sends rest : List Send} {last : Json} {o : Outcome} {r : Client × Progress}

theorem spends_shareAttempt : Spends 28 c c.shareAttempt.1 := by
  unfold shareAttempt
  have added : Spends 27 c { c with
      attempts := c.attempts ++ [Attempt.mk .fresh (some .go)], attempt := some c.attempts.length } := by
    constructor
    · exact List.prefix_rfl
    · rfl
    · have : Attempt.cost (Attempt.mk .fresh (some .go)) = 27 := rfl
      simp only [unrest, total_concat]
      omega
  dsimp only
  split
  · split
    · exact added.trans (spends_push _)
    · exact Spends.rfl.mono (by omega)
  · exact added.trans (spends_push _)

/-- The cost of what is to be sent. -/
def sendsCost (sends : List Send) : Nat := sendCost * sends.length

theorem spends_join (some : 1 ≤ sends.length) : Spends (sendsCost sends) c (c.join n sends) := by
  have joined := spends_shareAttempt.trans (spends_setCall (c := c.shareAttempt.1) (n := n)
    (.joined c.shareAttempt.2 sends))
  have cost : sendsCost sends = sendCost * (sends.length - 1) + 31 := by
    unfold sendsCost sendCost
    omega
  simp only [CallPhase.cost, CallPhase.isWaiting, if_true] at joined
  exact joined.mono (by omega)

theorem spends_join_nil : Spends 31 c (c.join n []) :=
  spends_shareAttempt.trans (spends_setCall (.joined _ []))

/-- What it costs to go on from where a send stands. -/
def Sent.cost (rest : List Send) : Sent → Nat
  | .done => 0
  | .parked => sendsCost rest + 2

theorem spends_sendOne {send : Send} :
    Spends ((c.sendOne n send rest).2.cost rest) c (c.sendOne n send rest).1 := by
  have parks {k : Nat} {c₁ : Client} (h : Spends k c c₁) (le : k ≤ sendsCost rest + 2) :
      Spends (Sent.cost rest .parked) c c₁ := h.mono le
  unfold sendOne
  cases c.usableLink with
  | error e => exact parks (spends_finish _) (by omega)
  | ok l =>
    cases send with
    | notify method params =>
      have told : Spends 0 c (c.notify l method params).1 := spends_notify
      dsimp only
      generalize c.notify l method params = r at told ⊢
      obtain ⟨c₁, e | _⟩ := r
      · exact parks (told.andThen (spends_finish (n := n) (.error e))) (by omega)
      · exact told
    | request method params =>
      have asked : Spends 1 c (c.request l (.call n) method params).1 := spends_request
      dsimp only
      generalize c.request l (.call n) method params = r at asked ⊢
      obtain ⟨c₁, e | id⟩ := r
      · exact parks (asked.trans (spends_finish (n := n) (.error e))) (by omega)
      · refine parks (asked.trans (spends_setCall (.awaiting l id rest))) ?_
        simp only [CallPhase.cost, CallPhase.isWaiting, sendsCost, if_true]
        omega

theorem spends_sendAll : Spends (sendsCost sends) c (c.sendAll n last sends) := by
  induction sends generalizing c last with
  | nil => exact spends_finish _
  | cons send rest ih =>
    unfold sendAll
    split
    · exact spends_join (by simp)
    · have sent := @spends_sendOne c n rest send
      have more : sendsCost (send :: rest) = sendsCost rest + 31 := by
        simp only [sendsCost, sendCost, List.length_cons]
        omega
      generalize c.sendOne n send rest = r at sent ⊢
      obtain ⟨c₁, done | parked⟩ := r
      · exact (Spends.andThen sent ih).mono (by omega)
      · exact Spends.mono sent (by simp only [Sent.cost]; omega)

theorem spends_sendJoined :
    Spends (sendCost * (sends.length - 1) + 2) c (c.sendJoined n sends) := by
  cases sends with
  | nil => exact (spends_finish _).mono (by omega)
  | cons send rest =>
    unfold sendJoined
    dsimp only
    have sent := @spends_sendOne c n rest send
    have more : sendCost * ((send :: rest).length - 1) = sendsCost rest := rfl
    generalize c.sendOne n send rest = r at sent ⊢
    obtain ⟨c₁, done | parked⟩ := r
    · exact (Spends.andThen sent (spends_sendAll (n := n))).mono (by omega)
    · exact Spends.mono sent (by simp only [Sent.cost]; omega)

theorem spends_reset : Spends 0 c c.reset := ⟨List.prefix_rfl, Eq.refl _, Nat.le_refl _⟩

theorem spends_afterDisposing (pays : Pays k 0 c r) : Spends k c (r.1.afterDisposing n r.2) := by
  obtain ⟨a, spends, cost⟩ := pays
  obtain ⟨c₁, p⟩ := r
  cases p with
  | waits t =>
    exact (spends.trans (spends_setCall (.disposing t))).mono
      (by simpa [Progress.cost, CallPhase.cost, CallPhase.isWaiting] using cost)
  | «over» o' =>
    have ended {c₂ : Client} (done : Spends 0 c₁ c₂) : Spends k c c₂ :=
      (spends.trans done).mono (by simpa [Progress.cost] using cost)
    cases o' with
    | value j => exact ended (spends_reset.andThen (spends_finish _))
    | error e => exact ended ((spends_log.andThen spends_reset).andThen (spends_finish _))
    | cancelled => exact ended (spends_reset.andThen (spends_finish _))

theorem spends_takeDown : Spends 10 c (c.takeDown n) := spends_afterDisposing pays_release

theorem spends_shutDown : Spends 12 c (c.shutDown n) := by
  unfold shutDown
  split
  · exact spends_takeDown.mono (by omega)
  · next l _ =>
    have expects : Spends 0 c (c.expectEnd l) := spends_modifyLink fun _ => by rfl
    have asked : Spends 1 c ((c.expectEnd l).request l (.call n) "shutdown" .null).1 :=
      expects.andThen spends_request
    dsimp only
    split
    · next id done =>
      rw [done] at asked
      exact asked.trans (spends_setCall (.shuttingDown l id _))
    · next done =>
      rw [done] at asked
      exact (asked.trans ((spends_setCall (.shuttingDown l 0 _)).trans spends_wakeCall)).mono
        (by simp [CallPhase.cost, CallPhase.isWaiting])

theorem spends_sendExit : Spends 10 c (c.sendExit n l) := by
  unfold sendExit
  have told : Spends 0 c (c.notify l "exit" .null).1 := spends_notify
  split
  · next done =>
    rw [done] at told
    exact told.andThen spends_takeDown
  · next done =>
    rw [done] at told
    exact (told.andThen spends_log).andThen spends_takeDown

theorem spends_dispose : Spends 14 c (c.dispose n) := by
  unfold dispose
  split
  · exact spends_shutDown.mono (by omega)
  · next a _ =>
    have freed : Spends 0 c { c with attempt := none } := ⟨List.prefix_rfl, Eq.refl _, Nat.le_refl _⟩
    dsimp only
    split
    · exact (freed.andThen spends_shutDown).mono (by omega)
    · exact (freed.andThen (spends_cancelAttempt.trans (spends_setCall (.stopping a)))).mono
        (by simp [CallPhase.cost, CallPhase.isWaiting])

theorem spends_afterStopping : Spends 12 c (c.afterStopping n a) := by
  unfold afterStopping
  split
  · exact spends_log.andThen spends_shutDown
  · exact spends_shutDown

theorem spends_afterClosing (pays : Pays k 0 c r) : Spends k c (r.1.afterClosing n r.2) := by
  obtain ⟨a, spends, cost⟩ := pays
  obtain ⟨c₁, p⟩ := r
  cases p with
  | waits t =>
    exact (spends.trans (spends_setCall (.closing t))).mono
      (by simpa [Progress.cost, CallPhase.cost, CallPhase.isWaiting] using cost)
  | «over» o => exact (spends.trans (spends_finish o)).mono (by simpa [Progress.cost] using cost)

theorem spends_beginCall (job : Job) :
    Spends (CallPhase.fresh job).cost c (c.beginCall n job) := by
  cases job with
  | start =>
    unfold beginCall
    dsimp only
    split
    · exact spends_join_nil
    · exact (spends_finish _).mono (by omega)
  | sends sends => exact spends_sendAll
  | listen => exact (spends_startListening.trans (spends_finish _)).mono (by simp [CallPhase.cost])
  | close => exact spends_afterClosing pays_closeConnection
  | dispose => exact spends_dispose

/-- A call pays for its turn with what it has left. -/
theorem spends_resumeCall {p : CallPhase} : Spends p.cost c (c.resumeCall n s p) := by
  have ends {c₁ : Client} (o : Outcome) {k : Nat} (before : Spends 0 c c₁) :
      Spends k c (c₁.finish n o) := (before.andThen (spends_finish o)).mono (by omega)
  unfold resumeCall
  cases p with
  | fresh job =>
    dsimp only
    split
    · exact ends _ Spends.rfl
    · exact spends_beginCall job
  | joined a sends =>
    dsimp only
    split
    · exact spends_sendJoined
    · exact ends _ Spends.rfl
    · exact ends _ Spends.rfl
  | awaiting l id rest =>
    dsimp only
    split
    · exact spends_sendAll
    · exact ends _ Spends.rfl
    · exact ends _ spends_forget
  | closing t => exact spends_afterClosing pays_resumeTeardown
  | stopping a => exact spends_afterStopping
  | shuttingDown l id d =>
    dsimp only
    split
    · exact spends_sendExit
    · exact spends_log.andThen spends_takeDown
    · exact (spends_forget.andThen spends_log).andThen spends_takeDown
    · exact ends _ (spends_forget.andThen spends_reset)
  | disposing t => exact spends_afterDisposing pays_resumeTeardown
  | running => exact spends_setCall .running
  | done o => exact spends_setCall (.done o)

theorem spends_runCall : Spends 0 c (c.runCall n) := by
  unfold runCall
  split
  · exact Spends.rfl
  · next phase signal here =>
    have spent := spends_resumeCall (c := c.setCall n .running) (n := n) (s := signal.getD .go)
      (p := phase)
    constructor
    · exact spent.grows
    · exact spent.timeless
    · have := spent.costs
      have freed := total_set (y := ⟨.running, none⟩) Call.cost here
      have : Call.cost ⟨.running, none⟩ = 0 := rfl
      have : phase.cost ≤ Call.cost ⟨phase, signal⟩ := Nat.le_add_right _ _
      simp only [setCall, unrest] at *
      omega

theorem spends_runRelay : Spends 0 c (c.runRelay n) := by
  unfold runRelay
  split
  · exact spends_wakeCalls
  · exact Spends.rfl

end Calls

/-! ## Steps -/

/-- What the clock shows after an input. -/
def Input.clock (now : Nat) : Input → Nat
  | .time moment _ => moment
  | _ => now

/-- What comes from outside adds to the queue at most, and only time sets the clock. -/
theorem step_outside {i : Input} (outside : i ≠ .turn) :
    c.ready <+: (c.step i).ready ∧ (c.step i).now = i.clock c.now := by
  have onLast {f : Client → Nat → Client} (keeps : ∀ l, ∃ k, Spends k c (f c l)) :
      c.ready <+: (c.onLastLink f).ready ∧ (c.onLastLink f).now = c.now := by
    unfold onLastLink
    split
    · exact ⟨List.prefix_rfl, rfl⟩
    · next rest _ =>
      obtain ⟨_, spends⟩ := keeps rest.length
      exact ⟨spends.grows, spends.timeless⟩
  cases i with
  | turn => exact absurd rfl outside
  | call job => exact ⟨List.prefix_append _ _, rfl⟩
  | cancel n =>
    show c.ready <+: (c.cancelCall n).ready ∧ (c.cancelCall n).now = c.now
    unfold cancelCall
    split
    · exact ⟨spends_cancelAttempt.grows, spends_cancelAttempt.timeless⟩
    · split
      · dsimp only
        split
        · exact ⟨List.prefix_append _ _, rfl⟩
        · exact ⟨List.prefix_rfl, rfl⟩
      · exact ⟨List.prefix_rfl, rfl⟩
    · exact ⟨List.prefix_rfl, rfl⟩
  | output bytes => exact onLast fun l => ⟨1, spends_feed⟩
  | errors bytes =>
    refine onLast fun l => ⟨1, ?_⟩
    unfold feedErrors
    split
    · exact Spends.andThen (spends_modifyProcess fun _ => by rfl) spends_wakeDrain
    · exact Spends.rfl.mono (by omega)
  | outputEnd =>
    refine onLast fun l => ⟨1, ?_⟩
    unfold endOutput
    split
    · exact Spends.andThen (spends_modifyProcess fun _ => by rfl) spends_wakeListener
    · exact Spends.rfl.mono (by omega)
  | exit code => exact onLast fun l => ⟨0, spends_exit⟩
  | inputFault fault =>
    refine onLast fun l => ⟨0, ?_⟩
    exact spends_modifyProcess fun _ => rfl
  | expectEnd => exact ⟨List.prefix_rfl, rfl⟩
  | time moment due =>
    have woken := (spends_wakeAttempts (c := { c with now := moment })
      (p := fun p => isDue due p.deadline?) (s := .timedOut)).andThen
        (spends_wakeCalls (p := fun p => isDue due p.deadline?) (s := .timedOut))
    exact ⟨woken.grows, woken.timeless⟩

theorem spends_runTask (t : Task) : Spends 0 c (c.runTask t) := by
  cases t with
  | listener l => exact spends_runListener
  | drain l => exact spends_runDrain
  | attempt n => exact spends_runAttempt
  | call n => exact spends_runCall
  | relay a => exact spends_runRelay

/-- The first activity leaves the queue, the others stay in their order, and new ones come after
them. -/
theorem ready_turn {t : Task} {rest : List Task} (first : c.ready = t :: rest) :
    rest <+: c.turn.ready := by
  unfold turn
  rw [first]
  exact (spends_runTask (c := { c with ready := rest }) t).grows

theorem now_turn : c.turn.now = c.now := by
  unfold turn
  split
  · rfl
  · exact (spends_runTask _).timeless

/-- A client that takes a turn comes nearer to rest. -/
theorem unrest_turn (busy : c.ready ≠ []) : c.turn.unrest < c.unrest := by
  obtain ⟨t, rest, first⟩ := List.exists_cons_of_ne_nil busy
  unfold turn
  rw [first]
  have spent := (spends_runTask (c := { c with ready := rest }) t).costs
  simp only [unrest, first, List.length_cons] at spent ⊢
  omega

end LspGateway.Client
