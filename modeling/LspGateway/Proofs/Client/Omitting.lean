import LspGateway.Proofs.Client.Frames
import Mathlib.Tactic.Simps.Basic

/-! # A client without some of its calls

What is left of a client when some of its calls are left out, and what it reports. Whatever is
done to the rest of a client comes to the same, be these calls there or not.
-/

namespace LspGateway.Client

variable {W : Nat → Bool} {c x y : Client} {l n k id : Nat} {t : Task} {s : Signal} {u : Teardown}
  {m : Json} {f : Link → Link}

/-- An activity that is one of these calls. -/
def Task.isOf (W : Nat → Bool) : Task → Bool
  | .call n => W n
  | _ => false

/-- An event, or the end of a call that is none of these. -/
def Output.isSeen (W : Nat → Bool) : Output → Bool
  | .event _ _ => true
  | .log _ => false
  | .finished n _ => !W n

/-- A link without the requests of these calls. -/
@[simps] def Link.without (W : Nat → Bool) (k : Link) : Link :=
  { k with pending := k.pending.filter fun p => !p.2.isOf W }

/-- A client without these calls. Their places stay. -/
@[simps] def without (W : Nat → Bool) (c : Client) : Client :=
  { c with
    links := c.links.map (·.without W)
    calls := c.calls.mapIdx fun n k => if W n then ⟨.running, none⟩ else k
    ready := c.ready.filter fun t => !t.isOf W
    history := c.history.filter (·.isSeen W) }

@[simp] theorem link_without : (c.without W).link l = (c.link l).without W := by
  rw [link_eq, link_eq, without_links, List.getElem?_map]
  cases c.links[l]? <;> rfl

@[simp] theorem process_without : (c.without W).process l = c.process l := by
  rw [process, link_without, process, Link.without_process]

@[simp] theorem isAlive_without : (c.without W).isAlive l = c.isAlive l := by
  rw [isAlive, process_without, isAlive]

@[simp] theorem isClosed_without (k : Link) : (k.without W).isClosed = k.isClosed := rfl

@[simp] theorem attemptOutcome_without : (c.without W).attemptOutcome? n = c.attemptOutcome? n := rfl

theorem call_without : (c.without W).calls[n]? =
    c.calls[n]?.map fun k => if W n then ⟨.running, none⟩ else k := by
  rw [without_calls, List.getElem?_mapIdx]

theorem call_without_ne (out : W n = false) : (c.without W).calls[n]? = c.calls[n]? := by
  rw [call_without, out]
  simp

/-! ## Changes of the rest -/

theorem emit_without (o : Output) :
    (c.emit o).without W = if o.isSeen W then (c.without W).emit o else c.without W := by
  rw [emit, without, List.filter_cons]
  split <;> rfl

theorem log_without (level : Log.Level) (text : String) :
    (c.log level text).without W = c.without W :=
  emit_without _

theorem event_without (e : Event) : (c.without W).event l e = (c.event l e).without W := by
  rw [event, event, emit_without, link_without]
  rfl

theorem push_without (out : t.isOf W = false) : (c.without W).push t = (c.push t).without W := by
  simp [push, without, out]

/-- A change of a link that leaves the requests of these calls alone. -/
theorem modifyLink_without (eq : ∀ k, f (k.without W) = (f k).without W) :
    (c.without W).modifyLink l f = (c.modifyLink l f).without W := by
  have links : (c.links.map (·.without W)).modify l f = (c.links.modify l f).map (·.without W) := by
    apply List.ext_getElem?
    intro k
    simp only [List.getElem?_map, List.getElem?_modify]
    cases c.links[k]? with
    | none => rfl
    | some a => by_cases e : l = k <;> simp [e, eq]
  rw [modifyLink, without_links, links]
  rfl

theorem modifyProcess_without {f : Process → Process} :
    (c.without W).modifyProcess l f = (c.modifyProcess l f).without W :=
  modifyLink_without fun _ => rfl

theorem setAttempt_without (p : AttemptPhase) :
    (c.without W).setAttempt n p = (c.setAttempt n p).without W := rfl

theorem putCall_without (out : W n = false) (k : Call) :
    (c.without W).putCall n k = (c.putCall n k).without W := by
  have calls := List.mapIdx_set (l := c.calls) (i := n) (a := k)
    (f := fun n k => if W n then (⟨.running, none⟩ : Call) else k)
  rw [if_neg (by simp [out])] at calls
  rw [putCall, without_calls, ← calls]
  rfl

/-- Of these calls nothing is to be seen. -/
theorem without_putCall (here : W n) (k : Call) : (c.putCall n k).without W = c.without W := by
  have same : (c.calls.set n k).mapIdx (fun n k => if W n then (⟨.running, none⟩ : Call) else k) =
      c.calls.mapIdx fun n k => if W n then ⟨.running, none⟩ else k := by
    apply List.ext_getElem?
    intro i
    simp only [List.getElem?_mapIdx, List.getElem?_set]
    by_cases e : n = i
    · subst e
      by_cases lt : n < c.calls.length <;> simp [lt, here]
    · simp [e]
  rw [putCall, without, same]
  rfl

theorem without_push (here : t.isOf W) : (c.push t).without W = c.without W := by
  simp [push, without, here]

theorem setCall_without (out : W n = false) (p : CallPhase) :
    (c.without W).setCall n p = (c.setCall n p).without W :=
  putCall_without out _

theorem finish_without (out : W n = false) (o : Outcome) :
    (c.without W).finish n o = (c.finish n o).without W := by
  rw [finish, finish, emit_without, setCall_without out, Output.isSeen, out]
  rfl

/-! ## Waking and cancelling -/

theorem wakeListener_without : (c.without W).wakeListener l = (c.wakeListener l).without W := by
  unfold wakeListener
  rw [link_without, Link.without_listener]
  split
  · rw [modifyLink_without, push_without]
    · rfl
    · exact fun _ => rfl
  · rfl

theorem wakeDrain_without : (c.without W).wakeDrain l = (c.wakeDrain l).without W := by
  unfold wakeDrain
  rw [link_without, Link.without_drain]
  split
  · rw [modifyLink_without, push_without]
    · rfl
    · exact fun _ => rfl
  · rfl

theorem wakeAttempt_without : (c.without W).wakeAttempt n s = (c.wakeAttempt n s).without W := by
  unfold wakeAttempt
  rw [without_attempts]
  split
  · split
    · next p _ _ =>
      exact push_without (c := c.putAttempt n ⟨p, some s⟩) (t := .attempt n) rfl
    · rfl
  · rfl

/-- Nothing is to be seen of it when one of these calls is woken. -/
theorem without_wakeCall (here : W n) : (c.wakeCall n s).without W = c.without W := by
  obtain e | ⟨p, -, -, e⟩ := wakeCall_eq (c := c) (n := n) (s := s)
  · rw [e]
  · rw [e, tellCall, summon_eq, if_pos (by rfl), without_push (t := .call n) here,
      without_putCall here]

/-- The place of one of these calls cannot be woken. -/
theorem wakeCall_left (here : W n) : (c.without W).wakeCall n s = c.without W := by
  unfold wakeCall
  rw [call_without, here]
  cases c.calls[n]? <;> rfl

theorem wakeCall_without : (c.without W).wakeCall n s = (c.wakeCall n s).without W := by
  by_cases here : W n
  · rw [wakeCall_left here, without_wakeCall here]
  · simp only [Bool.not_eq_true] at here
    unfold wakeCall
    rw [call_without_ne here]
    split
    · split
      · next p _ _ =>
        exact (congrArg (·.push (.call n)) (putCall_without here ⟨p, some s⟩)).trans
          (push_without (t := .call n) here)
      · rfl
    · rfl

theorem wake_without : (c.without W).wake t s = (c.wake t s).without W := by
  cases t with
  | attempt n => exact wakeAttempt_without
  | call n => exact wakeCall_without
  | _ => rfl

theorem wakeAttempts_without (p : AttemptPhase → Bool) :
    (c.without W).wakeAttempts p s = (c.wakeAttempts p s).without W := by
  have folds (ns : List Nat) (b : Client) : ns.foldl (fun c n => c.wakeAttempt n s) (b.without W) =
      (ns.foldl (fun c n => c.wakeAttempt n s) b).without W := by
    induction ns generalizing b with
    | nil => rfl
    | cons n ns ih => rw [List.foldl_cons, List.foldl_cons, wakeAttempt_without, ih]
  exact folds _ c

/-- Which of these calls are woken makes no difference. -/
theorem foldl_wakeCall_without {p q : Nat → Bool} (same : ∀ n, W n = false → p n = q n)
    (ns : List Nat) : (ns.filter p).foldl (fun c n => c.wakeCall n s) (c.without W) =
      ((ns.filter q).foldl (fun c n => c.wakeCall n s) c).without W := by
  induction ns generalizing c with
  | nil => rfl
  | cons n ns ih =>
    by_cases here : W n
    · have left : ((n :: ns).filter p).foldl (fun c n => c.wakeCall n s) (c.without W) =
          (ns.filter p).foldl (fun c n => c.wakeCall n s) (c.without W) := by
        rw [List.filter_cons]
        split
        · rw [List.foldl_cons, wakeCall_left here]
        · rfl
      rw [left, List.filter_cons]
      split
      · rw [List.foldl_cons, ← ih, without_wakeCall here]
      · exact ih
    · simp only [Bool.not_eq_true] at here
      rw [List.filter_cons, List.filter_cons, same n here]
      split
      · rw [List.foldl_cons, List.foldl_cons, wakeCall_without, ih]
      · exact ih

theorem wakeCalls_without (p : CallPhase → Bool) :
    (c.without W).wakeCalls p s = (c.wakeCalls p s).without W := by
  unfold wakeCalls
  rw [without_calls, List.length_mapIdx]
  refine foldl_wakeCall_without (fun n out => ?_) _
  rw [← without_calls, call_without_ne out]

theorem wakeTeardowns_without (p : Teardown → Bool) :
    (c.without W).wakeTeardowns p s = (c.wakeTeardowns p s).without W := by
  rw [wakeTeardowns, wakeCalls_without, wakeAttempts_without, wakeTeardowns]

theorem cancelListener_without : (c.without W).cancelListener l = (c.cancelListener l).without W := by
  unfold cancelListener
  rw [link_without, Link.without_listener]
  dsimp only
  rw [modifyLink_without fun _ => by rfl]
  split
  · exact push_without (t := .listener l) rfl
  · rfl

theorem cancelDrain_without : (c.without W).cancelDrain l = (c.cancelDrain l).without W := by
  unfold cancelDrain
  rw [link_without, Link.without_drain]
  dsimp only
  rw [modifyLink_without fun _ => by rfl]
  split
  · exact push_without (t := .drain l) rfl
  · rfl

theorem cancelAttempt_without : (c.without W).cancelAttempt n = (c.cancelAttempt n).without W := by
  unfold cancelAttempt
  rw [without_attempts]
  split
  · next a _ =>
    split
    · dsimp only
      split
      · exact push_without (c := c.putAttempt n ⟨a.phase, some .cancelled⟩) (t := .attempt n) rfl
      · rfl
    · rfl
  · rfl

theorem cancelCall_without (out : W n = false) :
    (c.without W).cancelCall n = (c.cancelCall n).without W := by
  unfold cancelCall
  rw [call_without_ne out]
  split
  · exact cancelAttempt_without
  · next k _ _ =>
    have told := putCall_without (c := c) out ⟨k.phase, some .cancelled⟩
    split
    · dsimp only
      split
      · exact (congrArg (·.push (.call n)) told).trans
          (push_without (t := .call n) out)
      · exact told
    · rfl
  · rfl

/-! ## Processes -/

theorem exit_without (code : Int) : (c.without W).exit l code = (c.exit l code).without W := by
  unfold exit
  rw [isAlive_without]
  split
  · dsimp only
    rw [event_without, modifyProcess_without, wakeListener_without, wakeDrain_without,
      wakeTeardowns_without]
  · rfl

theorem feed_without (bytes : List UInt8) : (c.without W).feed l bytes = (c.feed l bytes).without W := by
  unfold feed
  rw [isAlive_without, process_without]
  split
  · rw [modifyProcess_without, wakeListener_without]
  · rfl

theorem feedErrors_without (bytes : List UInt8) :
    (c.without W).feedErrors l bytes = (c.feedErrors l bytes).without W := by
  unfold feedErrors
  rw [isAlive_without, process_without]
  split
  · rw [modifyProcess_without, wakeDrain_without]
  · rfl

theorem endOutput_without : (c.without W).endOutput l = (c.endOutput l).without W := by
  unfold endOutput
  rw [isAlive_without]
  split
  · rw [modifyProcess_without, wakeListener_without]
  · rfl

theorem closeInput_without : (c.without W).closeInput l = (c.closeInput l).without W := by
  unfold closeInput
  rw [process_without]
  split
  · rfl
  · dsimp only
    rw [event_without, modifyProcess_without, process_without]
    split
    · exact exit_without 0
    · rfl

theorem terminate_without :
    (c.without W).terminate l = ((c.terminate l).1.without W, (c.terminate l).2) := by
  unfold terminate
  dsimp only
  rw [event_without, process_without]
  split
  · rw [exit_without]
  · rfl
  · rfl

theorem kill_without : (c.without W).kill l = ((c.kill l).1.without W, (c.kill l).2) := by
  unfold kill
  dsimp only
  rw [event_without, process_without]
  split
  · rw [exit_without]
  · rfl

/-! ## Sending -/

theorem write_without : (c.without W).write l m = ((c.write l m).1.without W, (c.write l m).2) := by
  unfold write
  rw [link_without, Link.without_closed]
  split
  · rfl
  · dsimp only
    rw [process_without, event_without]
    split
    · rfl
    · cases Policy.answer? (c.process l).policy m with
      | some reply =>
        dsimp only
        rw [feed_without]
        split <;> rfl
      | none =>
        dsimp only
        split <;> rfl

theorem notify_without {method : String} {params : Json} : (c.without W).notify l method params =
    ((c.notify l method params).1.without W, (c.notify l method params).2) := by
  unfold notify
  rw [link_without, isClosed_without]
  split
  · rfl
  · exact write_without

theorem forget_without : (c.without W).forget l id = (c.forget l id).without W := by
  refine modifyLink_without fun k => ?_
  simp only [Link.without, List.filter_filter, Bool.and_comm]

theorem request_without (out : t.isOf W = false) {method : String} {params : Json} :
    (c.without W).request l t method params =
      ((c.request l t method params).1.without W, (c.request l t method params).2) := by
  unfold request
  rw [link_without, isClosed_without]
  split
  · rfl
  · dsimp only
    rw [Link.without_lastId, modifyLink_without fun k => ?_, write_without]
    · generalize Client.write _ _ _ = r
      obtain ⟨b, _ | _⟩ := r
      · exact congrArg (·, _) forget_without
      · rfl
    · simp [Link.without, List.filter_append, out]

theorem failPending_without (reason : Ending) :
    (c.without W).failPending l reason = (c.failPending l reason).without W := by
  have folds (s : Signal) (ps : List (Nat × Task)) (b : Client) :
      (ps.filter fun p => !p.2.isOf W).foldl (fun c p => c.wake p.2 s) (b.without W) =
        (ps.foldl (fun c p => c.wake p.2 s) b).without W := by
    induction ps generalizing b with
    | nil => rfl
    | cons p ps ih =>
      rw [List.filter_cons, List.foldl_cons, ← ih]
      split
      · rw [List.foldl_cons, wake_without]
      · next here =>
        obtain ⟨id, t⟩ := p
        cases t with
        | call n => rw [wake, without_wakeCall (by simpa [Task.isOf] using here)]
        | _ => simp [Task.isOf] at here
  unfold failPending
  rw [link_without, Link.without_pending, modifyLink_without fun _ => by rfl]
  exact folds _ _ _

/-! ## Listening -/

theorem setListener_without {p : WatcherPhase} :
    (c.without W).setListener l p = (c.setListener l p).without W :=
  modifyLink_without fun _ => rfl

theorem setDrain_without {p : WatcherPhase} :
    (c.without W).setDrain l p = (c.setDrain l p).without W :=
  modifyLink_without fun _ => rfl

theorem setOutput_without {rest : List UInt8} :
    (c.without W).setOutput l rest = (c.setOutput l rest).without W :=
  modifyProcess_without

theorem setErrors_without {rest : List UInt8} :
    (c.without W).setErrors l rest = (c.setErrors l rest).without W :=
  modifyProcess_without

theorem pauseListening_without {reading : Wire.Reading} :
    (c.without W).pauseListening l reading = (c.pauseListening l reading).without W := by
  rw [pauseListening, setListener_without, modifyLink_without fun _ => by rfl, pauseListening]

theorem giveUp_without : (c.without W).giveUp = c.giveUp.without W := by
  unfold giveUp
  rw [without_held]
  cases c.held.process with
  | none => rfl
  | some l =>
    dsimp only
    rw [isAlive_without, kill_without]
    split <;> rfl

theorem endListener_without : (c.without W).endListener l = (c.endListener l).without W := by
  rw [endListener, setListener_without, wakeTeardowns_without, endListener]

theorem stopListening_without {turn : Turn} {reason : Ending} :
    (c.without W).stopListening l turn reason = (c.stopListening l turn reason).without W := by
  unfold stopListening
  rw [failPending_without]
  cases turn with
  | first => exact endListener_without
  | later => exact modifyLink_without fun _ => rfl

theorem endDrain_without : (c.without W).endDrain l = (c.endDrain l).without W := by
  rw [endDrain, setDrain_without, wakeTeardowns_without, endDrain]

theorem startDraining_without : (c.without W).startDraining l = (c.startDraining l).without W := by
  rw [startDraining, modifyLink_without fun _ => by rfl]
  exact push_without (t := .drain l) rfl

/-! ## Taking down -/

theorem closeDrain_without :
    (c.without W).closeDrain u = ((c.closeDrain u).1.without W, (c.closeDrain u).2) := by
  unfold closeDrain
  split
  · rfl
  · rw [link_without, Link.without_drain]
    split
    · rw [cancelDrain_without]
    · rw [cancelDrain_without]
    · rfl

theorem closeByKill_without :
    (c.without W).closeByKill u = ((c.closeByKill u).1.without W, (c.closeByKill u).2) := by
  unfold closeByKill
  rw [kill_without]
  generalize c.kill u.link = r
  obtain ⟨b, _ | _⟩ := r
  · rfl
  · exact closeDrain_without

theorem closeProcess_without :
    (c.without W).closeProcess u = ((c.closeProcess u).1.without W, (c.closeProcess u).2) := by
  unfold closeProcess
  rw [isAlive_without, terminate_without]
  split
  · generalize c.terminate u.link = r
    obtain ⟨b, _ | _⟩ := r
    · exact closeDrain_without
    · dsimp only
      rw [isAlive_without]
      split
      · rfl
      · exact closeDrain_without
  · exact closeDrain_without

theorem closeGracefully_without :
    (c.without W).closeGracefully u = ((c.closeGracefully u).1.without W, (c.closeGracefully u).2) := by
  unfold closeGracefully
  rw [isAlive_without]
  split
  · rfl
  · exact closeDrain_without

theorem closeStream_without :
    (c.without W).closeStream u = ((c.closeStream u).1.without W, (c.closeStream u).2) := by
  unfold closeStream
  dsimp only
  rw [failPending_without, closeInput_without, process_without]
  split
  · rfl
  · exact closeGracefully_without

theorem closeAfterListener_without : (c.without W).closeAfterListener u =
    ((c.closeAfterListener u).1.without W, (c.closeAfterListener u).2) := by
  unfold closeAfterListener
  rw [link_without, Link.without_crash]
  split
  · rfl
  · exact closeStream_without

theorem closeConnection_without : (c.without W).closeConnection u =
    ((c.closeConnection u).1.without W, (c.closeConnection u).2) := by
  unfold closeConnection
  dsimp only
  rw [modifyLink_without fun _ => by rfl, link_without, Link.without_superseded,
    Link.without_listener, cancelListener_without]
  split
  · exact closeAfterListener_without
  · split
    · rfl
    · rfl
    · exact closeAfterListener_without
    · exact closeStream_without

theorem resumeTeardown_without : (c.without W).resumeTeardown u s =
    ((c.resumeTeardown u s).1.without W, (c.resumeTeardown u s).2) := by
  unfold resumeTeardown
  split
  · exact closeAfterListener_without
  · rfl
  · split
    · rfl
    · exact closeGracefully_without
  · split
    · rfl
    · exact closeProcess_without
  · split
    · rfl
    · exact closeByKill_without
    · exact closeDrain_without

theorem release_without : (c.without W).release = (c.release.1.without W, c.release.2) := by
  unfold release
  dsimp only
  rw [without_held]
  split
  · exact closeConnection_without (c := { c with held := .nothing })
  · exact closeProcess_without (c := { c with held := .nothing })
  · rfl

/-! ## Starting and sending -/

theorem endAttempt_without {o : Outcome} :
    (c.without W).endAttempt n o = (c.endAttempt n o).without W := by
  rw [endAttempt, setAttempt_without, push_without, wakeCalls_without, endAttempt]
  rfl

theorem afterFailing_without {o : Outcome} {p : Progress} :
    (c.without W).afterFailing n o p = (c.afterFailing n o p).without W := by
  unfold afterFailing
  split
  · rfl
  · exact endAttempt_without (c := c.markFailed)
  · exact endAttempt_without

theorem abandon_without {o : Outcome} :
    (c.without W).abandon n o = (c.abandon n o).without W := by
  unfold abandon
  rw [release_without]
  exact afterFailing_without

theorem shareAttempt_without :
    (c.without W).shareAttempt = (c.shareAttempt.1.without W, c.shareAttempt.2) := by
  have renewed : (c.without W).addAttempt = c.addAttempt.without W :=
    push_without (t := .attempt c.attempts.length) (c := { c with
      attempts := c.attempts ++ [⟨.fresh, some .go⟩], attempt := some c.attempts.length }) rfl
  unfold shareAttempt
  dsimp only
  rw [without_attempt, without_attempts]
  split
  · rw [attemptOutcome_without]
    split
    · exact congrArg (·, _) renewed
    · rfl
  · exact congrArg (·, _) renewed

theorem join_without (out : W n = false) {ss : List Send} :
    (c.without W).join n ss = (c.join n ss).without W := by
  unfold join
  rw [shareAttempt_without]
  exact setCall_without out _

theorem addLink_without {ps : List Policy} {p : Policy} :
    (c.without W).addLink ps p = (c.addLink ps p).without W := by
  have ready : (if p.hasInput then [Task.listener c.links.length] else []).filter
      (fun t => !t.isOf W) = if p.hasInput then [Task.listener c.links.length] else [] := by
    split <;> rfl
  simp only [addLink, without, List.length_map, List.map_append, List.filter_append, ready]
  rfl

theorem addDrain_without : (c.without W).addDrain l = (c.addDrain l).without W :=
  startDraining_without (c := { c with held := { c.held with drain := some l } })

theorem usableLink_without : (c.without W).usableLink = c.usableLink := rfl

theorem sendOne_without (out : W n = false) {q : Send} {ss : List Send} :
    (c.without W).sendOne n q ss = ((c.sendOne n q ss).1.without W, (c.sendOne n q ss).2) := by
  unfold sendOne
  rw [usableLink_without]
  split
  · exact congrArg (·, _) (finish_without out _)
  · split
    · rw [notify_without]
      generalize c.notify _ _ _ = r
      obtain ⟨b, _ | _⟩ := r
      · exact congrArg (·, _) (finish_without out _)
      · rfl
    · rw [request_without (t := .call n) out]
      generalize c.request _ _ _ _ = r
      obtain ⟨b, _ | _⟩ := r
      · exact congrArg (·, _) (finish_without out _)
      · exact congrArg (·, _) (setCall_without out _)

theorem sendAll_without (out : W n = false) {last : Json} {ss : List Send} :
    (c.without W).sendAll n last ss = (c.sendAll n last ss).without W := by
  induction ss generalizing c last with
  | nil => exact finish_without out _
  | cons q ss ih =>
    unfold sendAll
    rw [needsStart, without_state]
    split
    · next cold =>
      rw [if_pos (by exact cold)]
      exact join_without out
    · next up =>
      rw [if_neg (by exact up), sendOne_without out]
      generalize c.sendOne n q ss = r
      obtain ⟨b, _ | _⟩ := r
      · exact ih
      · rfl

theorem expectEnd_without : (c.without W).expectEnd l = (c.expectEnd l).without W :=
  modifyLink_without fun _ => rfl

theorem afterClosing_without (out : W n = false) {p : Progress} :
    (c.without W).afterClosing n p = (c.afterClosing n p).without W := by
  unfold afterClosing
  split
  · exact setCall_without out _
  · exact finish_without out _

theorem sendJoined_without (out : W n = false) {ss : List Send} :
    (c.without W).sendJoined n ss = (c.sendJoined n ss).without W := by
  unfold sendJoined
  split
  · exact finish_without out _
  · rw [sendOne_without out]
    generalize c.sendOne n _ _ = r
    obtain ⟨b, _ | _⟩ := r
    · exact sendAll_without out
    · rfl

theorem runRelay_without : (c.without W).runRelay n = (c.runRelay n).without W := by
  unfold runRelay
  rw [attemptOutcome_without]
  split
  · exact wakeCalls_without _
  · rfl

theorem passTo_without {time due : Nat} :
    (c.without W).passTo time due = (c.passTo time due).without W := by
  have set : { c.without W with now := time } = ({ c with now := time } : Client).without W := rfl
  rw [passTo, set, wakeAttempts_without, wakeCalls_without, passTo]

theorem addCall_without (out : W c.calls.length = false) (job : Job) :
    (c.without W).addCall job = (c.addCall job).without W := by
  have added : { c.without W with calls := (c.without W).calls ++ [Call.mk (.fresh job) (some .go)] } =
      ({ c with calls := c.calls ++ [Call.mk (.fresh job) (some .go)] } : Client).without W := by
    simp [without, out]
  rw [addCall, added, without_calls, List.length_mapIdx]
  exact push_without (t := .call c.calls.length) out

end LspGateway.Client
