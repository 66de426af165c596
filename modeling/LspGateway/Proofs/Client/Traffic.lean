import LspGateway.Proofs.Client.Pieces

/-! # What passes over a connection

A message passes when it is written to the process, or when an observer is notified of it, and
so does the end of the stream when an observer is told of it. Nothing else that is done to a
connection lets anything pass.
-/

namespace LspGateway.Client

variable {c c₁ : Client} {l n id : Nat} {t : Task} {u : Teardown} {s : Signal} {m : Json}

/-- A message, or the end of the stream. -/
def Event.passes : Event → Bool
  | .wrote _ => true
  | .notified _ => true
  | .broke _ => true
  | .ended => true
  | _ => false

/-- The end of the stream, as an observer is told of it. -/
def Event.isEnd : Event → Bool
  | .broke _ => true
  | .ended => true
  | _ => false

def Output.passing? : Output → Option Event
  | .event _ e => if e.passes then some e else none
  | _ => none

/-- What has passed, oldest first. -/
def traffic (c : Client) : List Event := (c.history.filterMap Output.passing?).reverse

theorem traffic_emit (o : Output) : (c.emit o).traffic = c.traffic ++ o.passing?.toList := by
  rw [traffic, traffic, emit, List.filterMap_cons]
  cases o.passing? <;> simp

theorem traffic_event (e : Event) :
    (c.event l e).traffic = c.traffic ++ if e.passes then [e] else [] := by
  rw [event, traffic_emit, Output.passing?]
  split <;> rfl

@[simp] theorem traffic_log {level : Log.Level} {text : String} :
    (c.log level text).traffic = c.traffic := by
  simp [log, traffic_emit, Output.passing?]

@[simp] theorem traffic_finish {o : Outcome} : (c.finish n o).traffic = c.traffic := by
  simp only [finish, traffic_emit, Output.passing?, Option.toList_none, List.append_nil]
  rfl

@[simp] theorem traffic_modifyLink {f : Link → Link} : (c.modifyLink l f).traffic = c.traffic := rfl

@[simp] theorem traffic_modifyProcess {f : Process → Process} :
    (c.modifyProcess l f).traffic = c.traffic := rfl

@[simp] theorem traffic_push : (c.push t).traffic = c.traffic := rfl

@[simp] theorem traffic_setCall {p : CallPhase} : (c.setCall n p).traffic = c.traffic := rfl

/-! ## Waking and cancelling -/

@[simp] theorem traffic_wake : (c.wake t s).traffic = c.traffic := by
  rw [wake_eq_prompt]
  rfl

@[simp] theorem traffic_wakeAttempts {p : AttemptPhase → Bool} :
    (c.wakeAttempts p s).traffic = c.traffic := by
  obtain ⟨ts, e⟩ := wakeAttempts_frame (c := c) (s := s) p
  rw [e]
  rfl

@[simp] theorem traffic_wakeCalls {p : CallPhase → Bool} :
    (c.wakeCalls p s).traffic = c.traffic := by
  obtain ⟨ts, e⟩ := wakeCalls_frame (c := c) (s := s) p
  rw [e]
  rfl

@[simp] theorem traffic_wakeTeardowns {p : Teardown → Bool} :
    (c.wakeTeardowns p s).traffic = c.traffic := by
  rw [wakeTeardowns, traffic_wakeAttempts, traffic_wakeCalls]

@[simp] theorem traffic_wakeListener : (c.wakeListener l).traffic = c.traffic := by
  obtain e | ⟨-, e⟩ := wakeListener_eq (c := c) (l := l) <;> rw [e]
  rfl

@[simp] theorem traffic_wakeDrain : (c.wakeDrain l).traffic = c.traffic := by
  obtain e | ⟨-, e⟩ := wakeDrain_eq (c := c) (l := l) <;> rw [e]
  rfl

@[simp] theorem traffic_cancelListener : (c.cancelListener l).traffic = c.traffic := by
  unfold cancelListener
  dsimp only
  split <;> rfl

@[simp] theorem traffic_cancelDrain : (c.cancelDrain l).traffic = c.traffic := by
  unfold cancelDrain
  dsimp only
  split <;> rfl

@[simp] theorem traffic_cancelAttempt : (c.cancelAttempt n).traffic = c.traffic := by
  unfold cancelAttempt
  split
  · split
    · dsimp only
      split <;> rfl
    · rfl
  · rfl

@[simp] theorem traffic_cancelCall : (c.cancelCall n).traffic = c.traffic := by
  unfold cancelCall
  split
  · exact traffic_cancelAttempt
  · split
    · dsimp only
      split <;> rfl
    · rfl
  · rfl

@[simp] theorem traffic_failPending {reason : Ending} :
    (c.failPending l reason).traffic = c.traffic := by
  have told (ps : List (Nat × Task)) (b : Client) :
      (ps.foldl (fun c p => c.wake p.2 (.answered (.error (.ended reason)))) b).traffic =
        b.traffic := by
    induction ps generalizing b with
    | nil => rfl
    | cons p ps ih => rw [List.foldl_cons, ih, traffic_wake]
  exact (told _ _).trans traffic_modifyLink

/-! ## Processes -/

@[simp] theorem traffic_exit {code : Int} : (c.exit l code).traffic = c.traffic := by
  unfold exit
  split
  · simp [traffic_event, Event.passes]
  · rfl

@[simp] theorem traffic_feed {bytes : List UInt8} : (c.feed l bytes).traffic = c.traffic := by
  unfold feed
  split <;> simp

@[simp] theorem traffic_feedErrors {bytes : List UInt8} :
    (c.feedErrors l bytes).traffic = c.traffic := by
  unfold feedErrors
  split <;> simp

@[simp] theorem traffic_endOutput : (c.endOutput l).traffic = c.traffic := by
  unfold endOutput
  split <;> simp

@[simp] theorem traffic_closeInput : (c.closeInput l).traffic = c.traffic := by
  unfold closeInput
  split
  · rfl
  · dsimp only
    split <;> simp [traffic_event, Event.passes]

@[simp] theorem traffic_terminate : (c.terminate l).1.traffic = c.traffic := by
  unfold terminate
  dsimp only
  split <;> simp [traffic_event, Event.passes]

@[simp] theorem traffic_kill : (c.kill l).1.traffic = c.traffic := by
  unfold kill
  dsimp only
  split <;> simp [traffic_event, Event.passes]

/-! ## Taking down -/

@[simp] theorem traffic_closeDrain : (c.closeDrain u).1.traffic = c.traffic := by
  unfold closeDrain
  split
  · rfl
  · split <;> simp

@[simp] theorem traffic_closeByKill : (c.closeByKill u).1.traffic = c.traffic := by
  have killed := traffic_kill (c := c) (l := u.link)
  unfold closeByKill
  split <;> (next e => rw [e] at killed; simpa using killed)

@[simp] theorem traffic_closeProcess : (c.closeProcess u).1.traffic = c.traffic := by
  have struck := traffic_terminate (c := c) (l := u.link)
  unfold closeProcess
  split
  · split
    · next e =>
      rw [e] at struck
      split
      · exact struck
      · simpa using struck
    · next e =>
      rw [e] at struck
      simpa using struck
  · simp

@[simp] theorem traffic_closeGracefully : (c.closeGracefully u).1.traffic = c.traffic := by
  unfold closeGracefully
  split <;> simp

@[simp] theorem traffic_closeStream : (c.closeStream u).1.traffic = c.traffic := by
  unfold closeStream
  dsimp only
  split <;> simp

@[simp] theorem traffic_closeAfterListener : (c.closeAfterListener u).1.traffic = c.traffic := by
  unfold closeAfterListener
  split <;> simp

@[simp] theorem traffic_closeConnection : (c.closeConnection u).1.traffic = c.traffic := by
  unfold closeConnection
  dsimp only
  split
  · simp
  · split <;> simp

@[simp] theorem traffic_resumeTeardown : (c.resumeTeardown u s).1.traffic = c.traffic := by
  unfold resumeTeardown
  split
  · simp
  · rfl
  · split <;> simp
  · split <;> simp
  · split <;> simp

/-! ## Watching -/

@[simp] theorem traffic_setListener {p : WatcherPhase} :
    (c.setListener l p).traffic = c.traffic := rfl

@[simp] theorem traffic_setOutput {rest : List UInt8} : (c.setOutput l rest).traffic = c.traffic :=
  rfl

@[simp] theorem traffic_pauseListening {reading : Wire.Reading} :
    (c.pauseListening l reading).traffic = c.traffic := rfl

@[simp] theorem traffic_endListener : (c.endListener l).traffic = c.traffic := by
  simp [endListener]

@[simp] theorem traffic_stopListening {turn : Turn} {reason : Ending} :
    (c.stopListening l turn reason).traffic = c.traffic := by
  unfold stopListening
  dsimp only
  split <;> simp

@[simp] theorem traffic_crashListening {turn : Turn} {fault : Json.Misuse} :
    (c.crashListening l turn fault).traffic = c.traffic := by
  simp [crashListening]

@[simp] theorem traffic_endDrain : (c.endDrain l).traffic = c.traffic := by
  rw [endDrain, traffic_wakeTeardowns]
  rfl

theorem traffic_readErrors {fuel : Nat} : (readErrors l fuel c).traffic = c.traffic := by
  induction fuel generalizing c with
  | zero => rfl
  | succ fuel ih =>
    unfold readErrors
    split
    · rfl
    · exact traffic_endDrain
    · rw [traffic_endDrain, traffic_log]
      rfl
    · rw [ih, logLine, traffic_log]
      rfl

@[simp] theorem traffic_runDrain : (c.runDrain l).traffic = c.traffic := by
  unfold runDrain
  split
  · exact traffic_endDrain
  · exact traffic_readErrors

/-! ## Writing -/

/-- What is written reaches the process, although the writer may learn of a fault. -/
def Link.isWritable (k : Link) : Bool := !k.closed && k.process.inputFault ≠ some .gone

theorem traffic_write :
    (c.write l m).1.traffic = c.traffic ++ if (c.link l).isWritable then [.wrote m] else [] := by
  unfold write
  split
  · next shut => simp [Link.isWritable, shut]
  · next up =>
    dsimp only
    split
    · next gone =>
      have gone : (c.link l).process.inputFault = some .gone := gone
      simp [Link.isWritable, gone]
    · next takes =>
      have takes : (c.link l).process.inputFault ≠ some .gone := takes
      have wrote : (c.event l (.wrote m)).traffic = c.traffic ++ [.wrote m] := traffic_event _
      have open' : (c.link l).isWritable := by simpa [Link.isWritable, takes] using up
      rw [if_pos open']
      split <;> split <;> simp [wrote]

/-- What passes on account of a message that is taken. -/
def Link.reaction (k : Link) (who : Audience) (m : Json) : List Event :=
  match Incoming.ofJson m with
  | .ok (.notification m) => if who = .observer then [.notified m] else []
  | .ok (.request id method) => if k.isWritable then [.wrote (rejection id method)] else []
  | _ => []

theorem traffic_handleResponse {j : Json} {ms : Json.Members} :
    (c.handleResponse l j ms).1.traffic = c.traffic := by
  unfold handleResponse
  split
  · split <;> simp [dropResponse]
  · split
    · simp [dropResponse]
    · dsimp only
      split
      · simp [dropResponse, forget]
      · split <;> simp [forget]

theorem traffic_rejectRequest {j method : Json} :
    (c.rejectRequest l j method).traffic =
      c.traffic ++ if (c.link l).isWritable then [.wrote (rejection j method)] else [] := by
  have wrote (text : String) : ((c.log .debug text).write l (rejection j method)).1.traffic =
      c.traffic ++ if (c.link l).isWritable then [.wrote (rejection j method)] else [] := by
    rw [traffic_write, traffic_log]
    rfl
  unfold rejectRequest
  dsimp only
  split <;> rename_i e
  · exact (congrArg (fun p => p.1.traffic) e).symm.trans (wrote _)
  · rw [traffic_log]
    exact (congrArg (fun p => p.1.traffic) e).symm.trans (wrote _)

theorem traffic_dispatch :
    (c.dispatch l m).1.traffic = c.traffic ++ (c.link l).reaction c.audience m := by
  unfold dispatch Link.reaction
  split <;> rename_i sorted <;> rw [sorted]
  · simp
  · simpa using traffic_handleResponse
  · unfold handleNotification
    dsimp only
    split <;> rename_i who <;> simp [who, traffic_event, Event.passes]
  · exact traffic_rejectRequest

end LspGateway.Client
