import LspGateway.Proofs.Client.Waking

/-! # What stays

What is sent, what processes do and what is done to them, and who is told something
leaves the state of a client alone, what it uses, and the attempt that its callers share.
-/

namespace LspGateway.Client

variable {c c₁ c₂ : Client} {l n id : Nat} {t : Task} {u : Teardown} {s : Signal}

/-- Nothing changes but links, activities, and what is shown. -/
def Frame (c c₁ : Client) : Prop :=
  c₁ = { c with
    links := c₁.links, attempts := c₁.attempts, calls := c₁.calls, ready := c₁.ready
    history := c₁.history }

namespace Frame

theorem refl (c : Client) : Frame c c := rfl

theorem trans (h : Frame c c₁) (h₁ : Frame c₁ c₂) : Frame c c₂ := by
  unfold Frame at *
  rw [h₁, h]

theorem held (h : Frame c c₁) : c₁.held = c.held := by
  rw [Frame] at h
  rw [h]

theorem state (h : Frame c c₁) : c₁.state = c.state := by
  rw [Frame] at h
  rw [h]

theorem audience (h : Frame c c₁) : c₁.audience = c.audience := by
  rw [Frame] at h
  rw [h]

theorem attempt (h : Frame c c₁) : c₁.attempt = c.attempt := by
  rw [Frame] at h
  rw [h]

end Frame

/-! ## Telling -/

theorem frame_prompt : Frame c (c.prompt t s) := rfl

theorem frame_wake : Frame c (c.wake t s) := by
  rw [wake_eq_prompt]
  exact frame_prompt

theorem frame_wakeCalls (p : CallPhase → Bool) : Frame c (c.wakeCalls p s) := by
  obtain ⟨ts, e⟩ := wakeCalls_frame (c := c) (s := s) p
  rw [e]
  rfl

theorem frame_wakeTeardowns (p : Teardown → Bool) : Frame c (c.wakeTeardowns p s) := by
  obtain ⟨ts, e⟩ := wakeTeardowns_frame (c := c) (s := s) p
  rw [e]
  rfl

theorem frame_wakeListener : Frame c (c.wakeListener l) := by
  obtain e | ⟨-, e⟩ := wakeListener_eq (c := c) (l := l) <;> rw [e] <;> rfl

theorem frame_wakeDrain : Frame c (c.wakeDrain l) := by
  obtain e | ⟨-, e⟩ := wakeDrain_eq (c := c) (l := l) <;> rw [e] <;> rfl

theorem frame_cancelListener : Frame c (c.cancelListener l) := by
  unfold cancelListener
  dsimp only
  split <;> rfl

theorem frame_cancelDrain : Frame c (c.cancelDrain l) := by
  unfold cancelDrain
  dsimp only
  split <;> rfl

theorem frame_foldl_wake (ps : List (Nat × Task)) :
    Frame c (ps.foldl (fun c (_, t) => c.wake t s) c) := by
  induction ps generalizing c with
  | nil => exact .refl c
  | cons p ps ih => exact frame_wake.trans ih

theorem frame_failPending {reason : Ending} : Frame c (c.failPending l reason) := by
  have cleared : Frame c (c.modifyLink l fun k => { k with pending := [] }) := rfl
  exact cleared.trans (frame_foldl_wake _)

/-! ## Processes -/

theorem frame_exit {code : Int} : Frame c (c.exit l code) := by
  unfold exit
  split
  · have left : Frame c ((c.event l (.exited code)).modifyProcess l fun p => { p with
        exitCode := some code
        output := { p.output with ended := true }
        errors := { p.errors with ended := true } }) := rfl
    exact left.trans (frame_wakeListener.trans (frame_wakeDrain.trans (frame_wakeTeardowns _)))
  · exact .refl c

theorem frame_feed {bytes : List UInt8} : Frame c (c.feed l bytes) := by
  unfold feed
  split
  · have fed : Frame c (c.modifyProcess l fun p => { p with output := p.output.append bytes }) := rfl
    exact fed.trans frame_wakeListener
  · exact .refl c

theorem frame_closeInput : Frame c (c.closeInput l) := by
  have closed : Frame c ((c.event l .inputClosed).modifyProcess l
    fun p => { p with inputClosed := true }) := rfl
  unfold closeInput
  split
  · exact .refl c
  · dsimp only
    split
    · exact closed.trans frame_exit
    · exact closed

theorem frame_terminate : Frame c (c.terminate l).1 := by
  have struck : Frame c (c.event l .terminated) := rfl
  unfold terminate
  dsimp only
  split
  · exact struck.trans frame_exit
  · exact struck
  · exact struck

theorem frame_kill : Frame c (c.kill l).1 := by
  have struck : Frame c (c.event l .killed) := rfl
  unfold kill
  dsimp only
  split
  · exact struck.trans frame_exit
  · exact struck

/-! ## Sending -/

/-- What arrives leaves attempts and calls alone. -/
theorem activities_feed {bytes : List UInt8} :
    (c.feed l bytes).attempts = c.attempts ∧ (c.feed l bytes).calls = c.calls := by
  unfold feed
  split
  · obtain same | ⟨-, told⟩ := (c.modifyProcess l fun p =>
      { p with output := p.output.append bytes }).wakeListener_eq (l := l)
    · rw [same]
      exact ⟨rfl, rfl⟩
    · rw [told]
      exact ⟨rfl, rfl⟩
  · exact ⟨rfl, rfl⟩

theorem activities_write {m : Json} :
    (c.write l m).1.attempts = c.attempts ∧ (c.write l m).1.calls = c.calls := by
  have fed {bytes : List UInt8} : ((c.event l (.wrote m)).feed l bytes).attempts = c.attempts ∧
      ((c.event l (.wrote m)).feed l bytes).calls = c.calls := activities_feed
  unfold write
  dsimp only
  split
  · exact ⟨rfl, rfl⟩
  · split
    · exact ⟨rfl, rfl⟩
    · cases Policy.answer? (c.process l).policy m with
      | none => split <;> exact ⟨rfl, rfl⟩
      | some reply => split <;> exact fed

theorem frame_write {m : Json} : Frame c (c.write l m).1 := by
  have fed {bytes : List UInt8} : Frame c ((c.event l (.wrote m)).feed l bytes) := frame_feed
  unfold write
  dsimp only
  split
  · exact .refl c
  · split
    · exact .refl c
    · cases Policy.answer? (c.process l).policy m with
      | none => split <;> rfl
      | some reply => split <;> exact fed

theorem frame_notify {method : String} {params : Json} :
    Frame c (c.notify l method params).1 := by
  unfold notify
  split
  · exact .refl c
  · exact frame_write

theorem frame_request {method : String} {params : Json} :
    Frame c (c.request l t method params).1 := by
  unfold request
  split
  · exact .refl c
  · dsimp only
    generalize message _ _ _ = m
    have listed : Frame c (c.modifyLink l fun k => { k with
        lastId := (c.link l).lastId + 1
        pending := k.pending ++ [((c.link l).lastId + 1, t)] }) := rfl
    have asked := listed.trans (frame_write (l := l) (m := m))
    split
    · next e =>
      rw [e] at asked
      exact asked
    · next e =>
      rw [e] at asked
      exact asked.trans rfl

/-! ## Taking down -/

theorem activities_notify (method : String) (params : Json) :
    (c.notify l method params).1.attempts = c.attempts ∧
      (c.notify l method params).1.calls = c.calls := by
  unfold notify
  split
  · exact ⟨rfl, rfl⟩
  · exact activities_write

theorem activities_request (method : String) (params : Json) :
    (c.request l t method params).1.attempts = c.attempts ∧
      (c.request l t method params).1.calls = c.calls := by
  unfold request
  split
  · exact ⟨rfl, rfl⟩
  · have wrote := activities_write (l := l)
      (m := message (some ((c.link l).lastId + 1)) method params)
      (c := c.modifyLink l fun k =>
        { k with lastId := (c.link l).lastId + 1, pending := k.pending ++ [((c.link l).lastId + 1, t)] })
    dsimp only
    split
    · next e => rw [e] at wrote; exact wrote
    · next e => rw [e] at wrote; exact wrote

theorem frame_closeDrain : Frame c (c.closeDrain u).1 := by
  unfold closeDrain
  split
  · exact .refl c
  · split
    · exact frame_cancelDrain
    · exact frame_cancelDrain
    · exact .refl c

theorem frame_closeByKill : Frame c (c.closeByKill u).1 := by
  have killed := frame_kill (c := c) (l := u.link)
  unfold closeByKill
  split
  · next e =>
    rw [e] at killed
    exact killed.trans frame_closeDrain
  · next e =>
    rw [e] at killed
    exact killed

theorem frame_closeProcess : Frame c (c.closeProcess u).1 := by
  have struck := frame_terminate (c := c) (l := u.link)
  unfold closeProcess
  split
  · split
    · next e =>
      rw [e] at struck
      split
      · exact struck
      · exact struck.trans frame_closeDrain
    · next e =>
      rw [e] at struck
      exact struck.trans frame_closeDrain
  · exact frame_closeDrain

theorem frame_closeGracefully : Frame c (c.closeGracefully u).1 := by
  unfold closeGracefully
  split
  · exact .refl c
  · exact frame_closeDrain

theorem frame_closeStream : Frame c (c.closeStream u).1 := by
  have gone : Frame c ((c.failPending u.link .deliberate).closeInput u.link) :=
    frame_failPending.trans frame_closeInput
  unfold closeStream
  dsimp only
  split
  · exact gone
  · exact gone.trans frame_closeGracefully

theorem frame_closeAfterListener : Frame c (c.closeAfterListener u).1 := by
  unfold closeAfterListener
  split
  · exact .refl c
  · exact frame_closeStream

theorem frame_closeConnection : Frame c (c.closeConnection u).1 := by
  have shut : Frame c (c.modifyLink u.link fun k => { k with closed := true }) := rfl
  unfold closeConnection
  dsimp only
  split
  · exact shut.trans frame_closeAfterListener
  · split
    · exact shut.trans frame_cancelListener
    · exact shut.trans frame_cancelListener
    · exact shut.trans frame_closeAfterListener
    · exact shut.trans frame_closeStream

theorem frame_resumeTeardown : Frame c (c.resumeTeardown u s).1 := by
  unfold resumeTeardown
  split
  · exact frame_closeAfterListener
  · exact .refl c
  · split
    · exact .refl c
    · exact frame_closeGracefully
  · split
    · exact .refl c
    · exact frame_closeProcess
  · split
    · exact .refl c
    · exact frame_closeByKill
    · exact frame_closeDrain

/-- Nothing is in use when what was is taken down. -/
theorem frame_release : Frame { c with held := .nothing } c.release.1 := by
  unfold release
  dsimp only
  split
  · exact frame_closeConnection
  · exact frame_closeProcess
  · exact .refl _

end LspGateway.Client
