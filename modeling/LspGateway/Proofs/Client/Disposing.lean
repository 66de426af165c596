import LspGateway.Proofs.Client.Sparing

/-! # The turns of a disposal

A disposal lets go of what is in use before it waits for the end of that, and resets the client
before it ends. It fails on no way, and only its caller can cancel it. An attempt that it has
cancelled lets go of what is in use as well.
-/

namespace LspGateway.Client

variable {b c c₁ : Client} {a l k n m id : Nat} {p : CallPhase} {s : Signal} {t : Teardown}
  {o : Outcome}

/-! ## What is taken down -/

section Teardown

/-- Only a cancellation breaks a teardown off. -/
theorem closeDrain_ne_cancelled : (c.closeDrain t).2 ≠ .over .cancelled := by
  unfold closeDrain
  split
  · nofun
  · split <;> nofun

theorem closeByKill_ne_cancelled : (c.closeByKill t).2 ≠ .over .cancelled := by
  unfold closeByKill
  split
  · exact closeDrain_ne_cancelled
  · nofun

theorem closeProcess_ne_cancelled : (c.closeProcess t).2 ≠ .over .cancelled := by
  unfold closeProcess
  split
  · split
    · split
      · nofun
      · exact closeDrain_ne_cancelled
    · exact closeDrain_ne_cancelled
  · exact closeDrain_ne_cancelled

theorem closeGracefully_ne_cancelled : (c.closeGracefully t).2 ≠ .over .cancelled := by
  unfold closeGracefully
  split
  · nofun
  · exact closeDrain_ne_cancelled

theorem closeStream_ne_cancelled : (c.closeStream t).2 ≠ .over .cancelled := by
  unfold closeStream
  dsimp only
  split
  · nofun
  · exact closeGracefully_ne_cancelled

theorem closeAfterListener_ne_cancelled : (c.closeAfterListener t).2 ≠ .over .cancelled := by
  unfold closeAfterListener
  split
  · nofun
  · exact closeStream_ne_cancelled

theorem closeConnection_ne_cancelled : (c.closeConnection t).2 ≠ .over .cancelled := by
  unfold closeConnection
  dsimp only
  split
  · exact closeAfterListener_ne_cancelled
  · split
    · nofun
    · nofun
    · exact closeAfterListener_ne_cancelled
    · exact closeStream_ne_cancelled

theorem release_ne_cancelled : c.release.2 ≠ .over .cancelled := by
  unfold release
  dsimp only
  split
  · exact closeConnection_ne_cancelled
  · exact closeProcess_ne_cancelled
  · nofun

theorem resumeTeardown_ne_cancelled (goes : s ≠ .cancelled) :
    (c.resumeTeardown t s).2 ≠ .over .cancelled := by
  unfold resumeTeardown
  split
  · exact closeAfterListener_ne_cancelled
  · nofun
  · rw [if_neg goes]
    exact closeGracefully_ne_cancelled
  · rw [if_neg goes]
    exact closeProcess_ne_cancelled
  · split
    · exact absurd rfl goes
    · exact closeByKill_ne_cancelled
    · exact closeDrain_ne_cancelled

end Teardown

/-! ## Disposals -/

/-- What a disposal has done when it has come to a phase. -/
inductive Disposal (c : Client) : CallPhase → Prop
  | stops {a : Nat} : Disposal c (.stopping a)
  | asks {l id deadline : Nat} : Disposal c (.shuttingDown l id deadline)
  | takesDown {t : Teardown} (empty : c.held = .nothing) : Disposal c (.disposing t)
  | ends (empty : c.held = .nothing) (reset : c.state = .notStarted) : Disposal c (.done .done)

/-- A call is a disposal, wherever it stands. -/
def IsDisposal (c : Client) (n : Nat) : Prop := ∀ q, c.calls[n]? = some q → Disposal c q.phase

theorem Disposal.congr (h : Disposal c p) (held : c₁.held = c.held) (state : c₁.state = c.state) :
    Disposal c₁ p := by
  cases h with
  | stops => exact .stops
  | asks => exact .asks
  | takesDown empty => exact .takesDown (held.trans empty)
  | ends empty reset => exact .ends (held.trans empty) (state.trans reset)

theorem isDisposal_setCall (h : Disposal c p) : (c.setCall n p).IsDisposal n := by
  intro q here
  simp only [setCall, List.getElem?_set_self'] at here
  obtain ⟨_, -, rfl⟩ := Option.map_eq_some_iff.mp here
  exact h.congr rfl rfl

theorem isDisposal_finish (empty : c.held = .nothing) (reset : c.state = .notStarted) :
    (c.finish n .done).IsDisposal n := fun q here =>
  (isDisposal_setCall (.ends empty reset) q here).congr rfl rfl

theorem isDisposal_afterDisposing {r : Progress} (empty : c.held = .nothing)
    (goes : r ≠ .over .cancelled) : (c.afterDisposing n r).IsDisposal n := by
  cases r with
  | waits t => exact isDisposal_setCall (.takesDown empty)
  | «over» o =>
    cases o with
    | value j => exact isDisposal_finish (c := c.reset) empty rfl
    | error e =>
      exact isDisposal_finish (c := (c.log .error ("Error disposing LSP " ++ c.id ++ ": " ++
        e.message)).reset) empty rfl
    | cancelled => exact absurd rfl goes

theorem isDisposal_takeDown : (c.takeDown n).IsDisposal n :=
  isDisposal_afterDisposing frame_release.held release_ne_cancelled

theorem isDisposal_shutDown : (c.shutDown n).IsDisposal n := by
  unfold shutDown
  split
  · exact isDisposal_takeDown
  · dsimp only
    split
    · exact isDisposal_setCall .asks
    · intro q here
      rw [wakeCall_eq_prompt] at here ⊢
      simp only [prompt, List.getElem?_modify_eq] at here
      obtain ⟨q, before, rfl⟩ := Option.map_eq_some_iff.mp here
      rw [Call.phase_prompt]
      exact (isDisposal_setCall .asks q before).congr rfl rfl

theorem isDisposal_dispose : (c.dispose n).IsDisposal n := by
  unfold dispose
  split
  · exact isDisposal_shutDown
  · dsimp only
    split
    · exact isDisposal_shutDown
    · exact isDisposal_setCall .stops

theorem isDisposal_sendExit : (c.sendExit n l).IsDisposal n := by
  unfold sendExit
  split
  · exact isDisposal_takeDown
  · exact isDisposal_takeDown

/-- What a disposal is told while it waits for the answer to its request. -/
def Signal.isVerdict : Signal → Bool
  | .answered (.value _) => true
  | .answered (.error _) => true
  | .timedOut => true
  | _ => false

theorem phase_finish {q : Call} (here : (c.finish n o).calls[n]? = some q) : q.phase = .done o := by
  simp only [finish, emit, setCall, List.getElem?_set_self'] at here
  obtain ⟨_, -, rfl⟩ := Option.map_eq_some_iff.mp here
  rfl

/-- A disposal that goes on comes closer to its end, unless it was cancelled. -/
theorem disposal_resumeCall (h : Disposal c p) (waits : p.isLive)
    (verdict : ∀ l id d, p = .shuttingDown l id d → s.isVerdict ∨ s = .cancelled) {q : Call}
    (here : (c.resumeCall n s p).calls[n]? = some q) :
    Disposal (c.resumeCall n s p) q.phase ∨ s = .cancelled ∧ q.phase = .done .cancelled := by
  cases h with
  | stops =>
    refine .inl ((?_ : (c.afterStopping n _).IsDisposal n) q here)
    unfold afterStopping
    split
    · exact isDisposal_shutDown
    · exact isDisposal_shutDown
  | asks =>
    obtain verdict | rfl := verdict _ _ _ rfl
    · refine .inl ((?_ : (c.resumeCall n s _).IsDisposal n) q here)
      cases s with
      | answered o =>
        cases o with
        | value j => exact isDisposal_sendExit
        | error e => exact isDisposal_takeDown
        | cancelled => cases verdict
      | timedOut => exact isDisposal_takeDown
      | go => cases verdict
      | cancelled => cases verdict
    · exact .inr ⟨rfl, phase_finish here⟩
  | @takesDown t empty =>
    have empty : (c.resumeTeardown t s).1.held = .nothing := frame_resumeTeardown.held.trans empty
    by_cases stopped : (c.resumeTeardown t s).2 = .over .cancelled
    · right
      constructor
      · by_contra goes
        exact resumeTeardown_ne_cancelled goes stopped
      · have here : ((c.resumeTeardown t s).1.afterDisposing n (c.resumeTeardown t s).2).calls[n]? =
            some q := here
        rw [stopped] at here
        exact phase_finish here
    · exact .inl (isDisposal_afterDisposing empty stopped q here)
  | ends => cases waits

/-- Nobody shares an attempt with a client that is taken down. -/
theorem attempt_takeDown : (c.takeDown n).attempt = c.attempt := by
  refine Eq.trans ?_ (frame_release (c := c)).attempt
  unfold takeDown afterDisposing
  dsimp only
  split <;> rfl

theorem attempt_shutDown : (c.shutDown n).attempt = c.attempt := by
  unfold shutDown
  split
  · exact attempt_takeDown
  · next l usable =>
    have asked : ((c.expectEnd l).request l (.call n) "shutdown" .null).1.attempt = c.attempt :=
      frame_request.attempt
    dsimp only
    split
    · next e =>
      rw [e] at asked
      exact asked
    · next e =>
      rw [e] at asked
      rw [wakeCall_eq_prompt]
      exact asked

theorem attempt_dispose : (c.dispose n).attempt = none := by
  unfold dispose
  split
  · next none' => exact attempt_shutDown.trans none'
  · dsimp only
    split
    · exact attempt_shutDown
    · exact (frame_cancelAttempt (c := { c with attempt := none })).attempt

/-! ## Nothing is in use -/

section Empty

variable (empty : c.held = .nothing)

include empty

theorem usableLink_of_empty : c.usableLink = .error (.notRunning c.id) := by
  unfold usableLink
  rw [empty]
  rfl

/-- Where nothing is in use, nothing is taken down. -/
theorem release_of_empty : c.release = (c, .over .done) := by
  unfold release
  rw [empty]
  dsimp only [Held.nothing]
  rw [show ({ c with held := ⟨none, none, none⟩ } : Client) = c by rw [← Held.nothing, ← empty]]

theorem shutDown_of_empty : c.shutDown n = c.reset.succeed n := by
  unfold shutDown takeDown
  rw [usableLink_of_empty empty, release_of_empty empty]
  rfl

theorem state_afterStopping : (c.afterStopping n a).state = .notStarted := by
  unfold afterStopping
  split
  · rw [shutDown_of_empty (by exact empty)]
    rfl
  · rw [shutDown_of_empty empty]
    rfl

end Empty

/-! ## Attempts that were cancelled -/

/-- How the turn of an attempt ends that was cancelled or fails. -/
inductive Falls (n : Nat) (c c₁ : Client) : Prop
  | waits {b : Client} {t : Teardown} {o : Outcome} (held : b.held = c.held ∨ b.held = .nothing)
    (state : b.state = c.state) (result : c₁ = b.setAttempt n (.failing t o))
  | ends {b : Client} {o : Outcome} (held : b.held = c.held ∨ b.held = .nothing)
    (result : c₁ = b.endAttempt n o)

theorem falls_afterFailing {r : Progress} (frame : c.held = b.held ∨ c.held = .nothing)
    (state : c.state = b.state) : Falls n b (c.afterFailing n o r) := by
  cases r with
  | waits t => exact .waits frame state rfl
  | «over» o' =>
    cases o' with
    | value j => exact .ends (b := c.markFailed) frame rfl
    | error e => exact .ends frame rfl
    | cancelled => exact .ends frame rfl

theorem falls_runAttempt {p : AttemptPhase} (here : c.attempts[n]? = some ⟨p, some s⟩)
    (heeds : s = .cancelled ∨ p.role.strand = .fails)
    (mild : s = .cancelled → ∀ t, p.teardown? = some t → t.stage.isFirm = false)
    (waits : p.isLive) : Falls n c (c.runAttempt n) := by
  unfold runAttempt
  simp only [here, Option.getD_some]
  cases p with
  | fresh =>
    obtain rfl | early := heeds
    · exact .ends (b := c.setAttempt n .running) (.inl rfl) rfl
    · cases early
  | clearing t =>
    obtain rfl | early := heeds
    · dsimp only
      rw [resumeTeardown_cancelled (mild rfl t rfl)]
      exact .ends (b := c.setAttempt n .running) (.inl rfl) rfl
    · cases early
  | handshake l id =>
    obtain rfl | speaks := heeds
    · have frame := frame_release (c := (c.setAttempt n .running).forget l id)
      exact falls_afterFailing (.inr frame.held) frame.state
    · cases speaks
  | failing t o =>
    have frame := frame_resumeTeardown (c := c.setAttempt n .running) (u := t) (s := s)
    exact falls_afterFailing (.inl frame.held) frame.state
  | running => cases waits
  | done o => cases waits

theorem frame_endAttempt : Frame c (c.endAttempt n o) := by
  have ended : Frame c ((c.setAttempt n (.done o)).push (.relay n)) := rfl
  exact ended.trans (frame_wakeCalls _)

theorem Falls.held (h : Falls n c c₁) : c₁.held = c.held ∨ c₁.held = .nothing := by
  cases h with
  | waits held _ result =>
    rw [result]
    exact held
  | ends held result =>
    rw [result, frame_endAttempt.held]
    exact held

/-- Whoever waits for the end of the attempt is told when it ends. -/
theorem Falls.state (h : Falls n c c₁) : c₁.state = c.state ∨ ¬ c₁.IsLive n ∧
    ∀ (m : Nat) (s : Option Signal), c₁.calls[m]? = some ⟨.stopping n, s⟩ → s.isSome := by
  cases h with
  | waits _ state result =>
    rw [result]
    exact .inl state
  | ends _ result =>
    subst result
    refine .inr ⟨not_isLive_endAttempt, fun m s here => ?_⟩
    exact signal_wakeCalls here (by simp) rfl

end LspGateway.Client
