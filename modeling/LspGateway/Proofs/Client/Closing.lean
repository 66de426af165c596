import LspGateway.Proofs.Client.Listening

/-! # Taking down as actions

A teardown goes from stage to stage. It is left before the process has exited or was
told to only if the listener had ended on a value of the wrong shape, or if the
activity was cancelled while it waited for the process to leave by itself.
-/

namespace LspGateway.Client

variable {hit : Nat → Prop} {c c₁ : Client} {d d₁ : Option Doer} {ls : List Loss} {x : Doer}
  {l k n : Nat} {t u : Teardown} {s : Signal} {r : Client × Progress}

/-! ## Secured processes -/

theorem isAlive_eq : c.isAlive l = (c.link l).process.exitCode.isNone := rfl

theorem IsSecured.mono (secured : c.IsSecured l)
    (spawn : (c₁.link l).spawn = (c.link l).spawn)
    (alive : c₁.isAlive l → c.isAlive l) (history : c.history ⊆ c₁.history) :
    c₁.IsSecured l := by
  unfold IsSecured at secured ⊢
  rw [spawn]
  rcases secured with dead | told | told
  · exact .inl (by simpa using mt alive (by simp [dead]))
  · exact .inr (.inl (history told))
  · exact .inr (.inr (history told))

theorem IsSecured.modifyLink {f : Link → Link} (secured : c.IsSecured l)
    (spawn : ∀ k, (f k).spawn = k.spawn)
    (alive : ∀ k : Link, (f k).process.exitCode = k.process.exitCode) :
    (c.modifyLink k f).IsSecured l := by
  refine secured.mono (link_modifyLink_same Link.spawn spawn) ?_ fun _ h => h
  rw [isAlive_eq, isAlive_eq, link_modifyLink_same (·.process.exitCode) alive]
  exact fun h => h

theorem Action.secured (act : Action hit c d c₁ d₁) (here : l < c.links.length)
    (secured : c.IsSecured l) : c₁.IsSecured l := by
  cases act with
  | shows quiet => exact secured.mono rfl (fun h => h) (List.subset_cons_self ..)
  | writes | greets => exact secured.mono rfl (fun h => h) (List.subset_cons_self ..)
  | @asks x m method params =>
    have asked : (c.register m x.task).IsSecured l := secured.modifyLink (fun _ => rfl) fun _ => rfl
    exact asked.mono rfl (fun h => h) (List.subset_cons_self ..)
  | strikes hard own => exact secured.mono rfl (fun h => h) (List.subset_cons_self ..)
  | flows m f same => exact secured.modifyLink (fun _ => rfl) fun k => (same k.process).2
  | @exits d m code f alive left =>
    refine secured.mono ?_ ?_ (List.subset_cons_self ..)
    · exact link_modifyLink_same Link.spawn fun _ => rfl
    · rw [isAlive_eq, isAlive_eq, modifyProcess, link_modifyLink]
      split
      · simp [(left _).2]
      · exact fun h => h
  | connects task done starts cold ps p =>
    have same : (c.addLink ps p).link l = c.link l := by
      rw [link_eq, link_eq, addLink, List.getElem?_append_left here]
    refine secured.mono (by rw [same]) ?_ fun _ h => h
    rw [isAlive_eq, isAlive_eq, same]
    exact fun h => h
  | takes how =>
    rw [how.frame]
    exact secured
  | _ => first | exact secured | exact secured.modifyLink (fun _ => rfl) fun _ => rfl

theorem Path.secured (path : Path hit c d ls c₁ d₁) (here : l < c.links.length)
    (secured : c.IsSecured l) : c₁.IsSecured l := by
  induction path with
  | nil => exact secured
  | step act _ ih => exact ih (Nat.lt_of_lt_of_le here act.links_le) (act.secured here secured)
  | loses _ _ _ _ ih =>
    refine ih ?_ (secured.modifyLink (fun _ => rfl) fun _ => rfl)
    rwa [forget, links_length_modifyLink]

theorem secured_event {e : Event} (hard : e = .terminated ∨ e = .killed) :
    (c.event l e).IsSecured l := by
  rcases hard with rfl | rfl
  · exact .inr (.inl (List.mem_cons_self ..))
  · exact .inr (.inr (List.mem_cons_self ..))

theorem IsSecured.exit {code : Int} (secured : c.IsSecured l) (here : l < c.links.length)
    (taken : TakesDown d k) : (c.exit k code).IsSecured l := by
  have left : Path NoHit c d [] (c.exit k code) d := path_exit (.of_own (.inr taken))
  exact left.secured here secured

theorem secured_terminate (here : l < c.links.length) (taken : TakesDown d l) :
    (c.terminate l).1.IsSecured l := by
  have struck := secured_event (c := c) (l := l) (e := .terminated) (.inl rfl)
  unfold terminate
  dsimp only
  split
  · exact struck.exit here taken
  · exact struck
  · exact struck

theorem secured_kill (here : l < c.links.length) (taken : TakesDown d l) :
    (c.kill l).1.IsSecured l := by
  have struck := secured_event (c := c) (l := l) (e := .killed) (.inr rfl)
  unfold kill
  dsimp only
  split
  · exact struck.exit here taken
  · exact struck

theorem secured_of_dead (dead : c.isAlive l = false) : c.IsSecured l := .inl dead

/-! ## The stages -/

/-- What is left to be taken down. -/
def Progress.teardown? : Progress → Option Teardown
  | .waits t => some t
  | .over _ => none

/-- A step of a teardown: an activity that waits for the end of a listener or a drain has
cancelled it. -/
structure Closes (hit : Nat → Prop) (c : Client) (x : Doer) (r : Client × Progress) : Prop where
  path : Path hit c (some x) [] r.1 (some (x.takeDown r.2.teardown?))
  ends : ∀ t, r.2.teardown? = some t → r.1.Ends t

theorem Closes.after {y : Doer} (closes : Closes hit c₁ y r) (path : Path hit c (some x) [] c₁ (some y))
    (same : y.takeDown r.2.teardown? = x.takeDown r.2.teardown?) : Closes hit c x r :=
  ⟨path.next (same ▸ closes.path), closes.ends⟩

section Stages

variable (takes : x.role.teardown = some u) (same : u.link = t.link)

include takes same

theorem path_advance (past : u.stage ≠ .listener) (stage : Stage) (on : stage ≠ .listener)
    (late : stage.isLate → u.stage.isLate ∨ c.IsSecured t.link) :
    Path hit c (some x) [] c (some (x.takeDown (some { t with stage }))) := by
  refine .one (.takes (.advances takes same.symm (fun h => absurd h past) (fun h => absurd h past) on ?_))
  rwa [same]

/-- The teardown goes on to wait for the process. -/
theorem closes_waits (past : u.stage ≠ .listener) (stage : Stage) (on : stage.isFirm = false)
    (late : stage.isLate → u.stage.isLate ∨ c.IsSecured t.link) :
    Closes hit c x (c, .waits { t with stage }) := by
  have free : stage ≠ .listener ∧ stage ≠ .drain := by
    constructor <;> rintro rfl <;> cases on
  refine ⟨path_advance takes same past stage free.1 late, ?_⟩
  rintro _ ⟨⟩
  exact ⟨fun first => absurd first free.1, fun last => absurd last free.2⟩

theorem closes_over (past : u.stage ≠ .listener) {o : Outcome}
    (late : u.stage.isLate ∨ c.IsSecured t.link) : Closes hit c x (c, .over o) := by
  refine ⟨.one (.takes (.settles takes (fun h => absurd h past) (fun h => absurd h past) ?_)), nofun⟩
  rwa [same]

theorem closes_closeDrain (past : u.stage ≠ .listener)
    (late : u.stage.isLate ∨ c.IsSecured t.link) : Closes hit c x (c.closeDrain t) := by
  unfold closeDrain
  split
  · exact closes_over takes same past late
  · next d drain =>
    have stop (pending : (c.link d).drain.phase.isPending) :
        Closes hit c x (c.cancelDrain d, .waits { t with stage := .drain }) := by
      refine ⟨(path_advance takes same past .drain nofun fun _ => late).next
        (path_cancelDrain pending), ?_⟩
      rintro _ ⟨⟩
      refine ⟨nofun, fun _ => ⟨d, drain, ?_⟩⟩
      rw [cancelDrain_eq pending]
      exact congrArg (·.drain.signal) (link_modifyLink_self (lt_of_drain pending) _)
    split
    · next phase => exact stop (by rw [phase]; rfl)
    · next phase => exact stop (by rw [phase]; rfl)
    · exact closes_over takes same past late

theorem takesDown : TakesDown (some x) t.link := ⟨x, u, rfl, takes, same⟩

variable (here : t.link < c.links.length)

include here

theorem closes_closeByKill (past : u.stage ≠ .listener) : Closes hit c x (c.closeByKill t) := by
  have path : Path hit c (some x) [] (c.kill t.link).1 (some x) :=
    path_kill (.inr (takesDown takes same))
  have secured := secured_kill here (takesDown takes same)
  unfold closeByKill
  split
  · next e =>
    rw [e] at path secured
    exact (closes_closeDrain takes same past (.inr secured)).after path rfl
  · next e =>
    rw [e] at path secured
    exact (closes_over takes same past (.inr secured)).after path rfl

theorem closes_closeProcess (past : u.stage ≠ .listener) : Closes hit c x (c.closeProcess t) := by
  have path : Path hit c (some x) [] (c.terminate t.link).1 (some x) :=
    path_terminate (.inr (takesDown takes same))
  have secured := secured_terminate here (takesDown takes same)
  unfold closeProcess
  split
  · split
    · next e =>
      rw [e] at path secured
      split
      · exact (closes_waits takes same past (.terminated _) rfl fun _ => .inr secured).after path rfl
      · exact (closes_closeDrain takes same past (.inr secured)).after path rfl
    · next e =>
      rw [e] at path secured
      exact (closes_closeDrain takes same past (.inr secured)).after path rfl
  · next dead =>
    exact closes_closeDrain takes same past (.inr (secured_of_dead (by simpa using dead)))

omit here in
theorem closes_closeGracefully (past : u.stage ≠ .listener) :
    Closes hit c x (c.closeGracefully t) := by
  unfold closeGracefully
  split
  · exact closes_waits takes same past (.grace _) rfl nofun
  · next dead =>
    exact closes_closeDrain takes same past (.inr (secured_of_dead (by simpa using dead)))

variable (idle : x.IsFree) (shut : u.stage = .listener → (c.link t.link).closed)

include idle shut

omit here in
/-- The pending requests are given up before the teardown goes past the listener. -/
theorem closes_closeStream : Closes hit c x (c.closeStream t) := by
  have failed : Path hit c (some x) [] (c.failPending t.link .deliberate) (some x) :=
    path_failPending (by rintro _ ⟨⟩; exact idle)
  let y := x.takeDown (some ⟨t.link, t.drain, .grace 0⟩)
  have advanced : Action hit (c.failPending t.link .deliberate) (some x)
      (c.failPending t.link .deliberate) (some y) := by
    refine .takes (.advances takes same.symm (fun first => ?_) (fun _ => ?_) nofun nofun)
    · rw [same, link_failPending]
      refine (link_modifyLink_same Link.closed ?_).trans (shut first)
      exact fun _ => rfl
    · rw [same]
      exact pending_failPending _
  have gone : Path hit c (some x) [] ((c.failPending t.link .deliberate).closeInput t.link)
      (some y) := (failed.last advanced).next (path_closeInput (.inr (.inr (.inr ⟨y, _, rfl, rfl, rfl⟩))))
  unfold closeStream
  dsimp only
  split
  · exact (closes_waits (x := y) rfl rfl nofun (.input _) rfl nofun).after gone rfl
  · exact (closes_closeGracefully (x := y) rfl rfl nofun).after gone rfl

omit here in
theorem closes_closeAfterListener : Closes hit c x (c.closeAfterListener t) := by
  unfold closeAfterListener
  split
  · next fault crash =>
    refine ⟨.one (.takes (.abandons takes ?_ (.inl ?_))), nofun⟩
    · rwa [same]
    · rw [same, crash]
      rfl
  · exact closes_closeStream takes same idle shut

end Stages

theorem closes_closeConnection (takes : x.role.teardown = some t) (first : t.stage = .listener)
    (idle : x.IsFree) (here : t.link < c.links.length) :
    Closes hit c x (c.closeConnection t) := by
  have shut : Path hit c (some x) [] (c.modifyLink t.link fun k => { k with closed := true })
      (some x) := .one (.shuts takes first)
  have closed : ((c.modifyLink t.link fun k => { k with closed := true }).link t.link).closed :=
    congrArg Link.closed (link_modifyLink_self here _)
  unfold closeConnection
  dsimp only
  generalize c.modifyLink t.link (fun k => { k with closed := true }) = c₁ at shut closed ⊢
  have here₁ : t.link < c₁.links.length := Nat.lt_of_lt_of_le here shut.links_le
  have wait (pending : (c₁.link t.link).listener.phase.isPending) :
      Closes hit c₁ x (c₁.cancelListener t.link, .waits { t with stage := .listener }) := by
    have same : x.takeDown (some { t with stage := .listener }) = x := by
      rw [← first]
      show { x with role := { x.role with teardown := some t } } = x
      rw [← takes]
    refine ⟨?_, ?_⟩
    · rw [Progress.teardown?, same]
      exact path_cancelListener pending closed
    · rintro _ ⟨⟩
      refine ⟨fun _ => ?_, nofun⟩
      rw [cancelListener_eq pending]
      exact congrArg (·.listener.signal) (link_modifyLink_self here₁ _)
  split
  · exact (closes_closeAfterListener takes rfl idle fun _ => closed).after shut rfl
  · split
    · next phase => exact (wait (by rw [phase]; rfl)).after shut rfl
    · next phase => exact (wait (by rw [phase]; rfl)).after shut rfl
    · exact (closes_closeAfterListener takes rfl idle fun _ => closed).after shut rfl
    · exact (closes_closeStream takes rfl idle fun _ => closed).after shut rfl

/-- A teardown goes on when what it waited for has come about. -/
theorem closes_resumeTeardown (takes : x.role.teardown = some t)
    (began : x.began.teardown = some t) (idle : x.IsFree) (here : t.link < c.links.length)
    (shut : t.stage = .listener → (c.link t.link).closed) :
    Closes hit c x (c.resumeTeardown t x.signal) := by
  have abandon (patient : t.stage.isPatient) (cancelled : x.signal = .cancelled) :
      Closes hit c x (c, .over .cancelled) :=
    ⟨.one (.takes (.abandons takes shut (.inr ⟨patient, cancelled, began⟩))), nofun⟩
  unfold resumeTeardown
  split
  · exact closes_closeAfterListener takes rfl idle shut
  · next stage =>
    exact closes_over takes rfl (by rw [stage]; nofun) (.inl (by rw [stage]; rfl))
  · next stage =>
    split
    · next cancelled => exact abandon (by rw [stage]; rfl) cancelled
    · exact closes_closeGracefully takes rfl (by rw [stage]; nofun)
  · next stage =>
    split
    · next cancelled => exact abandon (by rw [stage]; rfl) cancelled
    · exact closes_closeProcess takes rfl here (by rw [stage]; nofun)
  · next stage =>
    have past : t.stage ≠ .listener := by rw [stage]; nofun
    have late : t.stage.isLate := by rw [stage]; rfl
    split
    · exact closes_over takes rfl past (.inl late)
    · exact closes_closeByKill takes rfl here past
    · exact closes_closeDrain takes rfl past (.inl late)

/-- The links in use exist. -/
def HoldsLinks (c : Client) : Prop :=
  ∀ l, c.held.process = some l ∨ c.held.connection = some l → l < c.links.length

theorem closes_release (idle : x.role.teardown = none)
    (who : (∃ n, x.task = .attempt n) ∨ x.role.disposes = true)
    (unasking : x.IsFree) (here : c.HoldsLinks) : Closes hit c x c.release := by
  have gone : Path hit c (some x) [] { c with held := .nothing }
      (some (x.takeDown c.held.teardown?)) := .one (.takes (.releases idle who))
  have here' {l : Nat} (h : c.held.process = some l ∨ c.held.connection = some l) :
      l < { c with held := .nothing }.links.length := here l h
  unfold release
  generalize { c with held := .nothing } = c₁ at gone here' ⊢
  dsimp only
  rcases held : c.held with ⟨process, _ | l, drain⟩
  · cases process with
    | none =>
      rw [held] at gone
      exact ⟨gone, nofun⟩
    | some l =>
      rw [held] at gone here'
      exact (closes_closeProcess (u := ⟨l, drain, .grace 0⟩) rfl rfl (here' (.inl rfl))
        nofun).after gone rfl
  · rw [held] at gone here'
    exact (closes_closeConnection (x := x.takeDown (some ⟨l, drain, .listener⟩)) rfl rfl
      unasking (here' (.inr rfl))).after gone rfl

end LspGateway.Client
