import LspGateway.Proofs.Client.Frames

/-! # What processes do, sending and listening as actions

Each function that an activity uses in its turn is a series of actions.
-/

namespace LspGateway.Client

variable {hit : Nat → Prop} {c c₁ : Client} {d d₁ : Option Doer} {ls : List Loss} {x : Doer}
  {l k n id : Nat} {t : Task} {s : Signal}

/-! ## What stays -/

/-- Nothing changes but what is in use. -/
theorem Takes.frame {u : Option Teardown} (how : Takes c x c₁ u) :
    c₁ = { c with held := c₁.held } := by
  cases how <;> rfl

theorem Action.links_le (act : Action hit c d c₁ d₁) : c.links.length ≤ c₁.links.length := by
  cases act with
  | takes how => exact Nat.le_of_eq (by rw [how.frame])
  | connects => simp [addLink]
  | _ => first | exact Nat.le_refl _ | exact Nat.le_of_eq (links_length_modifyLink _).symm

theorem Path.links_le (path : Path hit c d ls c₁ d₁) : c.links.length ≤ c₁.links.length := by
  induction path with
  | nil => exact Nat.le_refl _
  | step act _ ih => exact Nat.le_trans act.links_le ih
  | loses _ _ _ _ ih => exact Nat.le_trans (Nat.le_of_eq (links_length_modifyLink _).symm) ih

theorem Action.attempts_le (act : Action hit c d c₁ d₁) :
    c.attempts.length ≤ c₁.attempts.length := by
  cases act with
  | @answers d l id t o => cases t <;> simp [prompt, forget, modifyLink]
  | @fails d l id t rest => cases t <;> simp [prompt, modifyLink]
  | shares sends cold ceased => simp [addAttempt, push]
  | takes how => exact Nat.le_of_eq (by rw [how.frame])
  | _ => first | exact Nat.le_refl _ | exact Nat.le_of_eq (List.length_set ..).symm

theorem Path.attempts_le (path : Path hit c d ls c₁ d₁) :
    c.attempts.length ≤ c₁.attempts.length := by
  induction path with
  | nil => exact Nat.le_refl _
  | step act _ ih => exact Nat.le_trans act.attempts_le ih
  | loses _ _ _ _ ih => exact ih

theorem Action.calls_le (act : Action hit c d c₁ d₁) : c.calls.length ≤ c₁.calls.length := by
  cases act with
  | @answers d l id t o => cases t <;> simp [prompt, forget, modifyLink]
  | @fails d l id t rest => cases t <;> simp [prompt, modifyLink]
  | calls job fits => simp [addCall, push]
  | takes how => exact Nat.le_of_eq (by rw [how.frame])
  | _ => first | exact Nat.le_refl _ | exact Nat.le_of_eq (List.length_set ..).symm

/-- No activity disappears. -/
theorem Action.has (act : Action hit c d c₁ d₁) (t : Task) (h : c.Has t) : c₁.Has t := by
  cases t with
  | listener l => exact Nat.lt_of_lt_of_le h act.links_le
  | drain l => exact Nat.lt_of_lt_of_le h act.links_le
  | attempt n => exact Nat.lt_of_lt_of_le h act.attempts_le
  | call n => exact Nat.lt_of_lt_of_le h act.calls_le
  | relay a => trivial

theorem Action.audience_eq (act : Action hit c d c₁ d₁) : c₁.audience = c.audience := by
  cases act with
  | takes how => rw [how.frame]
  | _ => rfl

theorem Path.audience_eq (path : Path hit c d ls c₁ d₁) : c₁.audience = c.audience := by
  induction path with
  | nil => rfl
  | step act _ ih => exact ih.trans act.audience_eq
  | loses _ _ _ _ ih => exact ih

/-! ## Processes -/

theorem Reaches.of_own (own : c.held.process = some l ∨ TakesDown d l) : Reaches c d l :=
  own.elim (fun used => .inr (.inl used)) fun taken => .inr (.inr (.inr taken))

/-- Which process is the last, and which are used, does not change. -/
theorem Reaches.same (near : Reaches c d l) (len : c₁.links.length = c.links.length)
    (held : c₁.held = c.held) : Reaches c₁ d l := by
  rwa [Reaches, len, held]

theorem path_exit {code : Int} (near : Reaches c d l) : Path hit c d [] (c.exit l code) d := by
  unfold exit
  split
  · next alive =>
    have left : Path hit c d [] ((c.event l (.exited code)).modifyProcess l fun p => { p with
        exitCode := some code
        output := { p.output with ended := true }
        errors := { p.errors with ended := true } }) d :=
      .one (.exits _ alive fun _ => ⟨rfl, rfl⟩)
    refine left.next (.next (path_wakeListener ?_) (path_wakeDrain.next (path_wakeTeardowns _)))
    exact near.same (links_length_modifyLink _) rfl
  · exact .nil c d

theorem path_flow (f : Process → Process)
    (same : ∀ p, (f p).policy = p.policy ∧ (f p).exitCode = p.exitCode) :
    Path hit c d [] (c.modifyProcess l f) d :=
  .one (.flows l f same)

theorem path_feed {bytes : List UInt8} (near : Reaches c d l) :
    Path hit c d [] (c.feed l bytes) d := by
  unfold feed
  split
  · refine .next (path_flow _ ?_) (path_wakeListener (near.same (links_length_modifyLink _) rfl))
    exact fun _ => ⟨rfl, rfl⟩
  · exact .nil c d

theorem path_feedErrors {bytes : List UInt8} : Path hit c d [] (c.feedErrors l bytes) d := by
  unfold feedErrors
  split
  · refine .next (path_flow _ ?_) path_wakeDrain
    exact fun _ => ⟨rfl, rfl⟩
  · exact .nil c d

theorem path_endOutput (near : Reaches c d l) : Path hit c d [] (c.endOutput l) d := by
  unfold endOutput
  split
  · refine .next (path_flow _ ?_) (path_wakeListener (near.same (links_length_modifyLink _) rfl))
    exact fun _ => ⟨rfl, rfl⟩
  · exact .nil c d

theorem path_breakInput {fault : Option InputFault} : Path hit c d [] (c.breakInput l fault) d :=
  path_flow _ fun _ => ⟨rfl, rfl⟩

theorem path_closeInput (near : Reaches c d l) : Path hit c d [] (c.closeInput l) d := by
  unfold closeInput
  split
  · exact .nil c d
  · have closed : Path hit c d [] ((c.event l .inputClosed).modifyProcess l
        fun p => { p with inputClosed := true }) d :=
      .step (.shows rfl) (path_flow _ fun _ => ⟨rfl, rfl⟩)
    dsimp only
    split
    · exact closed.next (path_exit (near.same (links_length_modifyLink _) rfl))
    · exact closed

theorem path_terminate (own : c.held.process = some l ∨ TakesDown d l) :
    Path hit c d [] (c.terminate l).1 d := by
  have struck : Path hit c d [] (c.event l .terminated) d := .one (.strikes (.inl rfl) own)
  unfold terminate
  dsimp only
  split
  · exact struck.next (path_exit (.of_own own))
  · exact struck
  · exact struck

theorem path_kill (own : c.held.process = some l ∨ TakesDown d l) :
    Path hit c d [] (c.kill l).1 d := by
  have struck : Path hit c d [] (c.event l .killed) d := .one (.strikes (.inr rfl) own)
  unfold kill
  dsimp only
  split
  · exact struck.next (path_exit (.of_own own))
  · exact struck

/-! ## Sending -/

/-- Whatever comes as an answer to a message comes from within reach. -/
def Elicits (c : Client) (d : Option Doer) (l : Nat) (m : Json) : Prop :=
  ∀ p reply, Policy.answer? p m = some reply → Reaches c d l

/-- A message is either not written at all, or written first of all. -/
theorem write_cases (c : Client) (l : Nat) (m : Json) :
    (∃ e, c.write l m = (c, .error e)) ∨
      (c.link l).closed = false ∧ ∀ (hit : Nat → Prop) d, c.Elicits d l m →
        Path hit (c.event l (.wrote m)) d [] (c.write l m).1 d := by
  unfold write
  split
  · exact .inl ⟨_, rfl⟩
  · next up =>
    dsimp only
    split
    · exact .inl ⟨_, rfl⟩
    · refine .inr ⟨by simpa using up, fun hit d near => ?_⟩
      split
      · split
        · next answered => exact path_feed (near _ _ answered)
        · exact .nil _ d
      · split
        · next answered => exact path_feed (near _ _ answered)
        · exact .nil _ d

/-- What has no id is answered by nobody. -/
theorem elicits_message {method : String} {params : Json} :
    c.Elicits d l (message none method params) := by
  intro p reply answered
  have none_answered : Policy.answer? p (message none method params) = none := by
    by_cases h : params = .null <;> simp [message, h] <;> rfl
  cases none_answered.symm.trans answered

/-- What turns a request down is answered by nobody. -/
theorem elicits_rejection {id method : Json} : c.Elicits d l (rejection id method) := by
  intro p reply answered
  cases answered

theorem Writes.elicits {m : Json} (why : Writes c l d m) : c.Elicits d l m := by
  cases why with
  | rejects => exact elicits_rejection
  | tells => exact elicits_message

theorem path_write {m : Json} (why : Writes c l d m) : Path hit c d [] (c.write l m).1 d := by
  obtain ⟨e, same⟩ | ⟨up, path⟩ := c.write_cases l m
  · rw [same]
    exact .nil c d
  · exact .step (.writes up why) (path hit d why.elicits)

theorem path_notify {method : String} {params : Json}
    (why : Writes c l d (message none method params)) :
    Path hit c d [] (c.notify l method params).1 d := by
  unfold notify
  split
  · exact .nil c d
  · exact path_write why

section Arrival

variable {α : Type} (g : Link → α) (process : ∀ k p, g { k with process := p } = g k)
  (signal : ∀ k s, g { k with listener := ⟨k.listener.phase, s⟩ } = g k)

include process signal

/-- What arrives changes a process, and what its listener is told. -/
theorem link_feed {bytes : List UInt8} : g ((c.feed l bytes).link k) = g (c.link k) := by
  have woken (c : Client) : g ((c.wakeListener l).link k) = g (c.link k) := by
    obtain e | ⟨-, e⟩ := wakeListener_eq (c := c) (l := l)
    · rw [e]
    · rw [e]
      exact link_modifyLink_same g fun _ => signal _ _
  unfold feed
  split
  · exact (woken _).trans (link_modifyLink_same g fun _ => process _ _)
  · rfl

theorem link_write {m : Json} : g ((c.write l m).1.link k) = g (c.link k) := by
  have fed {bytes : List UInt8} :
      g (((c.event l (.wrote m)).feed l bytes).link k) = g (c.link k) := link_feed g process signal
  unfold write
  dsimp only
  split
  · rfl
  · split
    · rfl
    · cases Policy.answer? (c.process l).policy m with
      | none => split <;> rfl
      | some reply => split <;> exact fed

end Arrival

/-- The end of a process changes no more of a link than its process and who is told of that. -/
theorem link_exit {α : Type} {code : Int} (g : Link → α)
    (process : ∀ k p, g { k with process := p } = g k)
    (signal : ∀ k s, g { k with listener := ⟨k.listener.phase, s⟩ } = g k)
    (drain : ∀ k w, g { k with drain := w } = g k) :
    g ((c.exit l code).link k) = g (c.link k) := by
  have woken (c : Client) : g ((c.wakeListener l).link k) = g (c.link k) := by
    obtain e | ⟨-, e⟩ := wakeListener_eq (c := c) (l := l) <;> rw [e]
    exact link_modifyLink_same g fun _ => signal _ _
  have drained (c : Client) : g ((c.wakeDrain l).link k) = g (c.link k) := by
    obtain e | ⟨-, e⟩ := wakeDrain_eq (c := c) (l := l) <;> rw [e]
    exact link_modifyLink_same g fun _ => drain _ _
  have told (c : Client) (p : Teardown → Bool) : (c.wakeTeardowns p .go).link k = c.link k := by
    obtain ⟨ts, e⟩ := wakeTeardowns_frame (c := c) (s := .go) p
    rw [e]
    rfl
  unfold exit
  split
  · dsimp only
    rw [told, drained, woken]
    exact link_modifyLink_same g fun _ => process _ _
  · rfl

theorem link_kill {α : Type} (g : Link → α) (process : ∀ k p, g { k with process := p } = g k)
    (signal : ∀ k s, g { k with listener := ⟨k.listener.phase, s⟩ } = g k)
    (drain : ∀ k w, g { k with drain := w } = g k) : g ((c.kill l).1.link k) = g (c.link k) := by
  unfold kill
  dsimp only
  split
  · exact link_exit (c := c.event l .killed) g process signal drain
  · rfl

/-- What could be sent went over an open connection. -/
theorem isClosed_notify {method : String} {params : Json}
    (h : c.notify l method params = (c₁, .ok ())) :
    c₁.held = c.held ∧ (c₁.link l).isClosed = false := by
  unfold notify at h
  split at h
  · simp at h
  · next up =>
    have held := (frame_write (c := c) (l := l) (m := message none method params)).held
    have closed := link_write (c := c) (l := l) (k := l) (m := message none method params)
      Link.isClosed (fun _ _ => rfl) fun _ _ => rfl
    rw [h] at held closed
    exact ⟨held, closed.trans (by simpa using up)⟩

theorem request_eq {method : String} {params : Json} (up : (c.link l).isClosed = false) :
    c.request l t method params =
      match (c.register l t).write l (message (some ((c.link l).lastId + 1)) method params) with
      | (c₁, .ok ()) => (c₁, .ok ((c.link l).lastId + 1))
      | (c₁, .error e) => (c₁.forget l ((c.link l).lastId + 1), .error e) := by
  rw [request, up]
  rfl

section Request

variable {method : String} {params : Json} (task : x.task = t)
  (idle : x.role.expects = none) (left : x.leaves = none) (used : c.held.connection = some l)
  (why : Occasion c x l (some ((c.link l).lastId + 1)) method params)

include task idle left used why

theorem path_request (h : c.request l t method params = (c₁, .ok id)) :
    Path hit c (some x) [] c₁ (some (x.expect (some (l, id)))) ∧ 0 < id := by
  subst task
  cases up : (c.link l).isClosed with
  | true => simp [request, up] at h
  | false =>
    rw [request_eq up] at h
    obtain ⟨e, same⟩ | ⟨-, path⟩ := (c.register l x.task).write_cases l
      (message (some ((c.link l).lastId + 1)) method params)
    · simp [same] at h
    · split at h
      · next sent =>
        obtain ⟨rfl, rfl⟩ : _ = c₁ ∧ _ = id := by simpa using h
        rw [sent] at path
        exact ⟨.step (.asks idle left up used why) (path hit _ fun _ _ _ => .inr (.inr (.inl used))),
          Nat.succ_pos _⟩
      · simp at h

/-- A request that cannot be sent is as if it had not been made. -/
theorem path_request_error {e : Error} (h : c.request l t method params = (c₁, .error e)) :
    Path hit c (some x) [] c₁ (some x) := by
  subst task
  cases up : (c.link l).isClosed with
  | true =>
    obtain ⟨rfl, -⟩ : c = c₁ ∧ _ := by simpa [request, up] using h
    exact .nil c (some x)
  | false =>
    rw [request_eq up] at h
    obtain ⟨e', same⟩ | ⟨-, path⟩ := (c.register l x.task).write_cases l
      (message (some ((c.link l).lastId + 1)) method params)
    · obtain ⟨rfl, -⟩ : _ = c₁ ∧ _ := by simpa [same] using h
      have back : { x.leave (l, (c.link l).lastId + 1) with leaves := none } = x := by
        rw [Doer.leave, ← left]
      have gone : Action hit (c.register l x.task) (some (x.leave (l, (c.link l).lastId + 1))) _ _ :=
        .withdraws idle rfl
      rw [back] at gone
      exact .step (.mumbles idle left up used) (.one gone)
    · split at h
      · simp at h
      · next sent =>
        obtain ⟨rfl, -⟩ : _ = c₁ ∧ _ := by simpa using h
        rw [sent] at path
        have back : (x.expect (some (l, (c.link l).lastId + 1))).expect none = x := by
          obtain ⟨_, _, _, ⟨_, _, _, _, _⟩, _⟩ := x
          simpa [Doer.expect] using idle.symm
        have asked := Path.step (.asks idle left up used why)
          (path hit _ fun _ _ _ => .inr (.inr (.inl used)))
        have gone := asked.last (.retracts rfl left)
        rwa [back] at gone

end Request

/-! ## Giving up requests -/

theorem modifyLink_prompt (f : Link → Link) :
    (c.prompt t s).modifyLink l f = (c.modifyLink l f).prompt t s := rfl

/-- Pending requests are those of a link that exists. -/
theorem lt_of_pending {p : Nat × Task} (h : p ∈ (c.link l).pending) : l < c.links.length := by
  refine Nat.lt_of_not_le fun hl => ?_
  rw [link_of_le hl] at h
  exact List.not_mem_nil h

/-- The first pending request is given up, and then the others are. -/
theorem failPending_cons {reason : Ending} {rest : List (Nat × Task)}
    (h : (c.link l).pending = (id, t) :: rest) :
    c.failPending l reason = ((c.modifyLink l fun k => { k with pending := rest }).prompt t
      (.answered (.error (.ended reason)))).failPending l reason := by
  have here : l < c.links.length := lt_of_pending (p := (id, t)) (by simp [h])
  have left : (((c.modifyLink l fun k => { k with pending := rest }).prompt t
      (.answered (.error (.ended reason)))).link l).pending = rest := by
    exact congrArg Link.pending (link_modifyLink_self here _)
  rw [failPending, failPending, left, modifyLink_prompt, modifyLink_modifyLink, h,
    List.foldl_cons]
  simp only [wake_eq_prompt]
  rfl

theorem path_failPending {reason : Ending} (idle : IsIdle d) :
    Path hit c d [] (c.failPending l reason) d := by
  generalize h : (c.link l).pending = ps
  induction ps generalizing c with
  | nil =>
    have e : c.failPending l reason = c := by
      rw [failPending, h, List.foldl_nil, modifyLink_self (by rw [← h])]
    rw [e]
    exact .nil c d
  | cons p ps ih =>
    obtain ⟨id, t⟩ := p
    rw [failPending_cons h]
    refine .step (.fails idle reason h) (ih ?_)
    exact congrArg Link.pending (link_modifyLink_self
      (lt_of_pending (p := (id, t)) (by simp [h])) _)

end LspGateway.Client
