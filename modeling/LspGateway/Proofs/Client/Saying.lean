import LspGateway.Proofs.Client.Posting

/-! # What calls say

A call that has something to send says it to the connection in use, in order, and nothing else.
Whoever takes a link down says nothing.
-/

namespace LspGateway

def Send.method : Send → String
  | .notify method _ => method
  | .request method _ => method

namespace Client

variable {hit : Nat → Prop} {c c₁ c₂ : Client} {d d₁ : Option Doer} {ls : List Loss} {x : Doer}
  {l k n id : Nat} {t : Task} {s : Signal} {m : Json} {ss rest : List Send}

/-! ## Silence -/

/-- An activity that does nothing but take down. -/
structure Doer.IsMute (x : Doer) : Prop where
  errand : x.role.errand = .none
  disposes : x.role.disposes = false
  fails : x.role.strand = .fails

theorem Action.isMute {y : Doer} (act : Action hit c (some x) c₁ (some y)) (mute : x.IsMute) :
    y.IsMute := by
  obtain ⟨errand, disposes, fails⟩ := mute
  refine ⟨act.task_eq.2.2.2.trans errand, ?_, ?_⟩
  · obtain ⟨e, s, same⟩ | ⟨u, rfl, -⟩ | ⟨a, rfl, other, -⟩ := act.role_step
    · rw [same]
      exact disposes
    · exact disposes
    · cases other.symm.trans errand
  · cases act with
    | greets _ speaks => cases speaks.symm.trans fails
    | spends _ starts | connects _ _ starts => cases starts.symm.trans fails
    | startsUp _ early => cases early.symm.trans fails
    | turnsBack => rfl
    | _ => exact fails

/-- Only who has its turn and does more than take down says something. -/
theorem Posts.not_mute (posts : Posts c d l m d₁) : ∃ x, d = some x ∧ ¬ x.IsMute := by
  cases posts with
  | @tells x _ _ _ used why =>
    refine ⟨x, rfl, fun mute => ?_⟩
    cases why with
    | sends sends => cases sends.symm.trans mute.errand
    | exits disposes => cases disposes.symm.trans mute.disposes
  | @greets x _ _ _ _ _ _ speaks => exact ⟨x, rfl, fun mute => by cases speaks.symm.trans mute.fails⟩
  | @asks x _ _ _ used why =>
    refine ⟨x, rfl, fun mute => ?_⟩
    generalize some _ = o at why
    cases why with
    | introduces _ speaks => cases speaks.symm.trans mute.fails
    | sends sends => cases sends.symm.trans mute.errand
    | shutsDown disposes | exits disposes => cases disposes.symm.trans mute.disposes

theorem Path.sentTo_eq (path : Path hit c d ls c₁ d₁) (mute : ∀ x, d = some x → x.IsMute) :
    c₁.sentTo k = c.sentTo k := by
  induction path with
  | nil => rfl
  | @step c d c' d' ls c₂ d₂ act _ ih =>
    have later : ∀ y, d' = some y → y.IsMute := by
      rintro y rfl
      cases d with
      | none => cases act.none_eq
      | some x => exact act.isMute (mute x rfl)
    refine (ih later).trans ?_
    obtain same | ⟨l, m, posts, -⟩ := act.posts
    · exact same k
    · obtain ⟨x, turn, loud⟩ := posts.not_mute
      exact absurd (mute x turn) loud
  | loses _ _ _ _ ih => exact ih mute

/-- Nothing is said when nobody has its turn. -/
theorem Path.sentTo_none (path : Path hit c none ls c₁ d₁) : c₁.sentTo k = c.sentTo k :=
  path.sentTo_eq fun x turn => by cases turn

theorem sentTo_release (holds : c.HoldsLinks) : c.release.1.sentTo k = c.sentTo k := by
  let x : Doer := ⟨.attempt 0, .go, .attempting .fails, .attempting .fails, none, none, .nothing⟩
  have closes : Closes NoHit c x c.release := closes_release rfl (.inl ⟨0, rfl⟩) ⟨rfl, rfl⟩ holds
  exact closes.path.sentTo_eq (by rintro _ ⟨⟩; exact ⟨rfl, rfl, rfl⟩)

theorem sentTo_resumeTeardown {t : Teardown} (here : t.link < c.links.length)
    (shut : t.stage = .listener → (c.link t.link).closed) :
    (c.resumeTeardown t s).1.sentTo k = c.sentTo k := by
  let r : Role := { Role.attempting .fails with teardown := some t }
  let x : Doer := ⟨.attempt 0, s, r, r, none, none, .nothing⟩
  have closes : Closes NoHit c x (c.resumeTeardown t s) :=
    closes_resumeTeardown rfl rfl ⟨rfl, rfl⟩ here shut
  exact closes.path.sentTo_eq (by rintro _ ⟨⟩; exact ⟨rfl, rfl, rfl⟩)

/-! ## Messages -/

theorem get_method_message {id : Option Nat} {method : String} {params : Json} :
    (message id method params).get? "method" = some (.str method) := by
  cases id <;> simp [message, Json.get?, Json.Members.get?]

/-- What a process answers by itself says nothing to it. -/
theorem sentTo_write_cases (c : Client) (l : Nat) (m : Json) :
    (∃ e, c.write l m = (c, .error e)) ∨
      ∀ k, (c.write l m).1.sentTo k = (c.event l (.wrote m)).sentTo k := by
  refine (c.write_cases l m).imp_right fun ⟨_, path⟩ k => ?_
  let r : Role := { Role.attempting .fails with teardown := some ⟨l, none, .drain⟩ }
  let x : Doer := ⟨.attempt 0, .go, r, r, none, none, .nothing⟩
  have taken : TakesDown (some x) l := ⟨x, _, rfl, rfl, rfl⟩
  exact (path NoHit (some x) fun _ _ _ => .of_own (.inr taken)).sentTo_eq
    (by rintro _ ⟨⟩; exact ⟨rfl, rfl, rfl⟩)

theorem sentTo_write (asks : hasMethod m) : (c.write l m).1.sentTo k = c.sentTo k ∨
    k = (c.link l).spawn ∧ (c.write l m).1.sentTo k = c.sentTo k ++ [m] := by
  obtain ⟨e, same⟩ | sent := c.sentTo_write_cases l m
  · rw [same]
    exact .inl rfl
  · rw [sent, sentTo_wrote asks]
    split
    · next e => exact .inr ⟨e, rfl⟩
    · exact .inl rfl

theorem sentTo_write_ok (asks : hasMethod m) (h : c.write l m = (c₁, .ok ())) :
    c₁.sentTo k = if k = (c.link l).spawn then c.sentTo k ++ [m] else c.sentTo k := by
  obtain ⟨e, same⟩ | sent := c.sentTo_write_cases l m
  · cases same.symm.trans h
  · have said := sent k
    rwa [h, sentTo_wrote asks] at said

theorem sentTo_notify {method : String} {params : Json} :
    (c.notify l method params).1.sentTo k = c.sentTo k ∨ k = (c.link l).spawn ∧
      (c.notify l method params).1.sentTo k = c.sentTo k ++ [message none method params] := by
  unfold notify
  split
  · exact .inl rfl
  · exact sentTo_write hasMethod_message

theorem spawn_write : ((c.write l m).1.link k).spawn = (c.link k).spawn :=
  link_write Link.spawn (fun _ _ => rfl) fun _ _ => rfl

theorem spawn_notify {method : String} {params : Json} :
    ((c.notify l method params).1.link k).spawn = (c.link k).spawn := by
  unfold notify
  split
  · rfl
  · exact spawn_write

theorem spawn_register : ((c.register l t).link k).spawn = (c.link k).spawn :=
  link_modifyLink_same Link.spawn fun _ => rfl

theorem spawn_forget : ((c.forget l id).link k).spawn = (c.link k).spawn :=
  link_modifyLink_same Link.spawn fun _ => rfl

section Request

variable {method : String} {params : Json}

theorem spawn_request : ((c.request l t method params).1.link k).spawn = (c.link k).spawn := by
  cases up : (c.link l).isClosed with
  | true => rw [request, up]; rfl
  | false =>
    have wrote := spawn_write (c := c.register l t) (l := l) (k := k)
      (m := message (some ((c.link l).lastId + 1)) method params)
    rw [spawn_register] at wrote
    rw [request_eq up]
    split
    · next e => rw [e] at wrote; exact wrote
    · next e => rw [e] at wrote; exact spawn_forget.trans wrote

/-- A request is written once at most. -/
theorem sentTo_request : (c.request l t method params).1.sentTo k = c.sentTo k ∨
    k = (c.link l).spawn ∧ (c.request l t method params).1.sentTo k =
      c.sentTo k ++ [message (some ((c.link l).lastId + 1)) method params] := by
  cases up : (c.link l).isClosed with
  | true => rw [request, up]; exact .inl rfl
  | false =>
    have wrote := sentTo_write (c := c.register l t) (l := l) (k := k)
      (m := message (some ((c.link l).lastId + 1)) method params) hasMethod_message
    rw [spawn_register] at wrote
    rw [request_eq up]
    split
    · next e => rw [e] at wrote; exact wrote
    · next e => rw [e] at wrote; exact wrote

theorem request_ok (h : c.request l t method params = (c₁, .ok id)) :
    0 < id ∧ c₁.sentTo k = if k = (c.link l).spawn then
      c.sentTo k ++ [message (some id) method params] else c.sentTo k := by
  cases up : (c.link l).isClosed with
  | true => simp [request, up] at h
  | false =>
    rw [request_eq up] at h
    split at h
    · next e =>
      obtain ⟨rfl, rfl⟩ : _ = c₁ ∧ _ = id := by simpa using h
      have sent := sentTo_write_ok (k := k) hasMethod_message e
      rw [spawn_register] at sent
      exact ⟨Nat.succ_pos _, sent⟩
    · simp at h

end Request

/-! ## Sends -/

/-- Callers can send to the process of a link. -/
def IsUsable (c : Client) (l : Nat) : Prop := c.state = .ready ∧ c.held.connection = some l

/-- What a call has still to send. -/
def CallPhase.sends : CallPhase → List Send
  | .fresh (.sends ss) => ss
  | .joined _ ss => ss
  | .awaiting _ _ ss => ss
  | _ => []

/-- The call waits for the answer of the process of a link to its shutdown request. -/
def CallPhase.parts (l : Nat) : CallPhase → Bool
  | .shuttingDown k _ _ => k = l
  | _ => false

/-- Some of what there is to send was said to the server in use, and nothing else happened to
the client. -/
structure Says (ss : List Send) (c c₁ : Client) : Prop where
  state : c₁.state = c.state
  held : c₁.held = c.held
  spawn : ∀ l, (c₁.link l).spawn = (c.link l).spawn
  sent : ∀ k, ∃ ms, c₁.sentTo k = c.sentTo k ++ ms ∧
    (∀ m ∈ ms, ∃ s ∈ ss, m.get? "method" = some (.str s.method)) ∧
    (ms ≠ [] → ∃ l, c.IsUsable l ∧ (c.link l).spawn = k)

namespace Says

theorem silent (state : c₁.state = c.state) (held : c₁.held = c.held)
    (spawn : ∀ l, (c₁.link l).spawn = (c.link l).spawn) (sent : ∀ k, c₁.sentTo k = c.sentTo k) :
    Says ss c c₁ :=
  ⟨state, held, spawn, fun k => ⟨[], by rw [sent, List.append_nil], nofun, nofun⟩⟩

theorem trans (h : Says ss c c₁) (h₁ : Says ss c₁ c₂) : Says ss c c₂ := by
  refine ⟨h₁.state.trans h.state, h₁.held.trans h.held, fun l => (h₁.spawn l).trans (h.spawn l),
    fun k => ?_⟩
  obtain ⟨ms, sent, said, used⟩ := h.sent k
  obtain ⟨ms₁, sent₁, said₁, used₁⟩ := h₁.sent k
  refine ⟨ms ++ ms₁, by rw [sent₁, sent, List.append_assoc], fun m mem => ?_, fun some => ?_⟩
  · exact (List.mem_append.mp mem).elim (said m) (said₁ m)
  · by_cases first : ms = []
    · obtain ⟨l, usable, spawn⟩ := used₁ (by rwa [first] at some)
      rw [IsUsable, h.state, h.held] at usable
      exact ⟨l, usable, (h.spawn l).symm.trans spawn⟩
    · exact used first

theorem mono {ss' : List Send} (h : Says ss c c₁) (more : ss ⊆ ss') : Says ss' c c₁ := by
  refine ⟨h.state, h.held, h.spawn, fun k => ?_⟩
  obtain ⟨ms, sent, said, used⟩ := h.sent k
  exact ⟨ms, sent, fun m mem => (said m mem).imp fun s h => ⟨more h.1, h.2⟩, used⟩

/-- One message is written to the server in use. -/
theorem one {send : Send} (usable : c.IsUsable l) (state : c₁.state = c.state)
    (held : c₁.held = c.held) (spawn : ∀ l, (c₁.link l).spawn = (c.link l).spawn)
    (method : m.get? "method" = some (.str send.method))
    (sent : ∀ k, c₁.sentTo k = c.sentTo k ∨
      k = (c.link l).spawn ∧ c₁.sentTo k = c.sentTo k ++ [m]) : Says [send] c c₁ := by
  refine ⟨state, held, spawn, fun k => ?_⟩
  obtain same | ⟨rfl, sent⟩ := sent k
  · exact ⟨[], by rw [same, List.append_nil], nofun, nofun⟩
  · refine ⟨[m], sent, fun m' mem => ⟨send, List.mem_singleton_self _, ?_⟩,
      fun _ => ⟨l, usable, rfl⟩⟩
    rw [List.mem_singleton.mp mem]
    exact method

end Says

/-- A call does not wait for the answer to a shutdown request, and has no more to send than that. -/
def Pauses (c : Client) (n : Nat) (ss : List Send) : Prop :=
  ∀ k, c.calls[n]? = some k → k.phase.sends ⊆ ss ∧ ∀ l, k.phase.parts l = false

theorem pauses_setCall {p : CallPhase} (sends : p.sends ⊆ ss) (parts : ∀ l, p.parts l = false) :
    Pauses (c.setCall n p) n ss := by
  intro k here
  simp only [setCall, List.getElem?_set_self'] at here
  obtain ⟨-, -, rfl⟩ := Option.map_eq_some_iff.mp here
  exact ⟨sends, parts⟩

theorem Pauses.mono {ss' : List Send} (h : Pauses c n ss) (more : ss ⊆ ss') : Pauses c n ss' :=
  fun k here => (h k here).imp_left fun sends => List.Subset.trans sends more

theorem pauses_finish {o : Outcome} : Pauses (c.finish n o) n ss :=
  pauses_setCall (p := .done o) nofun fun _ => rfl

theorem says_finish {o : Outcome} : Says ss c (c.finish n o) :=
  .silent rfl rfl (fun _ => rfl) fun _ => (sentTo_quiet rfl).trans (sentTo_congr rfl)

theorem says_join : Says rest c (c.join n ss) := by
  unfold join shareAttempt
  cases c.attempt with
  | none => exact .silent rfl rfl (fun _ => rfl) fun _ => sentTo_congr rfl
  | some a =>
    dsimp only
    split <;> exact .silent rfl rfl (fun _ => rfl) fun _ => sentTo_congr rfl

theorem pauses_join : Pauses (c.join n ss) n ss :=
  pauses_setCall (List.Subset.refl _) fun _ => rfl

theorem says_sendOne {send : Send} : Says [send] c (c.sendOne n send rest).1 := by
  unfold sendOne
  split
  · exact says_finish
  · next l usable =>
    obtain ⟨used, ready⟩ := usableLink_ok usable
    have usable : c.IsUsable l := ⟨ready, used⟩
    split
    · next method params =>
      have frame : Frame c (c.notify l method params).1 := frame_notify
      have told : Says [.notify method params] c (c.notify l method params).1 :=
        .one usable frame.state frame.held (fun _ => spawn_notify) get_method_message
          fun k => sentTo_notify
      split
      · next e => rwa [e] at told
      · next e =>
        rw [e] at told
        exact told.trans says_finish
    · next method params =>
      have frame : Frame c (c.request l (.call n) method params).1 := frame_request
      have asked : Says [.request method params] c (c.request l (.call n) method params).1 :=
        .one usable frame.state frame.held (fun _ => spawn_request) get_method_message
          fun k => sentTo_request
      split
      · next e =>
        rw [e] at asked
        exact asked.trans (.silent rfl rfl (fun _ => rfl) fun _ => sentTo_congr rfl)
      · next e =>
        rw [e] at asked
        exact asked.trans says_finish

theorem pauses_sendOne {send : Send} (h : (c.sendOne n send rest).2 = .parked) :
    Pauses (c.sendOne n send rest).1 n rest := by
  unfold sendOne at h ⊢
  split
  · exact pauses_finish
  · next l usable =>
    rw [usable] at h
    split
    · split
      · next e =>
        simp only [e] at h
        cases h
      · exact pauses_finish
    · split
      · next c₁ id e => exact pauses_setCall (List.Subset.refl _) fun _ => rfl
      · exact pauses_finish

theorem says_sendAll {last : Json} : Says ss c (c.sendAll n last ss) := by
  induction ss generalizing c last with
  | nil => exact says_finish
  | cons send rest ih =>
    have first : Says (send :: rest) c (c.sendOne n send rest).1 := says_sendOne.mono (by simp)
    unfold sendAll
    split
    · exact says_join
    · split
      · next e =>
        rw [e] at first
        exact first.trans (ih.mono (List.subset_cons_self ..))
      · next e => rwa [e] at first

theorem pauses_sendAll {last : Json} : Pauses (c.sendAll n last ss) n ss := by
  induction ss generalizing c last with
  | nil => exact pauses_finish
  | cons send rest ih =>
    unfold sendAll
    split
    · exact pauses_join
    · split
      · exact ih.mono (List.subset_cons_self ..)
      · next e =>
        have parked : Pauses (c.sendOne n send rest).1 n rest := pauses_sendOne (by rw [e])
        rw [e] at parked
        exact parked.mono (List.subset_cons_self ..)

theorem says_sendJoined : Says ss c (c.sendJoined n ss) := by
  cases ss with
  | nil => exact says_finish
  | cons send rest =>
    have first : Says (send :: rest) c (c.sendOne n send rest).1 := says_sendOne.mono (by simp)
    rw [sendJoined]
    split
    · next e =>
      rw [e] at first
      exact first.trans (says_sendAll.mono (List.subset_cons_self ..))
    · next e => rwa [e] at first

theorem pauses_sendJoined : Pauses (c.sendJoined n ss) n ss := by
  cases ss with
  | nil => exact pauses_finish
  | cons send rest =>
    rw [sendJoined]
    split
    · exact pauses_sendAll.mono (List.subset_cons_self ..)
    · next e =>
      have parked : Pauses (c.sendOne n send rest).1 n rest := pauses_sendOne (by rw [e])
      rw [e] at parked
      exact parked.mono (List.subset_cons_self ..)

/-- A call that sends says what it has to send, and nothing else. -/
theorem says_resumeCall {p : CallPhase} (sends : p.role.errand = .sends) :
    Says p.sends c (c.resumeCall n s p) ∧ Pauses (c.resumeCall n s p) n p.sends := by
  cases p with
  | fresh job =>
    rw [resumeCall]
    split
    · exact ⟨says_finish, pauses_finish⟩
    · cases job with
      | start =>
        rw [beginCall]
        split
        · exact ⟨says_join, pauses_join⟩
        · exact ⟨says_finish, pauses_finish⟩
      | sends ss => exact ⟨says_sendAll, pauses_sendAll⟩
      | _ => cases sends
  | joined a ss =>
    unfold resumeCall
    dsimp only
    split
    · exact ⟨says_sendJoined, pauses_sendJoined⟩
    · exact ⟨says_finish, pauses_finish⟩
    · exact ⟨says_finish, pauses_finish⟩
  | awaiting l id ss =>
    unfold resumeCall
    dsimp only
    split
    · exact ⟨says_sendAll, pauses_sendAll⟩
    · exact ⟨says_finish, pauses_finish⟩
    · refine ⟨Says.trans (?_ : Says _ c (c.forget l id)) says_finish, pauses_finish⟩
      exact .silent rfl rfl (fun _ => spawn_forget) fun _ => sentTo_congr rfl
  | _ => cases sends

end Client

end LspGateway
