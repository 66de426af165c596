import LspGateway.Proofs.Client.Exchange
import LspGateway.Proofs.Client.Poise
import LspGateway.Proofs.Client.Saying

/-! # What processes were told

What was written to a process stays written. A call that has to notify a server has done so once it
has succeeded, and as long as no other process is started after that, all requests of the client go
to the process that was notified.
-/

namespace LspGateway.Client

variable {hit : Nat → Prop} {b c c₁ : Client} {d d₁ : Option Doer} {ls lost : List Loss}
  {l k n : Nat} {s : Signal} {i : Input} {m : Json} {p : CallPhase} {q : Call} {rest : List Task}
  {method : String} {params : Json}

/-! ## What was written -/

/-- The requests that were written to a process. -/
def requestsTo (c : Client) (k : Nat) : List Json := (c.sentTo k).filter fun m => (m.get? "id").isSome

/-- All that was true of links and processes stays true. As long as link `l` is the last one, no
other process is asked for anything. -/
structure Recalls (l : Nat) (b c : Client) : Prop where
  here : l < c.links.length
  spawn : (c.link l).spawn = (b.link l).spawn
  sent : ∀ k, b.sentTo k <+: c.sentTo k
  only : c.links.length = l + 1 → ∀ k, k ≠ (b.link l).spawn → c.requestsTo k = b.requestsTo k

namespace Recalls

theorem refl (here : l < c.links.length) : Recalls l c c :=
  ⟨here, rfl, fun _ => List.prefix_rfl, fun _ _ _ => rfl⟩

theorem act (h : Recalls l b c) (current : Current c d) (act : Action hit c d c₁ d₁) :
    Recalls l b c₁ := by
  have grows : c.links.length ≤ c₁.links.length := by
    obtain same | ⟨ps, p, rfl, -⟩ := act.links_cases
    · exact Nat.le_of_eq same.symm
    · simp [addLink]
  have spawn := (act.link_kept h.here).1
  obtain silent | ⟨j, m, posts, sent, -⟩ := act.posts
  · refine ⟨Nat.lt_of_lt_of_le h.here grows, spawn.trans h.spawn, fun k => silent k ▸ h.sent k,
      fun last k other => ?_⟩
    rw [requestsTo, silent]
    exact h.only (Nat.le_antisymm (last ▸ grows) h.here) k other
  · refine ⟨Nat.lt_of_lt_of_le h.here grows, spawn.trans h.spawn, fun k => ?_,
      fun last k other => ?_⟩
    · rw [sent]
      split
      · exact (h.sent k).trans (List.prefix_append _ _)
      · exact h.sent k
    · have length : c.links.length = l + 1 := Nat.le_antisymm (last ▸ grows) h.here
      have before := h.only length k other
      rw [requestsTo, sent]
      split
      · next own =>
        have plain {method : String} {params : Json} :
            [message none method params].filter (fun m => (m.get? "id").isSome) = [] := by
          simp [get_id_message]
        rw [List.filter_append]
        cases posts with
        | tells => rwa [plain, List.append_nil]
        | greets => rwa [greeting, plain, List.append_nil]
        | asks used =>
          -- Requests go to the last process.
          have last := current.process j (current.connection j used)
          obtain rfl : j = l := by omega
          exact absurd (own.trans h.spawn) other
      · exact before

theorem congr (h : Recalls l b c) (length : c₁.links.length = c.links.length)
    (spawn : (c₁.link l).spawn = (c.link l).spawn) (history : c₁.history = c.history) :
    Recalls l b c₁ := by
  have sent k : c₁.sentTo k = c.sentTo k := sentTo_congr history
  refine ⟨length ▸ h.here, spawn.trans h.spawn, fun k => sent k ▸ h.sent k, fun last k other => ?_⟩
  rw [requestsTo, sent]
  exact h.only (length ▸ last) k other

end Recalls

theorem invariant_recalls : Invariant Heeded fun c d _ =>
    ((Sharing c d ∧ Handshake c d) ∧ Current c d) ∧ Recalls l b c :=
  ⟨fun sound h act => ⟨invariant_current.acts sound h.1 act, h.2.act h.1.2 act⟩,
    fun sound h idle pending untold => ⟨invariant_current.loses (t := _) sound h.1 idle pending untold,
      h.2.congr (links_length_modifyLink _) (link_modifyLink_same Link.spawn fun _ => rfl) rfl⟩,
    fun heeded sound h begins => ⟨invariant_current.begins heeded sound h.1 begins,
      h.2.congr begins.frame.2.2.2.2 (begins.link_kept l).1 begins.frame.2.2.2.1⟩⟩

theorem Recalls.step (h : Recalls l b c) (poised : Poised c) (fits : i.Fits c) :
    Recalls l b (c.step i) := by
  obtain ⟨lost, sound⟩ := poised.sound
  exact (invariant_recalls.step poised.heeded fits sound
    ⟨⟨⟨poised.sharing, poised.handshake⟩, poised.current⟩, h⟩).2.2

/-! ## Notifications -/

/-- The process that was started last was sent the message. -/
def HasTold (c : Client) (m : Json) : Prop :=
  ∃ l, l + 1 = c.links.length ∧ m ∈ c.sentTo (c.link l).spawn

/-- What is connected belongs to the process that was started last. -/
def UsesLast (c : Client) : Prop := ∀ l, c.held.connection = some l → l + 1 = c.links.length

/-- Where a call stands that has to notify a server of something. -/
inductive Notifies (told : Prop) (method : String) (params : Json) : CallPhase → Prop
  | fresh : Notifies told method params (.fresh (.sends [.notify method params]))
  | joined {a : Nat} : Notifies told method params (.joined a [.notify method params])
  | failed {o : Outcome} (fails : ∀ v, o ≠ .value v) : Notifies told method params (.done o)
  | done {v : Json} (done : told) : Notifies told method params (.done (.value v))

theorem Notifies.imp {told told' : Prop} (h : Notifies told method params p) (why : told → told') :
    Notifies told' method params p := by
  cases h with
  | fresh => exact .fresh
  | joined => exact .joined
  | failed fails => exact .failed fails
  | done done => exact .done (why done)

/-- A call has to notify a server, and has done so if it has succeeded. -/
def IsNotifying (c : Client) (n : Nat) (method : String) (params : Json) : Prop :=
  ∀ q, c.calls[n]? = some q →
    Notifies (c.HasTold (message none method params)) method params q.phase

theorem phase_setCall (here : (c.setCall n p).calls[n]? = some q) : q.phase = p := by
  simp only [setCall, List.getElem?_set_self'] at here
  obtain ⟨_, -, rfl⟩ := Option.map_eq_some_iff.mp here
  rfl

theorem isNotifying_join : (c.join n [.notify method params]).IsNotifying n method params := by
  intro q here
  rw [phase_setCall here]
  exact .joined

theorem isNotifying_fail {o : Outcome} (fails : ∀ v, o ≠ .value v) :
    (c.finish n o).IsNotifying n method params := by
  intro q here
  rw [phase_finish here]
  exact .failed fails

theorem isNotifying_succeed {v : Json} (told : c.HasTold (message none method params)) :
    (c.finish n (.value v)).IsNotifying n method params := by
  intro q here
  rw [phase_finish here]
  obtain ⟨l, last, mem⟩ := told
  have silent : (c.finish n (.value v)).sentTo (c.link l).spawn = c.sentTo (c.link l).spawn :=
    sentTo_emit.trans (List.append_nil _)
  exact .done ⟨l, last, silent ▸ mem⟩

/-- A notification that goes well was written. -/
theorem hasTold_notify (last : l + 1 = c.links.length)
    (ok : c.notify l method params = (c₁, .ok ())) : c₁.HasTold (message none method params) := by
  unfold notify at ok
  split at ok
  · cases ok
  · have length := links_length_write (c := c) (l := l) (m := message none method params)
    have spawn := spawn_write (c := c) (l := l) (k := l) (m := message none method params)
    have sent := sentTo_write_ok (k := (c.link l).spawn) hasMethod_message ok
    rw [ok] at length spawn
    refine ⟨l, length ▸ last, ?_⟩
    rw [spawn, sent, if_pos rfl]
    simp

/-- What becomes of a notification by a call that has to send nothing else. -/
theorem sendOne_notify (used : c.UsesLast) :
    (∃ (b : Client) (e : Error),
      c.sendOne n (.notify method params) [] = (b.finish n (.error e), .parked)) ∨
      ∃ b : Client, c.sendOne n (.notify method params) [] = (b, .done) ∧
        b.HasTold (message none method params) := by
  unfold sendOne
  split
  · exact .inl ⟨_, _, rfl⟩
  · next l usable =>
    dsimp only
    split
    · next ok => exact .inr ⟨_, rfl, hasTold_notify (used l (usableLink_ok usable).1) ok⟩
    · exact .inl ⟨_, _, rfl⟩

theorem isNotifying_sendAll (last : Json) (used : c.UsesLast) :
    (c.sendAll n last [.notify method params]).IsNotifying n method params := by
  unfold sendAll
  split
  · exact isNotifying_join
  · obtain ⟨b, e, fails⟩ | ⟨b, done, told⟩ := @sendOne_notify c n method params used
    · rw [fails]
      exact isNotifying_fail fun _ e => by cases e
    · rw [done]
      exact isNotifying_succeed told

theorem isNotifying_sendJoined (used : c.UsesLast) :
    (c.sendJoined n [.notify method params]).IsNotifying n method params := by
  unfold sendJoined
  dsimp only
  obtain ⟨b, e, fails⟩ | ⟨b, done, told⟩ := @sendOne_notify c n method params used
  · rw [fails]
    exact isNotifying_fail fun _ e => by cases e
  · rw [done]
    exact isNotifying_succeed told

/-- A call that has to notify a server goes on until it has done so or fails. -/
theorem isNotifying_resumeCall {told : Prop} (h : Notifies told method params p) (used : c.UsesLast)
    (waits : p.isLive) : (c.resumeCall n s p).IsNotifying n method params := by
  cases h with
  | fresh =>
    rw [resumeCall]
    split
    · exact isNotifying_fail fun _ e => by cases e
    · exact isNotifying_sendAll .null used
  | joined =>
    cases s with
    | answered o =>
      cases o with
      | value v => exact isNotifying_sendJoined used
      | _ => exact isNotifying_fail fun _ e => by cases e
    | _ => exact isNotifying_fail fun _ e => by cases e
  | failed | done => cases waits

theorem Poised.usesLast (h : Poised c) : c.UsesLast := fun l used =>
  h.current.process l (h.current.connection l used)

/-- On the way from one client to another the message was sent to the process of a link, which was
the last one then. -/
def WasTold (b c : Client) (m : Json) (l : Nat) : Prop :=
  ∃ before after, c = (b.run before).run after ∧ (b.run before).links.length = l + 1 ∧
    m ∈ (b.run before).sentTo ((b.run before).link l).spawn ∧ Recalls l (b.run before) c

theorem HasTold.wasTold {inputs : List Input} (h : (b.run inputs).HasTold m) :
    ∃ l, WasTold b (b.run inputs) m l := by
  obtain ⟨l, last, told⟩ := h
  refine ⟨l, inputs, [], rfl, last.symm, told, .refl ?_⟩
  rw [← last]
  exact Nat.lt_succ_self l

/-- How a client stands that was asked to notify its server of something. -/
structure Informs (b : Client) (n : Nat) (method : String) (params : Json) (c : Client) : Prop where
  follows : ∃ inputs, c = b.run inputs
  stands : ∃ q, c.calls[n]? = some q ∧
    Notifies (∃ l, WasTold b c (message none method params) l) method params q.phase

theorem informs_call : Informs c c.calls.length method params
    (c.step (.call (.sends [.notify method params]))) := by
  refine ⟨⟨[.call (.sends [.notify method params])], rfl⟩, ?_⟩
  exact ⟨⟨.fresh (.sends [.notify method params]), some .go⟩, by simp [step, addCall, push], .fresh⟩

theorem Informs.step (h : Informs b n method params c) (poised : Poised c) (fits : i.Fits c) :
    Informs b n method params (c.step i) := by
  obtain ⟨⟨inputs, rfl⟩, q, here, stands⟩ := h
  obtain ⟨lost, sound⟩ := poised.sound
  have follows : ((b.run inputs).step i) = b.run (inputs ++ [i]) := by rw [run_append]; rfl
  refine ⟨⟨_, follows⟩, ?_⟩
  by_cases own : (b.run inputs).IsTurn n i
  · obtain ⟨rfl, first⟩ := own
    obtain ⟨tasks, ready⟩ := List.head?_eq_some_iff.mp first
    obtain ⟨p, s, here'⟩ := exists_call sound first
    obtain rfl := Option.some.inj (here.symm.trans here')
    obtain ⟨⟨⟩⟩ | ⟨waits, -⟩ := sound.queue.canGo (.call n) (List.mem_of_head? first)
    rw [show (b.run inputs).standing (.call n) = ⟨p.isLive, some s, p.role⟩ by
      simp [standing, here, Call.standing]] at waits
    have notifying : ((b.run inputs).step .turn).IsNotifying n method params := by
      show (b.run inputs).turn.IsNotifying n method params
      rw [turn_call ready here]
      exact isNotifying_resumeCall stands (by exact poised.usesLast) waits
    obtain ⟨q, after⟩ : ∃ q, ((b.run inputs).step .turn).calls[n]? = some q :=
      ⟨_, List.getElem?_eq_getElem (Nat.lt_of_lt_of_le (List.getElem?_eq_some_iff.mp here).1
        (calls_le_step sound fits))⟩
    refine ⟨q, after, (notifying q after).imp fun told => ?_⟩
    rw [follows] at told ⊢
    exact told.wasTold
  · obtain ⟨s, after⟩ := call_kept sound fits own here
    refine ⟨_, after, stands.imp fun recalled => ?_⟩
    obtain ⟨l, before, later, e, last, told, recalls⟩ := recalled
    refine ⟨l, before, later ++ [i], ?_, last, told, recalls.step poised fits⟩
    rw [run_append, ← e]
    rfl

end LspGateway.Client
