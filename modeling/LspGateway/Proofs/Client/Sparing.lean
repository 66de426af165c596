import LspGateway.Proofs.Client.Heeding
import LspGateway.Proofs.Client.Saying

/-! # Steps and the calls whose turn it is not

A call stays where it is until it has its turn. Only in its own turn it says something, and without
calls no server is asked to shut down, nor can one be used again that was.
-/

namespace LspGateway

namespace Client

/-! ## What disposals say

A disposal asks the server in use to shut down, tells it to exit when it has agreed, and says
nothing else. What it lets go of nobody can send to any more.
-/

section Quitting

variable {b c c₁ : Client} {l k n id : Nat} {a : Nat} {s : Signal} {t : Teardown}

/-- The request to shut down. -/
def stopRequest (id : Nat) : Json := message (some id) "shutdown" .null

/-- What a server is told that has agreed to shut down. -/
def farewell : Json := message none "exit" .null

/-- A disposal goes on and says nothing. -/
structure Quits (n : Nat) (c c₁ : Client) : Prop where
  sent : ∀ k, c₁.sentTo k = c.sentTo k
  usable : ∀ l, c₁.IsUsable l → c.IsUsable l
  pauses : Pauses c₁ n []

theorem Quits.after (h : Quits n c c₁) (sent : ∀ k, c.sentTo k = b.sentTo k)
    (state : c.state = b.state) (held : c.held = b.held) : Quits n b c₁ := by
  refine ⟨fun k => (h.sent k).trans (sent k), fun l usable => ?_, h.pauses⟩
  have usable := h.usable l usable
  rwa [IsUsable, state, held] at usable

/-- Nobody can send anything when the client has been reset. -/
theorem quits_reset {o : Outcome} : Quits n c (c.reset.finish n o) ∧
    ∀ l, ¬ (c.reset.finish n o).IsUsable l :=
  have off l (usable : (c.reset.finish n o).IsUsable l) : False := by cases usable.1
  ⟨⟨fun _ => (sentTo_quiet rfl).trans (sentTo_congr rfl), fun l usable => (off l usable).elim,
    pauses_finish⟩, off⟩

theorem quits_afterDisposing {p : Progress} : Quits n c (c.afterDisposing n p) := by
  cases p with
  | waits t =>
    exact ⟨fun _ => sentTo_congr rfl, fun _ usable => usable, pauses_setCall nofun fun _ => rfl⟩
  | «over» o =>
    cases o with
    | error e => exact quits_reset.1.after (fun _ => sentTo_quiet rfl) rfl rfl
    | _ => exact quits_reset.1

theorem quits_takeDown (holds : c.HoldsLinks) :
    Quits n c (c.takeDown n) ∧ ∀ l, ¬ (c.takeDown n).IsUsable l := by
  have quits : Quits n c.release.1 (c.takeDown n) := quits_afterDisposing
  have off l (usable : c.release.1.IsUsable l) : False := by
    have used := usable.2
    rw [frame_release.held] at used
    cases used
  refine ⟨⟨fun k => (quits.sent k).trans (sentTo_release holds), fun l usable => ?_, quits.pauses⟩,
    fun l usable => off l (quits.usable l usable)⟩
  exact (off l (quits.usable l usable)).elim

/-- What goes wrong is reported before the link is taken down. -/
theorem quits_uncleanShutdown {text : String} (holds : c.HoldsLinks) :
    Quits n c ((c.uncleanShutdown text).takeDown n) ∧
      ∀ l, ¬ ((c.uncleanShutdown text).takeDown n).IsUsable l := by
  obtain ⟨quits, off⟩ := quits_takeDown (c := c.uncleanShutdown text) (n := n) holds
  exact ⟨quits.after (fun _ => sentTo_quiet rfl) rfl rfl, off⟩

/-- The server in use is asked to shut down, and its answer is waited for. -/
structure Asks (n l id : Nat) (c c₁ : Client) : Prop where
  usable : c.IsUsable l
  state : c₁.state = c.state
  held : c₁.held = c.held
  others : ∀ k, (c.link l).spawn ≠ k → c₁.sentTo k = c.sentTo k
  /-- A request that could not be sent may have been written all the same. -/
  sent : id = 0 ∧ c₁.sentTo (c.link l).spawn = c.sentTo (c.link l).spawn ∨
    ∃ i, c₁.sentTo (c.link l).spawn = c.sentTo (c.link l).spawn ++ [stopRequest i] ∧
      (id = 0 ∨ id = i)
  waits : ∀ q, c₁.calls[n]? = some q → ∃ d, q.phase = .shuttingDown l id d

theorem asks_of_request {d : Nat} (usable : c.IsUsable l) (frame : Frame c b)
    (others : ∀ k, (c.link l).spawn ≠ k → b.sentTo k = c.sentTo k)
    (sent : id = 0 ∧ b.sentTo (c.link l).spawn = c.sentTo (c.link l).spawn ∨
      ∃ i, b.sentTo (c.link l).spawn = c.sentTo (c.link l).spawn ++ [stopRequest i] ∧
        (id = 0 ∨ id = i)) : Asks n l id c (b.setCall n (.shuttingDown l id d)) := by
  refine ⟨usable, frame.state, frame.held, others, sent, fun q here => ?_⟩
  simp only [setCall, List.getElem?_set_self'] at here
  obtain ⟨-, -, rfl⟩ := Option.map_eq_some_iff.mp here
  exact ⟨d, rfl⟩

theorem Asks.wakeCall {e : Signal} (h : Asks n l id c c₁) : Asks n l id c (c₁.wakeCall n e) := by
  rw [wakeCall_eq_prompt]
  refine ⟨h.usable, h.state, h.held, h.others, h.sent, fun q here => ?_⟩
  simp only [prompt, List.getElem?_modify_eq] at here
  obtain ⟨q', before, rfl⟩ := Option.map_eq_some_iff.mp here
  rw [Call.phase_prompt]
  exact h.waits q' before

/-- A disposal that begins to shut down takes down what is in use, or asks the server in use. -/
theorem shutDown_cases (holds : c.HoldsLinks) :
    Quits n c (c.shutDown n) ∨ ∃ l id, Asks n l id c (c.shutDown n) := by
  unfold shutDown
  split
  · exact .inl (quits_takeDown holds).1
  · next l usable =>
    obtain ⟨used, ready⟩ := usableLink_ok usable
    have spawn : ((c.expectEnd l).link l).spawn = (c.link l).spawn :=
      link_modifyLink_same Link.spawn fun _ => rfl
    have expects : Frame c (c.expectEnd l) := rfl
    have frame : Frame c ((c.expectEnd l).request l (.call n) "shutdown" .null).1 :=
      expects.trans frame_request
    dsimp only
    split
    · next c₁ id asked =>
      rw [asked] at frame
      have sent k := (request_ok (k := k) asked).2
      rw [spawn] at sent
      refine .inr ⟨l, id, asks_of_request ⟨ready, used⟩ frame
        (fun k other => ?_) (.inr ⟨id, ?_, .inr rfl⟩)⟩
      · exact (sent k).trans (if_neg (Ne.symm other))
      · exact (sent _).trans (if_pos rfl)
    · next c₁ e asked =>
      rw [asked] at frame
      have sent k : (c.expectEnd l |>.request l (.call n) "shutdown" .null).1.sentTo k = _ ∨ _ :=
        sentTo_request
      rw [asked, spawn] at sent
      refine .inr ⟨l, 0, (asks_of_request ⟨ready, used⟩ frame
        (fun k other => ?_) ?_).wakeCall⟩
      · exact (sent k).resolve_right fun h => other h.1.symm
      · exact (sent _).imp (fun same => ⟨rfl, same⟩) fun h => ⟨_, h.2, .inl rfl⟩

theorem frame_cancelAttempt : Frame c (c.cancelAttempt a) := by
  unfold cancelAttempt
  split
  · split
    · dsimp only
      split <;> rfl
    · rfl
  · rfl

theorem dispose_cases (holds : c.HoldsLinks) :
    Quits n c (c.dispose n) ∨ ∃ l id, Asks n l id c (c.dispose n) := by
  unfold dispose
  split
  · exact shutDown_cases holds
  · next a shared =>
    -- Who is disposing shares no attempt.
    let b : Client := { c with attempt := none }
    dsimp only
    split
    · obtain quits | ⟨l, id, asks⟩ := shutDown_cases (c := b) (n := n) holds
      · exact .inl (quits.after (fun _ => sentTo_congr rfl) rfl rfl)
      · exact .inr ⟨l, id, asks.usable, asks.state, asks.held, asks.others, asks.sent, asks.waits⟩
    · have frame := frame_cancelAttempt (c := b) (a := a)
      have sent k : (b.cancelAttempt a).sentTo k = c.sentTo k :=
        (path_cancelAttempt : Path NoHit b none [] _ none).sentTo_none
      refine .inl ⟨sent, fun l usable => ?_, pauses_setCall nofun fun _ => rfl⟩
      exact ⟨frame.state.symm.trans usable.1, (congrArg Held.connection frame.held).symm.trans usable.2⟩

theorem Asks.after (h : Asks n l id c c₁) (frame : Frame b c)
    (sent : ∀ k, c.sentTo k = b.sentTo k) (spawn : (c.link l).spawn = (b.link l).spawn) :
    Asks n l id b c₁ := by
  obtain ⟨usable, state, held, others, asked, waits⟩ := h
  rw [IsUsable, frame.state, frame.held] at usable
  rw [frame.state] at state
  rw [frame.held] at held
  simp only [spawn, sent] at others asked
  exact ⟨usable, state, held, others, asked, waits⟩

theorem afterStopping_cases (holds : c.HoldsLinks) :
    Quits n c (c.afterStopping n a) ∨ ∃ l id, Asks n l id c (c.afterStopping n a) := by
  unfold afterStopping
  split
  · next e ended =>
    generalize "Cancelled start of LSP " ++ c.id ++ " ended with: " ++ e.message = text
    have same k : (c.log .debug text).sentTo k = c.sentTo k := sentTo_quiet rfl
    obtain quits | ⟨l, id, asks⟩ := shutDown_cases (c := c.log .debug text) (n := n) holds
    · exact .inl (quits.after same rfl rfl)
    · exact .inr ⟨l, id, asks.after rfl same rfl⟩
  · exact shutDown_cases holds

/-- A server that has agreed to shut down is told to exit, and nothing else is said. -/
structure Exits (n l : Nat) (c c₁ : Client) : Prop where
  others : ∀ k, (c.link l).spawn ≠ k → c₁.sentTo k = c.sentTo k
  sent : c₁.sentTo (c.link l).spawn = c.sentTo (c.link l).spawn ∨
    c₁.sentTo (c.link l).spawn = c.sentTo (c.link l).spawn ++ [farewell]
  off : ∀ k, ¬ c₁.IsUsable k
  pauses : Pauses c₁ n []

theorem holdsLinks_notify {method : String} {params : Json} (holds : c.HoldsLinks) :
    (c.notify l method params).1.HoldsLinks := by
  unfold notify
  split
  · exact holds
  · obtain ⟨e, same⟩ | ⟨-, path⟩ := c.write_cases l (message none method params)
    · rwa [same]
    · exact (path NoHit none elicits_message).holdsLinks holds

theorem exits_sendExit (holds : c.HoldsLinks) : Exits n l c (c.sendExit n l) := by
  have said k : (c.notify l "exit" .null).1.sentTo k = c.sentTo k ∨
      k = (c.link l).spawn ∧ (c.notify l "exit" .null).1.sentTo k = c.sentTo k ++ [farewell] :=
    sentTo_notify
  have leaves (h : Quits n (c.notify l "exit" .null).1 (c.sendExit n l) ∧
      ∀ k, ¬ (c.sendExit n l).IsUsable k) : Exits n l c (c.sendExit n l) := by
    refine ⟨fun k other => ?_, ?_, h.2, h.1.pauses⟩
    · rw [h.1.sent]
      exact (said k).resolve_right fun h => other h.1.symm
    · rw [h.1.sent]
      exact (said _).imp_right And.right
  have holds : (c.notify l "exit" .null).1.HoldsLinks := holdsLinks_notify holds
  apply leaves
  unfold sendExit
  split
  · next e =>
    rw [e] at holds ⊢
    exact quits_takeDown holds
  · next e =>
    rw [e] at holds ⊢
    exact quits_uncleanShutdown holds

/-- A disposal that has asked the server goes on, and tells it to exit only when it has agreed. -/
theorem resume_shuttingDown {d : Nat} (holds : c.HoldsLinks) :
    let c₁ := c.resumeCall n s (.shuttingDown l id d)
    (∃ v, s = .answered (.value v)) ∧ Exits n l c c₁ ∨ Quits n c c₁ ∧ ∀ k, ¬ c₁.IsUsable k := by
  have forgets : (c.forget l id).HoldsLinks :=
    holds.mono rfl rfl (Nat.le_of_eq (links_length_modifyLink _).symm)
  unfold resumeCall
  dsimp only
  split
  · exact .inl ⟨⟨_, rfl⟩, exits_sendExit holds⟩
  · exact .inr (quits_uncleanShutdown holds)
  · obtain ⟨quits, off⟩ := quits_uncleanShutdown forgets
    exact .inr ⟨quits.after (fun _ => sentTo_congr rfl) rfl rfl, off⟩
  · exact .inr (quits_reset.imp_left (·.after (fun _ => sentTo_congr rfl) rfl rfl))

theorem quits_disposing (here : t.link < c.links.length)
    (shut : t.stage = .listener → (c.link t.link).closed) :
    Quits n c (c.resumeCall n s (.disposing t)) := by
  have frame := frame_resumeTeardown (c := c) (u := t) (s := s)
  exact quits_afterDisposing.after (fun _ => sentTo_resumeTeardown here shut) frame.state frame.held

/-! ### Turns of calls -/

/-- The call has something to send, or may ask the server to shut down, when it goes on. -/
def CallPhase.speaks : CallPhase → Bool
  | .fresh .dispose => true
  | .stopping _ => true
  | p => !p.sends.isEmpty

theorem CallPhase.speaks_of_sends {p : CallPhase} {s : Send} (mem : s ∈ p.sends) : p.speaks := by
  have some' : p.sends.isEmpty = false := by
    cases e : p.sends with
    | nil => rw [e] at mem; cases mem
    | cons => rfl
  cases p with
  | fresh job =>
    cases job with
    | dispose => rfl
    | _ => simp [speaks, some']
  | stopping => rfl
  | _ => simp [speaks, some']

/-- What is said in the turn of a call. -/
inductive Turned (n : Nat) (p : CallPhase) (s : Signal) (c c₁ : Client) : Prop
  | sends (errand : p.role.errand = .sends) (said : Says p.sends c c₁)
    (pauses : Pauses c₁ n p.sends)
  | quits (quits : Quits n c c₁) (off : ∀ l, p.parts l → ∀ k, ¬ c₁.IsUsable k)
  | asks {l id : Nat} (speaks : p.speaks) (asks : Asks n l id c c₁)
  | leaves {l id d : Nat} {v : Json} (waits : p = .shuttingDown l id d) (agreed : s = .answered (.value v))
    (leaves : Exits n l c c₁)

theorem Turned.of_disposal {p : CallPhase} (speaks : p.speaks) (other : ∀ l, p.parts l = false)
    (h : Quits n c c₁ ∨ ∃ l id, Asks n l id c c₁) : Turned n p s c c₁ := by
  obtain quits | ⟨l, id, asks⟩ := h
  · exact .quits quits fun l parts => by rw [other] at parts; cases parts
  · exact .asks speaks asks

/-- A call of a client says what it has to send, or does what a disposal does. -/
theorem turned_resumeCall {p : CallPhase} (holds : c.HoldsLinks) (live : p.isLive)
    (client : p.role.errand ≠ .listens ∧ p.role.errand ≠ .closes)
    (here : ∀ t, p.teardown? = some t → t.link < c.links.length ∧
      (t.stage = .listener → (c.link t.link).closed)) : Turned n p s c (c.resumeCall n s p) := by
  have sends (errand : p.role.errand = .sends) : Turned n p s c (c.resumeCall n s p) :=
    .sends errand (says_resumeCall errand).1 (says_resumeCall errand).2
  cases p with
  | fresh job =>
    cases job with
    | start => exact sends rfl
    | sends => exact sends rfl
    | listen => exact absurd rfl client.1
    | close => exact absurd rfl client.2
    | dispose =>
      refine .of_disposal rfl (fun _ => rfl) ?_
      rw [resumeCall]
      split
      · exact .inl ⟨fun _ => (sentTo_quiet rfl).trans (sentTo_congr rfl), fun _ usable => usable,
          pauses_finish⟩
      · exact dispose_cases holds
  | joined | awaiting => exact sends rfl
  | closing => exact absurd rfl client.2
  | stopping a => exact .of_disposal rfl (fun _ => rfl) (afterStopping_cases holds)
  | shuttingDown l id d =>
    obtain ⟨⟨v, agreed⟩, leaves⟩ | ⟨quits, off⟩ := resume_shuttingDown (s := s) holds
    · exact .leaves rfl agreed leaves
    · exact .quits quits fun _ _ => off
  | disposing t =>
    obtain ⟨there, shut⟩ := here t rfl
    exact .quits (quits_disposing there shut) (fun _ at_ => by cases at_)
  | running | done => cases live

end Quitting

variable {hit : Nat → Prop} {b c c₁ : Client} {d d₁ : Option Doer} {ls lost : List Loss} {x y : Doer}
  {l k n id : Nat} {i : Input} {p : CallPhase} {told : Option Signal}

/-! ## Where calls stand -/

theorem Action.calls_length (act : Action hit c d c₁ d₁) (safe : ¬ hit c.calls.length) :
    c₁.calls.length = c.calls.length := by
  cases act with
  | tellsCall => exact List.length_set ..
  | @answers d l id t | @fails d l id t => cases t <;> simp [prompt, forget, modifyLink]
  | takes how => rw [how.frame]
  | parksCall | endsCall => exact List.length_set ..
  | calls job fits outside => exact absurd outside safe
  | _ => rfl

theorem Path.calls_length (path : Path hit c d ls c₁ d₁) (safe : ¬ hit c.calls.length) :
    c₁.calls.length = c.calls.length := by
  induction path with
  | nil => rfl
  | step act _ ih =>
    have same := act.calls_length safe
    exact (ih (same ▸ safe)).trans same
  | loses _ _ _ _ ih => exact ih safe

theorem Begins.calls_length {rest : List Task} (begins : Begins c rest c₁ d) :
    c₁.calls.length = c.calls.length := by
  cases begins with
  | call => exact List.length_set ..
  | _ => rfl

theorem calls_length_step (sound : Sound c none lost) (fits : i.Fits c)
    (quiet : ∀ job, i ≠ .call job) : (c.step i).calls.length = c.calls.length := by
  have safe : ¬ i.hits c c.calls.length := by
    cases i with
    | cancel m => exact fun struck => Nat.lt_irrefl _ (struck.1 ▸ struck.2)
    | call job => exact absurd rfl (quiet job)
    | _ => exact fun struck => struck
  obtain path | ⟨rest, c₁, d, begins, path⟩ := path_step sound.fit i fits
  · exact path.calls_length safe
  · exact (path.calls_length (begins.calls_length ▸ safe)).trans begins.calls_length

/-- A call stands where it stood before a step, unless it has had its turn or begins. -/
theorem call_phase_before (sound : Sound c none lost) (fits : i.Fits c) (apart : ¬ c.IsTurn n i)
    {q : Call} (after : (c.step i).calls[n]? = some q) :
    (∃ s, c.calls[n]? = some ⟨q.phase, s⟩) ∨
      ∃ job, i = .call job ∧ n = c.calls.length ∧ q = ⟨.fresh job, some .go⟩ := by
  have before (here : n < c.calls.length) : ∃ s, c.calls[n]? = some ⟨q.phase, s⟩ := by
    obtain ⟨s, same⟩ := call_kept sound fits apart (List.getElem?_eq_getElem here)
    rw [after] at same
    rw [Option.some.inj same]
    exact ⟨_, List.getElem?_eq_getElem here⟩
  have lt := (List.getElem?_eq_some_iff.mp after).1
  by_cases quiet : ∀ job, i ≠ .call job
  · exact .inl (before (calls_length_step sound fits quiet ▸ lt))
  · simp only [not_forall, not_not] at quiet
    obtain ⟨job, rfl⟩ := quiet
    have length : (c.step (.call job)).calls.length = c.calls.length + 1 := by
      simp [step, addCall, push]
    rcases Nat.lt_or_eq_of_le (Nat.le_of_lt_succ (length ▸ lt)) with here | rfl
    · exact .inl (before here)
    · exact .inr ⟨job, rfl, rfl, by simpa [step, addCall, push] using after.symm⟩

theorem exists_call (sound : Sound c none lost) (first : c.ready.head? = some (.call n)) :
    ∃ p s, c.calls[n]? = some ⟨p, some s⟩ := by
  obtain ⟨⟨⟩⟩ | ⟨-, told⟩ := sound.queue.canGo (.call n) (List.mem_of_head? first)
  exact call_of_told told

theorem turned_turn (sound : Sound c none lost) (client : c.audience = .client)
    (first : c.ready.head? = some (.call n)) (here : c.calls[n]? = some ⟨p, told⟩) :
    Turned n p (told.getD .go) c c.turn := by
  obtain ⟨rest, ready⟩ : ∃ rest, c.ready = .call n :: rest := List.head?_eq_some_iff.mp first
  obtain ⟨⟨⟩⟩ | ⟨live, -⟩ := sound.queue.canGo (.call n) (by simp [ready])
  have stands : c.standing (.call n) = ⟨p.isLive, told, p.role⟩ := by
    simp [standing, here, Call.standing]
  have role : roleBy c none (.call n) = p.role := by rw [roleBy, Client.role, stands]
  have observes := sound.bounds.observes (.call n)
  have takes := sound.bounds.takes (.call n)
  have closing := sound.bounds.closing (.call n)
  rw [stands] at live
  simp only [role, CallPhase.teardown_role] at observes takes closing
  have turned := turned_resumeCall (c := ({ c with ready := rest } : Client).setCall n .running)
    (n := n) (s := told.getD .go) sound.bounds.holds live
    ⟨fun e => observes (.inl e) client, fun e => observes (.inr e) client⟩
    fun t waits => ⟨takes t waits, closing t turnOf_none_ne waits⟩
  rw [turn_call ready here]
  -- What is under way in a turn shows in no message.
  cases turned with
  | sends errand said pauses =>
    exact .sends errand ⟨said.state, said.held, said.spawn, said.sent⟩ pauses
  | quits quits off => exact .quits ⟨quits.sent, quits.usable, quits.pauses⟩ off
  | asks speaks asks =>
    exact .asks speaks ⟨asks.usable, asks.state, asks.held, asks.others, asks.sent, asks.waits⟩
  | leaves waits agreed leaves =>
    exact .leaves waits agreed ⟨leaves.others, leaves.sent, leaves.off, leaves.pauses⟩

/-! ## What callers send -/

/-- All that calls have still to send is of a kind. -/
def Discreet (good : Send → Prop) (c : Client) : Prop :=
  ∀ (n : Nat) (q : Call), c.calls[n]? = some q → ∀ s ∈ q.phase.sends, good s

theorem Turned.sends_subset {s : Signal} (h : Turned n p s c c₁) {q : Call}
    (after : c₁.calls[n]? = some q) : q.phase.sends ⊆ p.sends := by
  cases h with
  | sends _ _ pauses => exact (pauses q after).1
  | quits quits => exact List.Subset.trans (quits.pauses q after).1 (List.nil_subset _)
  | asks _ asks =>
    obtain ⟨d, e⟩ := asks.waits q after
    rw [e]
    exact List.nil_subset _
  | leaves _ _ leaves => exact List.Subset.trans (leaves.pauses q after).1 (List.nil_subset _)

theorem Discreet.step {good : Send → Prop} (h : c.Discreet good) (sound : Sound c none lost)
    (client : c.audience = .client) (fits : i.Fits c)
    (said : ∀ ss, i = .call (.sends ss) → ∀ s ∈ ss, good s) : (c.step i).Discreet good := by
  intro n q after s mem
  by_cases own : c.IsTurn n i
  · obtain ⟨rfl, first⟩ := own
    obtain ⟨p, told, here⟩ := exists_call sound first
    exact h n _ here s ((turned_turn sound client first here).sends_subset after mem)
  · obtain ⟨s', before⟩ | ⟨job, rfl, -, rfl⟩ := call_phase_before sound fits own after
    · exact h n _ before s mem
    · cases job with
      | sends ss => exact said ss rfl s mem
      | _ => cases mem

/-! ## Steps in which no call has its turn -/

/-- A request to shut down. -/
def isShutdown (m : Json) : Bool := m.get? "method" = some (.str "shutdown")

theorem isShutdown_of_method {m : Json} {method : String}
    (e : m.get? "method" = some (.str method)) (other : method ≠ "shutdown") :
    isShutdown m = false := by
  simp [isShutdown, e, other]

theorem isShutdown_opening : isShutdown c.opening = false :=
  isShutdown_of_method get_method_message (by decide)

theorem isShutdown_greeting : isShutdown greeting = false :=
  isShutdown_of_method get_method_message (by decide)

/-- The process of a link was not asked to shut down. -/
def Unasked (c : Client) (l : Nat) : Prop :=
  ∀ m ∈ c.sentTo (c.link l).spawn, isShutdown m = false

theorem Introduced.unasked (h : c.Introduced l) : c.Unasked l := by
  rw [Unasked, h]
  simpa using isShutdown_opening

/-- A process that callers can send to could be sent to before, or is just introduced. -/
theorem Handshake.usable (h : Handshake c d) (act : Action hit c d c₁ d₁) (here : l < c.links.length)
    (usable : c₁.IsUsable l) : c.IsUsable l ∨ ∃ x n id, d = some x ∧ x.task = .attempt n ∧
      x.asked = some (l, id) := by
  obtain ⟨ready, used⟩ := usable
  cases act with
  | startsUp | fallsBack | givesUp | resets => cases ready
  | connects _ _ _ cold => cases cold.symm.trans ready
  | @succeeds x n k _ id j task done greeted asked agreed used' =>
    obtain ⟨-, -, rfl⟩ := h.succeeds task greeted asked agreed used'
    obtain rfl := Option.some.inj (used'.symm.trans used)
    exact .inr ⟨x, n, id, rfl, task, asked⟩
  | takes how =>
    cases how with
    | releases => cases used
    | _ => exact .inl ⟨ready, used⟩
  | _ => exact .inl ⟨ready, used⟩

/-- What became of the process of a link since a moment, when no call had its turn. -/
structure Spares (b c : Client) (d : Option Doer) (l : Nat) : Prop where
  here : l < c.links.length
  caller : ∀ x, d = some x → x.task.isCall = false
  begun : ∀ x id, d = some x → x.asked = some (l, id) → c.Unasked l
  spares : c.sentTo (c.link l).spawn = b.sentTo (b.link l).spawn ∧ (c.IsUsable l → b.IsUsable l) ∨
    b.Unasked l ∧ c.Unasked l

namespace Spares

theorem written (h : Spares b c d l) (handshake : Handshake c d) (bounds : Bounds c d)
    (act : Action hit c d c₁ d₁) :
    c₁.sentTo (c₁.link l).spawn = c.sentTo (c.link l).spawn ∨ c.Unasked l ∧ c₁.Unasked l := by
  obtain ⟨opening, spawn, same | ⟨m, next, sent, -⟩⟩ := handshake.sent bounds act h.here
  · exact .inl (spawn ▸ same)
  · right
    have opens := isShutdown_opening (c := c)
    cases next with
    | opens new first =>
      have none' := handshake.silent l h.here new
      rw [Unasked, Unasked, spawn, sent, none', first]
      exact ⟨nofun, by simpa using opens⟩
    | greets turn task asked agreed second only =>
      rw [Introduced] at only
      rw [Unasked, Unasked, spawn, sent, only, second]
      exact ⟨by simpa using opens, by simpa using ⟨opens, isShutdown_greeting⟩⟩
    | @goesOn x greeted turn caller =>
      subst turn
      have call := bounds.calls x.task (by rwa [roleBy_self rfl])
      rw [h.caller x rfl] at call
      cases call

theorem act (h : Spares b c d l) (handshake : Handshake c d) (bounds : Bounds c d)
    (act : Action hit c d c₁ d₁) : Spares b c₁ d₁ l := by
  have written := h.written handshake bounds act
  have unasked (before : c.Unasked l) : c₁.Unasked l := by
    obtain same | ⟨-, after⟩ := written
    · rwa [Unasked, same]
    · exact after
  refine ⟨Nat.lt_of_lt_of_le h.here act.links_le, fun y turn => ?_, fun y id turn asked => ?_, ?_⟩
  · cases d with
    | none => rw [act.none_eq] at turn; cases turn
    | some x =>
      subst turn
      rw [act.task_eq.1]
      exact h.caller x rfl
  · cases d with
    | none => rw [act.none_eq] at turn; cases turn
    | some x =>
      subst turn
      rw [act.asked_eq] at asked
      exact unasked (h.begun x id rfl asked)
  · by_cases before : c.Unasked l
    · refine .inr ⟨?_, unasked before⟩
      obtain ⟨same, -⟩ | ⟨first, -⟩ := h.spares
      · rwa [Unasked, ← same]
      · exact first
    · obtain ⟨same, usable⟩ := h.spares.resolve_right fun h => before h.2
      refine .inl ⟨(written.resolve_right fun h => before h.1).trans same, fun after => ?_⟩
      obtain used | ⟨x, n, id, turn, -, asked⟩ := handshake.usable act h.here after
      · exact usable used
      · exact absurd (h.begun x id turn asked) before

theorem lose (h : Spares b c d l) : Spares b (c.forget k id) d l := by
  have spawn : ((c.forget k id).link l).spawn = (c.link l).spawn :=
    link_modifyLink_same Link.spawn fun _ => rfl
  have unasked : (c.forget k id).Unasked l ↔ c.Unasked l := by
    rw [Unasked, Unasked, spawn]
    rfl
  refine ⟨(links_length_modifyLink _).symm ▸ h.here, h.caller, fun x id turn asked => ?_, ?_⟩
  · exact unasked.mpr (h.begun x id turn asked)
  · rw [unasked, spawn]
    exact h.spares

end Spares

theorem invariant_spares : Invariant Never fun c d _ =>
    (Sharing c d ∧ Handshake c d) ∧ Spares b c d l :=
  ⟨fun sound h act => ⟨invariant_handshake.acts sound h.1 act, h.2.act h.1.2 sound.bounds act⟩,
    fun sound h idle pending untold =>
      ⟨invariant_handshake.loses (t := _) sound h.1 idle pending untold, h.2.lose⟩,
    fun given => given.elim⟩

theorem spares_self (here : l < c.links.length) : Spares c c none l := by
  refine ⟨here, ?_, ?_, .inl ⟨rfl, fun usable => usable⟩⟩
  · intro x turn
    cases turn
  · intro x id turn
    cases turn

theorem Begins.spares {rest : List Task} (begins : Begins c rest c₁ d) (h : Handshake c none)
    (here : l < c.links.length) (caller : ∀ x, d = some x → x.task.isCall = false) :
    Spares c c₁ d l := by
  obtain ⟨held, -, state, history, length⟩ := begins.frame
  have spawn := (begins.link_kept l).1
  have sent k : c₁.sentTo k = c.sentTo k := sentTo_congr history
  refine ⟨length ▸ here, caller, ?_, .inl ⟨by rw [spawn, sent], fun usable => ?_⟩⟩
  · rintro x id rfl asked
    rw [Unasked, spawn, sent]
    rw [begins.asked] at asked
    cases task : x.task with
    | attempt n =>
      rw [task] at asked
      exact (h.opens n l id asked).2.2.unasked
    | call n =>
      have := caller x rfl
      rw [task] at this
      cases this
    | _ => rw [task] at asked; cases asked
  · rwa [IsUsable, state, held] at usable

/-- In a step in which no call has its turn, nobody is asked to shut down, and nobody can send to a
process that was. -/
theorem Handshake.spares_step (h : Handshake c none) (heeded : Heeded c) (sound : Sound c none lost)
    (sharing : Sharing c none) (fits : i.Fits c) (here : l < c.links.length)
    (apart : ∀ n, ¬ c.IsTurn n i) : Spares c (c.step i) none l := by
  by_cases turns : i = .turn
  · subst turns
    obtain path | ⟨rest, c₁, d, begins, path⟩ := @path_turn NoHit c sound.fit
    · exact (invariant_spares.path path sound ⟨⟨sharing, h⟩, spares_self here⟩).2.2
    · refine (invariant_spares.path path (begins.sound sound)
        ⟨invariant_handshake.begins heeded sound ⟨sharing, h⟩ begins,
          begins.spares h here ?_⟩).2.2
      rintro x rfl
      cases task : x.task with
      | call n => exact absurd ⟨rfl, by rw [begins.first, task]; rfl⟩ (apart n)
      | _ => rfl
  · have path := path_input i fits turns
    exact (invariant_spares.path path sound ⟨⟨sharing, h⟩, spares_self here⟩).2.2

end Client

end LspGateway
