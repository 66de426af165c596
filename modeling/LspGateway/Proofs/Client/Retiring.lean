import LspGateway.Proofs.Client.Heeding
import LspGateway.Proofs.Client.Minding
import LspGateway.Proofs.Client.Telling

/-! # Disposals that nothing disturbs

When a client that is ready is disposed while no attempt goes on, all that it still listens
to was closed or is expected to end. So nothing makes it give up on its server before the
disposal is over.
-/

namespace LspGateway.Client

variable {hit : Nat → Prop} {c c₁ : Client} {d d₁ : Option Doer} {ls lost : List Loss} {x y : Doer}
  {l k m n id : Nat} {t : Task} {s : Signal} {ts : List Task} {i : Input} {inputs : List Input}

/-! ## While a client is disposed -/

/-- A client that is ready and starts nothing. What it listens to in a turn is expected to end. -/
structure Untroubled (c : Client) (d : Option Doer) : Prop where
  state : c.state = .ready
  still : ∀ n, ¬ c.IsLive n
  hears : ∀ l, Hears d l → (c.link l).isLeaving

/-- The end of the connection in use is to be expected. -/
def Expects (c : Client) : Prop := ∀ l, c.held.connection = some l → (c.link l).isLeaving

/-- A client is at the end of its disposal. -/
structure Reset (c : Client) (d : Option Doer) : Prop where
  state : c.state = .notStarted
  turn : ∀ x, d = some x → x.role.disposes

/-- No attempt has its turn while none goes on. -/
theorem Untroubled.ne_attempt (h : Untroubled c (some x)) (sharing : Sharing c (some x)) : x.task ≠ .attempt n :=
  fun task => h.still n (sharing.turn n (congrArg some task))

theorem Hears.act (hears : Hears (some y) l) (act : Action hit c (some x) c₁ (some y)) :
    Hears (some x) l := by
  obtain ⟨_, ⟨⟩, own⟩ := hears
  exact ⟨x, rfl, by rwa [act.task_eq.1, act.task_eq.2.2.2] at own⟩

/-- A client that is ready and starts nothing stays so until a disposal is over. -/
theorem Untroubled.act (h : Untroubled c d) (sharing : Sharing c d) (act : Action hit c d c₁ d₁) :
    Untroubled c₁ d₁ ∨ Reset c₁ d₁ := by
  have still n : ¬ c₁.IsLive n := fun live => by
    obtain before | ⟨-, -, cold⟩ := act.isLive sharing.turn live
    · exact h.still n before
    · exact cold h.state
  have hears l (hears : Hears d₁ l) : (c₁.link l).isLeaving := by
    obtain ⟨y, rfl, own⟩ := hears
    cases d with
    | none => cases act.none_eq
    | some x => exact act.isLeaving_mono (h.hears l (Hears.act ⟨y, rfl, own⟩ act))
  have kept (same : c₁.state = c.state) : Untroubled c₁ d₁ ∨ Reset c₁ d₁ :=
    .inl ⟨same.trans h.state, still, hears⟩
  cases act with
  | startsUp task | fallsBack task | succeeds task => exact absurd task (h.ne_attempt sharing)
  | givesUp heard who up sudden =>
    have leaving := h.hears _ heard
    simp [Link.isLeaving, up, sudden] at leaving
  | resets who => exact .inr ⟨rfl, by rintro _ ⟨⟩; exact who⟩
  | takes how => exact kept (by rw [how.frame])
  | _ => exact kept rfl

/-- Nothing happens to a client that is at the end of its disposal. -/
theorem Reset.act (h : Reset c d) (b : Bounds c d) (act : Action hit c d c₁ d₁) : Reset c₁ d₁ := by
  have quiet x (turn : d = some x) : x.task.isCall ∧ x.role.errand ≠ .listens := by
    subst turn
    have own : roleBy c (some x) x.task = x.role := roleBy_self rfl
    have errand := b.disposes x.task (by rw [own]; exact h.turn x rfl)
    refine ⟨b.calls x.task (by rw [errand]; exact nofun), ?_⟩
    rw [← own, errand]
    exact nofun
  have turn y (after : d₁ = some y) : y.role.disposes := by
    subst after
    cases d with
    | none => cases act.none_eq
    | some x => exact act.disposes_mono (h.turn x rfl)
  refine ⟨?_, turn⟩
  cases act with
  | startsUp task | fallsBack task | succeeds task =>
    have call := (quiet _ rfl).1
    rw [task] at call
    cases call
  | givesUp heard =>
    obtain ⟨x, rfl, own | listens⟩ := heard
    · have call := (quiet x rfl).1
      rw [own] at call
      cases call
    · exact absurd listens (quiet x rfl).2
  | resets => rfl
  | takes how =>
    rw [how.frame]
    exact h.state
  | _ => exact h.state

theorem Untroubled.lose (h : Untroubled c d) : Untroubled (c.forget k id) d :=
  ⟨h.state, h.still, fun l hears => isLeaving_forget.trans (h.hears l hears)⟩

/-- A client that is ready and starts nothing, or at the end of its disposal. -/
theorem invariant_untroubled : Invariant (fun _ => False) fun c d _ =>
    Sharing c d ∧ (Untroubled c d ∨ Reset c d) := by
  refine ⟨fun sound h act => ?_, fun _ h _ _ _ => ⟨h.1.lose, ?_⟩, fun given => given.elim⟩
  · refine ⟨invariant_sharing.acts sound h.1 act, ?_⟩
    obtain calm | reset := h.2
    · exact calm.act h.1 act
    · exact .inr (reset.act sound.bounds act)
  · exact h.2.imp Untroubled.lose fun reset => ⟨reset.state, reset.turn⟩

/-- The end of the connection in use stays expected. -/
theorem Expects.act (h : Expects c) (still : ∀ n, ¬ c.IsLive n)
    (turn : ∀ m, turnOf d = some (.attempt m) → c.IsLive m) (act : Action hit c d c₁ d₁) :
    Expects c₁ := by
  intro l used
  refine act.isLeaving_mono (h l ?_)
  obtain ⟨-, same⟩ | ⟨x, rfl, rfl, rfl⟩ | ⟨x, n, ps, p, rfl, task, -⟩ := act.held_step
  · rwa [same] at used
  · cases used
  · exact absurd (turn n (congrArg some task)) (still n)

/-! ## Turns -/

/-- Whoever is heard while no attempt goes on is expected to end. -/
theorem Minds.isLeaving (h : Minds c none) (expects : Expects c) (still : ∀ n, ¬ c.IsLive n)
    (here : l < c.links.length) (pending : (c.link l).listener.phase.isPending)
    (told : (c.link l).listener.signal.isSome) : (c.link l).isLeaving := by
  cases h.minds l here with
  | shut shut =>
    obtain closed | absent | ceased := shut
    · simp [Link.isLeaving, closed]
    · rw [absent] at pending
      cases pending
    · rw [ceased] at pending
      cases pending
  | used used => exact expects l used
  | taken turn => cases turn
  | left left =>
    obtain untold | ⟨n, precedes⟩ := left.still
    · rw [untold] at told
      cases told
    · exact absurd precedes.live (still n)

theorem Begins.untroubled (begins : Begins c ts c₁ d) (b : Bounds c none)
    (client : c.audience = .client)
    (heard : ∀ l, c.ready = .listener l :: ts → (c.link l).isLeaving) (h : Untroubled c none) :
    Untroubled c₁ d := by
  obtain ⟨attempts, -, outcome, -⟩ := begins.outcome
  refine ⟨begins.frame.2.2.1.trans h.state, fun n live => h.still n ?_, fun l hears => ?_⟩
  · exact ⟨attempts ▸ live.1, (outcome n).symm.trans live.2⟩
  · rw [begins.isLeaving]
    obtain ⟨x, rfl, own | listens⟩ := hears
    · exact heard l (by rw [begins.first, own])
    · exact absurd listens ((begins.bounds b).mute (begins.frame.2.1.trans client) x rfl)

/-- In the course of the disposal, turns begin untroubled. -/
theorem Begins.untroubled_of_minds (begins : Begins c ts c₁ d) (sound : Sound c none lost)
    (client : c.audience = .client) (minds : Minds c none) (expects : Expects c)
    (h : Untroubled c none) : Untroubled c₁ d := by
  refine begins.untroubled sound.bounds client (fun l first => ?_) h
  obtain ⟨⟨⟩⟩ | ⟨pending, told⟩ := sound.queue.canGo (.listener l) (by simp [first])
  exact minds.isLeaving expects h.still (lt_of_listener pending) pending told

/-! ## The turn of the disposal -/

theorem isLeaving_request {method : String} {params : Json} :
    ((c.request l t method params).1.link k).isLeaving = (c.link k).isLeaving := by
  cases up : (c.link l).isClosed with
  | true => rw [request, up]; rfl
  | false =>
    have listed : ((c.register l t).link k).isLeaving = (c.link k).isLeaving :=
      link_modifyLink_same Link.isLeaving fun _ => rfl
    have wrote := link_write (c := c.register l t) (l := l) (k := k)
      (m := message (some ((c.link l).lastId + 1)) method params) Link.isLeaving (fun _ _ => rfl)
      fun _ _ => rfl
    rw [listed] at wrote
    rw [request_eq up]
    split
    · next e => rw [e] at wrote; exact wrote
    · next e => rw [e] at wrote; exact isLeaving_forget.trans wrote

theorem expects_takeDown : Expects (c.takeDown n) := by
  have gone : (c.takeDown n).held = .nothing := by
    refine Eq.trans ?_ (frame_release (c := c)).held
    unfold takeDown afterDisposing
    dsimp only
    split <;> rfl
  intro l used
  rw [gone] at used
  cases used

/-- Before the server in use is asked to shut down, its end is to be expected. -/
theorem expects_shutDown (holds : c.HoldsLinks) : Expects (c.shutDown n) := by
  unfold shutDown
  split
  · exact expects_takeDown
  · next l usable =>
    obtain ⟨used, -⟩ := usableLink_ok usable
    have expected : ((c.expectEnd l).link l).isLeaving := by
      rw [expectEnd, link_modifyLink_self (holds l (.inr used))]
      simp [Link.isLeaving]
    have held : ((c.expectEnd l).request l (.call n) "shutdown" .null).1.held = c.held :=
      frame_request.held
    have asked : Expects ((c.expectEnd l).request l (.call n) "shutdown" .null).1 := by
      intro k used'
      rw [held, used] at used'
      obtain rfl := Option.some.inj used'
      exact isLeaving_request.trans expected
    dsimp only
    split
    · next e =>
      rw [e] at asked
      exact asked
    · next e =>
      rw [e] at asked
      rw [wakeCall_eq_prompt]
      exact asked

/-- A call that disposes the client begins. -/
def Disposes (c : Client) : Prop :=
  ∃ n rest, c.ready = .call n :: rest ∧ c.calls[n]? = some ⟨.fresh .dispose, some .go⟩

theorem expects_turn (disposes : c.Disposes) (still : ∀ n, ¬ c.IsLive n) (sharing : Sharing c none)
    (holds : c.HoldsLinks) : Expects c.turn := by
  obtain ⟨n, rest, first, here⟩ := disposes
  rw [turn_call first here]
  show Expects (Client.dispose _ n)
  unfold dispose
  split
  · exact expects_shutDown holds
  · next a shared =>
    have ceased : (c.attemptOutcome? a).isSome := by
      rw [Option.isSome_iff_ne_none]
      exact fun live => still a ⟨sharing.here a shared, live⟩
    dsimp only
    rw [if_pos]
    · exact expects_shutDown holds
    · exact ceased

/-- The turn of the disposal leaves the client ready, or is all of it. -/
theorem untroubled_turn (disposes : c.Disposes) (state : c.state = .ready)
    (still : ∀ n, ¬ c.IsLive n) (client : c.audience = .client) (sharing : Sharing c none)
    (sound : Sound c none lost) : Untroubled c.turn none ∨ Reset c.turn none := by
  obtain ⟨n, rest, first, -⟩ := disposes
  obtain ⟨c₁, d, begins, path⟩ := @path_turn_of_ready NoHit c sound.fit _ rest first
  have calm : Untroubled c none := ⟨state, still, by rintro l ⟨x, ⟨⟩, -⟩⟩
  have begun := begins.untroubled sound.bounds client (by simp [first]) calm
  exact (invariant_untroubled.path path (begins.sound sound)
    ⟨begins.sharing sound.queue sharing, .inl begun⟩).2.2

/-! ## Disposals -/

/-- A client that is being disposed of untroubled, or was. -/
def Retires (c : Client) (d : Option Doer) : Prop :=
  c.audience = .client ∧ Sharing c d ∧ Minds c d ∧ (Untroubled c d ∧ Expects c ∨ Reset c d)

theorem invariant_retires : Invariant (fun c => c.state ≠ .notStarted) fun c d _ => Retires c d := by
  refine ⟨fun sound h act => ?_, fun sound h idle pending untold => ?_,
    fun started sound h begins => ?_⟩
  · obtain ⟨client, sharing, minds, rest⟩ := h
    obtain ⟨client₁, sharing₁, minds₁⟩ := invariant_minds.acts sound ⟨client, sharing, minds⟩ act
    refine ⟨client₁, sharing₁, minds₁, ?_⟩
    obtain ⟨calm, expects⟩ | reset := rest
    · exact (calm.act sharing act).imp_left fun calm₁ =>
        ⟨calm₁, expects.act calm.still sharing.turn act⟩
    · exact .inr (reset.act sound.bounds act)
  · obtain ⟨client, sharing, minds, rest⟩ := h
    refine ⟨client, sharing.lose, minds.lose, rest.imp (fun ⟨calm, expects⟩ => ⟨calm.lose, ?_⟩)
      fun reset => ⟨reset.state, reset.turn⟩⟩
    exact fun l used => isLeaving_forget.trans (expects l used)
  · obtain ⟨client, sharing, minds, ⟨calm, expects⟩ | reset⟩ := h
    · obtain ⟨client₁, sharing₁, minds₁⟩ :=
        invariant_minds.begins trivial sound ⟨client, sharing, minds⟩ begins
      refine ⟨client₁, sharing₁, minds₁, .inl ⟨?_, fun l used => ?_⟩⟩
      · exact begins.untroubled_of_minds sound client minds expects calm
      · rw [begins.frame.1] at used
        exact begins.isLeaving.trans (expects l used)
    · exact absurd reset.state started

/-- Until a disposal that begins untroubled is over, the client stays ready. -/
theorem state_run_disposes (disposes : c.Disposes) (state : c.state = .ready)
    (still : ∀ n, ¬ c.IsLive n) (client : c.audience = .client) (sharing : Sharing c none)
    (minds : Minds c none) (sound : Sound c none lost) (fits : ∀ i ∈ inputs, i.Fits c)
    (before : ∀ pre post, inputs = pre ++ post → (c.turn.run pre).state ≠ .notStarted) :
    (c.turn.run inputs).state = .ready := by
  have retires : Retires c.turn none := by
    obtain ⟨sound₁, client₁, sharing₁, minds₁⟩ :=
      invariant_minds.step (i := .turn) trivial trivial sound ⟨client, sharing, minds⟩
    exact ⟨client₁, sharing₁, minds₁, (untroubled_turn disposes state still client sharing
      sound).imp_left fun calm => ⟨calm, expects_turn disposes still sharing sound.bounds.holds⟩⟩
  have sound₁ : Sound c.turn none (lost ++ (c.lossOfStep .turn).toList) :=
    (invariant_true.step (i := .turn) trivial trivial sound trivial).1
  have fits₁ i (mem : i ∈ inputs) : i.Fits c.turn :=
    (fits i mem).congr (audience_step (i := .turn) sound.fit trivial)
  obtain ⟨-, -, -, -, ⟨calm, -⟩ | reset⟩ := invariant_retires.run
    (fun pre i post e => before pre (i :: post) e) fits₁ sound₁ retires
  · exact calm.state
  · exact absurd reset.state (before inputs [] (by simp))

/-! ## Runs -/

/-- How the end of a connection is told. -/
structure TellsEnds (first : Client) (inputs : List Input) : Prop where
  /-- A listener tells of the end once, be it a broken stream or one that the server ended. -/
  once : (first.run inputs).ends ≤ first.startsIn inputs
  /-- When the end is expected or the connection was closed, nobody is told. -/
  left : ∀ before i later, inputs = before ++ i :: later → (first.run before).leaves i →
    (first.run inputs).ends = (first.run before).ends

/-- A client that is ready and that nobody starts stays ready when it is disposed of, until that
is over. -/
def EndsQuietly (first : Client) (inputs : List Input) : Prop :=
  ∀ before later, inputs = before ++ .turn :: later → (first.run before).Disposes →
    (first.run before).state = .ready → (∀ n, ¬ (first.run before).IsLive n) →
    (∀ pre post, later = pre ++ post →
      (first.run (before ++ .turn :: pre)).state ≠ .notStarted) →
    (first.run inputs).state = .ready

/-- The server ends the stream, and someone listens once more. -/
def heardTwice : List Input :=
  [.call .listen, .turn, .turn, .outputEnd, .turn, .call .listen, .turn, .turn]

/-- The server ends the stream of a connection that is about to be closed. -/
def heardInVain : List Input :=
  [.call .listen, .turn, .turn, .expectEnd, .outputEnd, .turn]

/-- A server that is asked to shut down ends its stream. -/
def dismissed : List Input := [.call .dispose, .turn, .outputEnd, .turn]

end LspGateway.Client
