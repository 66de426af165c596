import LspGateway.Proofs.Client.Attempts
import LspGateway.Proofs.Client.Serving

/-! # What becomes of processes and what is written to them

A process is looked after until it is gone. Requests and notifications have a method, and answers
to what a server asks have none. Processes are numbered by their spawns, and each of them is
written to by way of one link.
-/

namespace LspGateway.Client

/-! ## What becomes of processes

Every process of a client is in use or taken down until it has exited or was told to. It
gets lost only if its listener ended on a value of the wrong shape, if a cancellation
interrupts its taking down, or if two attempts overlap.
-/

section Tending

variable {hit : Nat → Prop} {c c₁ : Client} {d d₁ : Option Doer} {lost : List Loss} {x : Doer}
  {l k n m id : Nat} {t : Task} {s : Signal} {u : Teardown} {inputs : List Input}

/-- The process of a link is in use or taken down. -/
def Keeps (c : Client) (d : Option Doer) (l : Nat) : Prop :=
  c.held.process = some l ∨ c.held.connection = some l ∨
    ∃ t u, (roleBy c d t).teardown = some u ∧ u.link = l

/-- An attempt goes on that has waited until an earlier server was down, although there is
another one meanwhile. -/
def overlaps (c : Client) : Bool :=
  match c.ready with
  | .attempt n :: _ => c.attempts[n]?.any fun a => a.phase.finds c.held ≠ .nothing
  | _ => false

/-- Who waits for the process of a link to leave by itself is cancelled. -/
def interrupts (c : Client) (l : Nat) : Bool :=
  match c.ready with
  | t :: _ => c.told t = some .cancelled &&
    (c.role t).teardown.any fun u => u.link = l && u.stage.isPatient
  | [] => false

/-- A turn in which nothing gets lost. -/
structure Doer.IsCalm (x : Doer) (l : Nat) : Prop where
  found : x.found = .nothing
  goes : x.signal = .cancelled → ∀ u, x.began.teardown = some u → u.stage.isPatient → u.link ≠ l

/-- What becomes of the process of a link, if nothing goes wrong. -/
structure Tended (l : Nat) (c : Client) (d : Option Doer) : Prop where
  calm : ∀ x, d = some x → x.IsCalm l
  /-- The connection in use is that of the process in use. -/
  whole : ∀ a, c.held.connection = some a → c.held.process = some a
  late : ∀ t u, (roleBy c d t).teardown = some u → u.stage.isLate → c.IsSecured u.link
  safe : l < c.links.length → c.IsSecured l ∨ Keeps c d l ∨ (c.link l).crash.isSome

/-- A link is new when an attempt connects. -/
theorem Action.new_link (act : Action hit c d c₁ d₁) (new : c.links.length ≤ l)
    (here : l < c₁.links.length) : ∃ ps p, c₁ = c.addLink ps p ∧ l = c.links.length := by
  have old (same : c₁.links.length = c.links.length) {p : Prop} : p :=
    absurd (same ▸ here) (Nat.not_lt_of_le new)
  cases act with
  | connects task done starts cold ps p =>
    refine ⟨ps, p, rfl, ?_⟩
    simp only [addLink, List.length_append, List.length_singleton] at here
    omega
  | takes how => exact old (by rw [how.frame])
  | _ => first | exact old rfl | exact old (links_length_modifyLink _)

theorem Action.found_eq {y : Doer} (act : Action hit c (some x) c₁ (some y)) : y.found = x.found := by
  cases act <;> rfl

/-- A client does not forget what a listener ended on. -/
theorem Serving.crash_mono (h : Serving c d) (b : Bounds c d) (act : Action hit c d c₁ d₁)
    (crash : (c.link l).crash.isSome) : (c₁.link l).crash.isSome := by
  let r (k j : Link) : Prop := k.crash.isSome → j.crash.isSome
  have refl k : r k k := fun h => h
  cases act with
  | supersedes listens | renews listens | restarts task listens =>
    exact absurd listens (h.errand_own b).1
  | @halts x m crash' task clear same why =>
    refine rel_link (r := r) refl rfl (fun h => ?_) l crash
    obtain rfl | new := same
    · exact h
    · exact new
  | connects task done starts cold ps policy =>
    rw [link_addLink]
    split
    · next e =>
      rw [e, link_of_le (Nat.le_refl _)] at crash
      cases crash
    · exact crash
  | takes how =>
    rw [how.frame]
    exact crash
  | flows | exits | tellsListener | tellsDrain | asks | mumbles | retracts | withdraws | answers | drops | fails
  | rests | drains | drainRests | drainEnds | shuts | expectsEnd =>
    exact rel_link (r := r) refl rfl (fun h => h) l crash
  | _ => exact crash

namespace Tended

theorem act_calm (h : Tended l c d) (act : Action hit c d c₁ d₁) (y : Doer) (turn : d₁ = some y) :
    y.IsCalm l := by
  subst turn
  cases d with
  | none => cases act.none_eq
  | some x =>
    obtain ⟨found, goes⟩ := h.calm x rfl
    obtain ⟨-, signal, began, -⟩ := act.task_eq
    exact ⟨act.found_eq.trans found, by rwa [signal, began]⟩

theorem act_whole (h : Tended l c d) (act : Action hit c d c₁ d₁) (a : Nat)
    (used : c₁.held.connection = some a) : c₁.held.process = some a := by
  obtain ⟨process, connection⟩ | ⟨x, -, -, rfl, -⟩ | ⟨x, n, ps, p, rfl, -, -, rfl, clear⟩ :=
    act.held_cases
  · rw [connection] at used
    rw [process]
    exact h.whole a used
  · cases used
  · have nothing : c.held = .nothing := clear.elim (fun e => e) fun e => e.trans (h.calm x rfl).found
    change (if p.hasInput then some c.links.length else c.held.connection) = some a at used
    rw [nothing] at used
    split at used
    · exact used
    · cases used

theorem act_late (h : Tended l c d) (q : Queue c (turnOf d)) (b : Bounds c d)
    (act : Action hit c d c₁ d₁) (t : Task) (u : Teardown)
    (takes : (roleBy c₁ d₁ t).teardown = some u) (late : u.stage.isLate) : c₁.IsSecured u.link := by
  obtain same | ⟨x, v, rfl, task, rfl, how⟩ := act.teardown_eq q t
  · rw [same] at takes
    exact act.secured (b.takes t u takes) (h.late t u takes late)
  · rw [roleBy_self (y := x.takeDown v) task] at takes
    change v = some u at takes
    cases how with
    | releases =>
      unfold Held.teardown? at takes
      split at takes <;> cases takes <;> cases late
    | closes =>
      cases takes
      cases late
    | advances taken same _ off on stays =>
      cases takes
      rw [same]
      refine (stays late).elim (fun late => ?_) fun secured => secured
      exact h.late t _ (by rw [roleBy_self task]; exact taken) late
    | settles => cases takes
    | abandons => cases takes

/-- What is kept stays so, or its process has been secured, or its listener had ended on a value
of the wrong shape. -/
theorem act_keeps (h : Tended l c d) (q : Queue c (turnOf d)) (act : Action hit c d c₁ d₁)
    (keeps : Keeps c d l) : Keeps c₁ d₁ l ∨ c.IsSecured l ∨ (c.link l).crash.isSome := by
  have inUse (process : c.held.process = some l) : Keeps c₁ d₁ l := by
    obtain ⟨same, -⟩ | ⟨x, rfl, rfl, rfl, -⟩ | ⟨x, n, ps, p, rfl, -, -, rfl, clear⟩ := act.held_cases
    · exact .inl (same.trans process)
    · refine .inr (.inr ⟨x.task, ?_⟩)
      rw [roleBy_self (y := x.takeDown c.held.teardown?) (t := x.task) rfl]
      show ∃ u, c.held.teardown? = some u ∧ u.link = l
      cases connection : c.held.connection with
      | none => exact ⟨⟨l, c.held.drain, .grace 0⟩, by simp [Held.teardown?, connection, process], rfl⟩
      | some a =>
        have same := (h.whole a connection).symm.trans process
        exact ⟨⟨a, c.held.drain, .listener⟩, by simp [Held.teardown?, connection],
          Option.some.inj same⟩
    · have nothing : c.held = .nothing :=
        clear.elim (fun e => e) fun e => e.trans (h.calm x rfl).found
      rw [nothing] at process
      cases process
  obtain process | connection | ⟨t, u, takes, same⟩ := keeps
  · exact .inl (inUse process)
  · exact .inl (inUse (h.whole l connection))
  · obtain stays | ⟨x, v, rfl, task, rfl, how⟩ := act.teardown_eq q t
    · exact .inl (.inr (.inr ⟨t, u, stays.trans takes, same⟩))
    · rw [roleBy_self task] at takes
      cases how with
      | releases idle => exact absurd (idle.symm.trans takes) nofun
      | closes idle => exact absurd (idle.symm.trans takes) nofun
      | @advances t' u' taken same' =>
        obtain rfl := Option.some.inj (taken.symm.trans takes)
        exact .inl (.inr (.inr ⟨t, u', by rw [roleBy_self (y := x.takeDown (some u')) task]; rfl,
          same'.trans same⟩))
      | settles taken _ off late =>
        obtain rfl := Option.some.inj (taken.symm.trans takes)
        obtain late | secured := late
        · exact .inr (.inl (same ▸ h.late t _ (by rw [roleBy_self task]; exact taken) late))
        · exact .inr (.inl (same ▸ secured))
      | abandons taken _ why =>
        obtain rfl := Option.some.inj (taken.symm.trans takes)
        obtain crash | ⟨patient, cancelled, began⟩ := why
        · exact .inr (.inr (same ▸ crash))
        · exact absurd same ((h.calm x rfl).goes cancelled _ began patient)

theorem act_safe (h : Tended l c d) (serving : Serving c d) (q : Queue c (turnOf d)) (b : Bounds c d)
    (act : Action hit c d c₁ d₁) (here : l < c₁.links.length) :
    c₁.IsSecured l ∨ Keeps c₁ d₁ l ∨ (c₁.link l).crash.isSome := by
  by_cases old : l < c.links.length
  · have secure (secured : c.IsSecured l) := act.secured old secured
    have crashed (crash : (c.link l).crash.isSome) := serving.crash_mono b act crash
    obtain secured | keeps | crash := h.safe old
    · exact .inl (secure secured)
    · obtain keeps | secured | crash := h.act_keeps q act keeps
      · exact .inr (.inl keeps)
      · exact .inl (secure secured)
      · exact .inr (.inr (crashed crash))
    · exact .inr (.inr (crashed crash))
  · obtain ⟨ps, p, rfl, rfl⟩ := act.new_link (Nat.le_of_not_lt old) here
    exact .inr (.inl (.inl rfl))

theorem act (h : Tended l c d) (serving : Serving c d) (q : Queue c (turnOf d)) (b : Bounds c d)
    (act : Action hit c d c₁ d₁) : Tended l c₁ d₁ :=
  ⟨h.act_calm act, h.act_whole act, h.act_late q b act, h.act_safe serving q b act⟩

theorem lose (h : Tended l c d) : Tended l (c.forget k id) d := by
  have role u : roleBy (c.forget k id) d u = roleBy c d u :=
    roleBy_congr fun u => congrArg Standing.role standing_forget
  have secure {m : Nat} (secured : c.IsSecured m) : (c.forget k id).IsSecured m :=
    secured.modifyLink (fun _ => rfl) fun _ => rfl
  have links : (c.forget k id).links.length = c.links.length := links_length_modifyLink _
  have crash : ((c.forget k id).link l).crash = (c.link l).crash :=
    link_modifyLink_same Link.crash fun _ => rfl
  refine ⟨h.calm, h.whole, fun t u takes late => ?_, fun here => ?_⟩
  · rw [role] at takes
    exact secure (h.late t u takes late)
  · rw [links] at here
    rw [crash]
    refine (h.safe here).imp secure (Or.imp_left ?_)
    simp only [Keeps, role]
    exact fun keeps => keeps

end Tended

theorem Begins.calm {rest : List Task} (begins : Begins c rest c₁ (some x))
    (apart : c.overlaps = false) (quiet : c.interrupts l = false) : x.IsCalm l := by
  constructor
  · cases begins with
    | @attempt n p s ready here live =>
      have found : decide (p.finds c.held ≠ .nothing) = false := by
        simpa [overlaps, ready, here] using apart
      simpa [Doer.ofTurn] using found
    | _ => rfl
  · rintro cancelled u takes patient rfl
    rw [interrupts, begins.first] at quiet
    rw [begins.turn.2.1] at takes
    simp [begins.turn.1, cancelled, takes, patient] at quiet

/-- Nothing happens to processes when a turn begins. -/
theorem Begins.process {rest : List Task} (begins : Begins c rest c₁ d) (l : Nat) :
    (c₁.link l).process = (c.link l).process ∧ (c₁.link l).spawn = (c.link l).spawn ∧
      (c₁.link l).crash = (c.link l).crash := by
  let r (k j : Link) : Prop := j.process = k.process ∧ j.spawn = k.spawn ∧ j.crash = k.crash
  have refl k : r k k := ⟨rfl, rfl, rfl⟩
  cases begins with
  | listener => exact rel_link (c := c) (r := r) refl rfl ⟨rfl, rfl, rfl⟩ l
  | drain => exact rel_link (c := c) (r := r) refl rfl ⟨rfl, rfl, rfl⟩ l
  | _ => exact refl _

theorem Begins.secured {rest : List Task} (begins : Begins c rest c₁ d) (secured : c.IsSecured l) :
    c₁.IsSecured l := by
  refine secured.mono (begins.process l).2.1 ?_ fun o h => ?_
  · rw [isAlive_eq, isAlive_eq, (begins.process l).1]
    exact fun h => h
  · rw [begins.frame.2.2.2.1]
    exact h

theorem Begins.tended {rest : List Task} (begins : Begins c rest c₁ d)
    (apart : c.overlaps = false) (quiet : c.interrupts l = false) (h : Tended l c none) :
    Tended l c₁ d := by
  obtain ⟨held, -, -, -, links⟩ := begins.frame
  have teardown t : (roleBy c₁ d t).teardown = (roleBy c none t).teardown := by
    obtain same | ⟨-, same⟩ := begins.role t <;> rw [same] <;> rfl
  refine ⟨fun x turn => ?_, fun a => ?_, fun t u takes late => ?_, fun here => ?_⟩
  · subst turn
    exact begins.calm apart quiet
  · rw [held]
    exact h.whole a
  · rw [teardown] at takes
    exact begins.secured (h.late t u takes late)
  · rw [links] at here
    rw [(begins.process l).2.2]
    refine (h.safe here).imp begins.secured (Or.imp_left ?_)
    simp only [Keeps, held, teardown]
    exact fun keeps => keeps

theorem invariant_tended : Invariant (fun c => c.overlaps = false ∧ c.interrupts l = false)
    fun c d _ => (Sharing c d ∧ Serving c d) ∧ Tended l c d :=
  ⟨fun sound h act => ⟨invariant_serving.acts sound h.1 act,
      h.2.act h.1.2 sound.queue sound.bounds act⟩,
    fun sound h idle pending untold =>
      ⟨invariant_serving.loses (t := _) sound h.1 idle pending untold, h.2.lose⟩,
    fun given sound h begins => ⟨invariant_serving.begins trivial sound h.1 begins,
      begins.tended given.1 given.2 h.2⟩⟩

end Tending

variable {hit : Nat → Prop} {c c₁ : Client} {d d₁ : Option Doer} {lost : List Loss} {x y : Doer}
  {l k n id : Nat} {t : Task} {m : Json} {o : Output}

/-! ## What is sent -/

/-- A request or a notification. -/
def hasMethod (m : Json) : Bool := (m.get? "method").isSome

theorem hasMethod_message {id : Option Nat} {method : String} {params : Json} :
    hasMethod (message id method params) := by
  cases id <;> simp [message, hasMethod, Json.get?, Json.Members.get?]

theorem hasMethod_rejection {j method : Json} : hasMethod (rejection j method) = false := by
  simp [rejection, hasMethod, Json.get?, Json.Members.get?]

/-- What is shown is a message with a method that is written to the process of a spawn. -/
def Output.sentTo? (k : Nat) : Output → Option Json
  | .event j (.wrote m) => if j = k ∧ hasMethod m then some m else none
  | _ => none

/-- The requests and notifications that were written to the process of a spawn, oldest first. -/
def sentTo (c : Client) (k : Nat) : List Json := (c.history.filterMap (·.sentTo? k)).reverse

theorem sentTo_congr (history : c₁.history = c.history) : c₁.sentTo k = c.sentTo k := by
  rw [sentTo, sentTo, history]

theorem sentTo_emit : (c.emit o).sentTo k = c.sentTo k ++ (o.sentTo? k).toList := by
  rw [sentTo, sentTo, emit, List.filterMap_cons]
  cases o.sentTo? k <;> simp

theorem sentTo_quiet (quiet : o.isQuiet) : (c.emit o).sentTo k = c.sentTo k := by
  have none' : o.sentTo? k = none := by
    cases o with
    | event j e => cases e <;> first | rfl | cases quiet
    | _ => rfl
  simp [sentTo_emit, none']

theorem sentTo_event {e : Event} (silent : ∀ m, e ≠ .wrote m) :
    (c.event l e).sentTo k = c.sentTo k := by
  have none' : (Output.event (c.link l).spawn e).sentTo? k = none := by
    cases e <;> first | rfl | exact absurd rfl (silent _)
  simp [event, sentTo_emit, none']

theorem sentTo_wrote (asks : hasMethod m) :
    (c.event l (.wrote m)).sentTo k =
      if k = (c.link l).spawn then c.sentTo k ++ [m] else c.sentTo k := by
  rw [event, sentTo_emit, Output.sentTo?]
  by_cases e : k = (c.link l).spawn <;> simp [e, asks, eq_comm]

theorem sentTo_rejection {j method : Json} :
    (c.event l (.wrote (rejection j method))).sentTo k = c.sentTo k := by
  simp [event, sentTo_emit, Output.sentTo?, hasMethod_rejection]

/-- What the server is told when the handshake is complete. -/
def greeting : Json := message none "initialized" (.obj [])

/-- Why a message with a method is written to the process of a link, and what becomes of the
activity that does so. -/
inductive Posts (c : Client) : Option Doer → Nat → Json → Option Doer → Prop
  | tells {x l method params} (used : c.held.connection = some l ∨ x.role.disposes)
      (why : Occasion c x l none method params) :
    Posts c (some x) l (message none method params) (some x)
  | greets {x n l k id j} (task : x.task = .attempt n) (speaks : x.role.strand = .speaks)
      (asked : x.asked = some (k, id)) (agreed : x.signal = .answered (.value j))
      (used : c.held.connection = some l) :
    Posts c (some x) l greeting (some (x.turnTo .greeted))
  | asks {x l method params} (used : c.held.connection = some l)
      (why : Occasion c x l (some ((c.link l).lastId + 1)) method params) :
    Posts c (some x) l (message (some ((c.link l).lastId + 1)) method params)
      (some (x.expect (some (l, (c.link l).lastId + 1))))

theorem get_id_message {id : Option Nat} {method : String} {params : Json} :
    (message id method params).get? "id" = id.map fun n => .int n := by
  cases id <;> by_cases none' : params = .null <;>
    simp [message, Json.get?, Json.Members.get?, none']

/-- Every message with a method is written on an occasion for that, and requests are counted. -/
theorem Action.posts (act : Action hit c d c₁ d₁) :
    (∀ k, c₁.sentTo k = c.sentTo k) ∨ ∃ l m, Posts c d l m d₁ ∧
      (∀ k, c₁.sentTo k = if k = (c.link l).spawn then c.sentTo k ++ [m] else c.sentTo k) ∧
      ((m.get? "id").isSome → l < c.links.length → (c.link l).lastId < (c₁.link l).lastId) := by
  have plain {method : String} {params : Json} {p : Prop} :
      ((message none method params).get? "id").isSome → p := by
    rw [get_id_message]
    intro here
    cases here
  cases act with
  | shows quiet => exact .inl fun k => sentTo_quiet quiet
  | @writes d l m up why =>
    cases why with
    | rejects => exact .inl fun k => sentTo_rejection
    | tells used why =>
      exact .inr ⟨l, _, .tells used why, fun k => sentTo_wrote hasMethod_message, plain⟩
  | @greets x n l k id j task speaks asked agreed used =>
    exact .inr ⟨l, _, .greets task speaks asked agreed used,
      fun k => sentTo_wrote hasMethod_message, plain⟩
  | @asks x l method params idle left up used why =>
    refine .inr ⟨l, _, .asks used why, fun k => ?_, fun _ here => ?_⟩
    · have spawn : ((c.register l x.task).link l).spawn = (c.link l).spawn :=
        link_modifyLink_same Link.spawn fun _ => rfl
      have sent : (c.register l x.task).sentTo k = c.sentTo k := sentTo_congr rfl
      rw [sentTo_wrote hasMethod_message, spawn, sent]
    · show _ < ((c.register l x.task).link l).lastId
      rw [register, link_modifyLink_self here]
      exact Nat.lt_succ_self _
  | exits => exact .inl fun k => (sentTo_congr rfl).trans (sentTo_event (by simp))
  | strikes hard =>
    exact .inl fun k => sentTo_event (by rintro m rfl; obtain h | h := hard <;> cases h)
  | takes how =>
    rw [how.frame]
    exact .inl fun k => sentTo_congr rfl
  | _ => exact .inl fun k => sentTo_congr rfl

/-! ## Numbers -/

/-- Links stay where they are, and belong to the processes that they belong to. -/
theorem Action.link_kept (act : Action hit c d c₁ d₁) (here : l < c.links.length) :
    (c₁.link l).spawn = (c.link l).spawn ∧ (c.link l).lastId ≤ (c₁.link l).lastId := by
  let r (k j : Link) : Prop := j.spawn = k.spawn ∧ k.lastId ≤ j.lastId
  have refl k : r k k := ⟨rfl, Nat.le_refl _⟩
  cases act with
  | connects task done starts cold ps policy =>
    rw [link_addLink, if_neg (Nat.ne_of_lt here)]
    exact refl _
  | takes how =>
    rw [how.frame]
    exact refl _
  | asks | mumbles => exact rel_link (r := r) refl rfl ⟨rfl, Nat.le_succ _⟩ l
  | flows | exits | tellsListener | tellsDrain | retracts | withdraws | answers | drops | fails
  | rests | halts | restarts | supersedes | renews | drains | drainRests | drainEnds | shuts
  | expectsEnd => exact rel_link (r := r) refl rfl ⟨rfl, Nat.le_refl _⟩ l
  | _ => exact refl _

/-- Links become more only when an attempt connects. -/
theorem Action.links_cases (act : Action hit c d c₁ d₁) :
    c₁.links.length = c.links.length ∨ ∃ ps p, c₁ = c.addLink ps p ∧ c.state = .starting := by
  cases act with
  | connects task done starts cold ps p => exact .inr ⟨ps, p, rfl, cold⟩
  | takes how =>
    rw [how.frame]
    exact .inl rfl
  | _ => first | exact .inl rfl | exact .inl (links_length_modifyLink _)

theorem Action.workspace_eq (act : Action hit c d c₁ d₁) : c₁.workspace = c.workspace := by
  cases act with
  | takes how => rw [how.frame]
  | _ => rfl

/-- Only calls change which attempt callers share. -/
theorem Action.attempt_eq (act : Action hit c (some x) c₁ d₁) (b : Bounds c (some x))
    (task : x.task = .attempt n) : c₁.attempt = c.attempt := by
  have errand : x.role.errand = .none := by
    by_contra other
    have := b.calls x.task (by rwa [roleBy_self rfl])
    rw [task] at this
    cases this
  cases act with
  | shares sends => cases errand.symm.trans sends
  | disposes disposes | detaches disposes => cases errand.symm.trans disposes
  | takes how => rw [how.frame]
  | _ => rfl

theorem Action.asked_eq (act : Action hit c (some x) c₁ (some y)) : y.asked = x.asked := by
  cases act <;> rfl

/-- Links have processes of their own, and only processes with a link are written to. -/
structure Numbered (c : Client) : Prop where
  below : ∀ l < c.links.length, (c.link l).spawn < c.spawns
  apart : ∀ l < c.links.length, ∀ k < c.links.length, (c.link l).spawn = (c.link k).spawn → l = k
  sent : ∀ k, (∀ l < c.links.length, (c.link l).spawn ≠ k) → c.sentTo k = []

theorem Posts.lt (posts : Posts c d l m d₁) (b : Bounds c d)
    (known : ∀ x n k id, d = some x → x.task = .call n → x.asked = some (k, id) →
      k < c.links.length) :
    l < c.links.length := by
  cases posts with
  | @tells x l method params used why =>
    cases why with
    | @exits id j disposes asked =>
      have errand := b.disposes x.task (by rwa [roleBy_self rfl])
      have call := b.calls x.task (by rw [errand]; nofun)
      cases task : x.task with
      | call n => exact known x n l id rfl task asked
      | _ => rw [task] at call; cases call
    | sends sends ready =>
      obtain used | disposes := used
      · exact b.holds l (.inr used)
      · have := b.disposes _ (by rwa [roleBy_self rfl])
        rw [roleBy_self rfl, sends] at this
        cases this
  | greets _ _ _ _ used => exact b.holds l (.inr used)
  | asks used => exact b.holds l (.inr used)

theorem Numbered.act (h : Numbered c) (act : Action hit c d c₁ d₁) (b : Bounds c d)
    (known : ∀ x n k id, d = some x → x.task = .call n → x.asked = some (k, id) →
      k < c.links.length) : Numbered c₁ := by
  have spawns : c.spawns ≤ c₁.spawns := by
    obtain same | ⟨more, -⟩ := act.spawns <;> omega
  have sent k (none' : ∀ l < c.links.length, (c.link l).spawn ≠ k) : c₁.sentTo k = [] := by
    obtain same | ⟨l, m, posts, sent, -⟩ := act.posts
    · rw [same]
      exact h.sent k none'
    · rw [sent, if_neg fun e => none' l (posts.lt b known) e.symm]
      exact h.sent k none'
  obtain same | ⟨ps, p, rfl, -⟩ := act.links_cases
  · have spawn l (here : l < c.links.length) : (c₁.link l).spawn = (c.link l).spawn :=
      (act.link_kept here).1
    refine ⟨fun l here => ?_, fun l here k there => ?_, fun k none' => sent k fun l here => ?_⟩
    · rw [same] at here
      rw [spawn l here]
      exact Nat.lt_of_lt_of_le (h.below l here) spawns
    · rw [same] at here there
      rw [spawn l here, spawn k there]
      exact h.apart l here k there
    · rw [← spawn l here]
      exact none' l (same ▸ here)
  · have length : (c.addLink ps p).links.length = c.links.length + 1 := by simp [addLink]
    have new : ((c.addLink ps p).link c.links.length).spawn = c.spawns := by
      rw [link_addLink, if_pos rfl]
      rfl
    have old l (here : l < c.links.length) :
        ((c.addLink ps p).link l).spawn = (c.link l).spawn := by
      rw [link_addLink, if_neg (Nat.ne_of_lt here)]
    have cases' l (here : l < (c.addLink ps p).links.length) :
        l < c.links.length ∨ l = c.links.length := by omega
    refine ⟨fun l here => ?_, fun l here k there => ?_, fun k none' => sent k fun l here => ?_⟩
    · show _ < c.spawns + 1
      obtain here | rfl := cases' l here
      · rw [old l here]
        exact Nat.lt_succ_of_lt (h.below l here)
      · rw [new]
        exact Nat.lt_succ_self _
    · obtain here | rfl := cases' l here <;> obtain there | rfl := cases' k there
      · rw [old l here, old k there]
        exact h.apart l here k there
      · rw [old l here, new]
        exact fun e => absurd e (Nat.ne_of_lt (h.below l here))
      · rw [old k there, new]
        exact fun e => absurd e.symm (Nat.ne_of_lt (h.below k there))
      · exact fun _ => rfl
    · rw [← old l here]
      exact none' l (by omega)

theorem Begins.link_kept {rest : List Task} (begins : Begins c rest c₁ d) (l : Nat) :
    (c₁.link l).spawn = (c.link l).spawn ∧ (c₁.link l).lastId = (c.link l).lastId := by
  let r (k j : Link) : Prop := j.spawn = k.spawn ∧ j.lastId = k.lastId
  have refl k : r k k := ⟨rfl, rfl⟩
  cases begins with
  | listener => exact rel_link (c := c) (r := r) refl rfl ⟨rfl, rfl⟩ l
  | drain => exact rel_link (c := c) (r := r) refl rfl ⟨rfl, rfl⟩ l
  | _ => exact refl _

theorem Begins.numbered {rest : List Task} (begins : Begins c rest c₁ d) (h : Numbered c) :
    Numbered c₁ := by
  have spawn l : (c₁.link l).spawn = (c.link l).spawn := (begins.link_kept l).1
  have length := begins.frame.2.2.2.2
  have spawns : c₁.spawns = c.spawns := by cases begins <;> rfl
  have sent k : c₁.sentTo k = c.sentTo k := sentTo_congr begins.frame.2.2.2.1
  refine ⟨fun l here => ?_, fun l here k there => ?_, fun k none' => ?_⟩
  · rw [spawn, spawns]
    exact h.below l (length ▸ here)
  · rw [spawn, spawn]
    exact h.apart l (length ▸ here) k (length ▸ there)
  · rw [sent]
    refine h.sent k fun l here => ?_
    rw [← spawn]
    exact none' l (length ▸ here)

theorem Numbered.lose (h : Numbered c) : Numbered (c.forget l id) := by
  have spawn k : ((c.forget l id).link k).spawn = (c.link k).spawn :=
    link_modifyLink_same Link.spawn fun _ => rfl
  have length : (c.forget l id).links.length = c.links.length := links_length_modifyLink _
  refine ⟨fun k here => ?_, fun k here j there => ?_, fun k none' => ?_⟩
  · rw [spawn]
    exact h.below k (length ▸ here)
  · rw [spawn, spawn]
    exact h.apart k (length ▸ here) j (length ▸ there)
  · refine h.sent k fun j here => ?_
    rw [← spawn]
    exact none' j (length ▸ here)

end LspGateway.Client
