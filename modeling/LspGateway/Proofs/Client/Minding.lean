import LspGateway.Proofs.Client.Attempts

/-! # Servers out of sight

A client that is disposed while it starts may start one server while an earlier start is
still coming to its end, and then loses sight of the first: nobody takes its link down.
Nothing arrives over such a link any more. What had arrived before is dealt with before
the attempt that has started the other server goes on.
-/

namespace LspGateway.Client

variable {hit : Nat → Prop} {c c₁ : Client} {d d₁ : Option Doer} {ls lost : List Loss} {x y : Doer}
  {l k n id : Nat} {t u : Task} {s : Signal} {ts ts₁ : List Task}

/-! ## Places in the queue -/

/-- One activity stands in the queue, and the other does not stand before it. -/
def StandsBefore (t u : Task) (ts : List Task) : Prop := ∃ pre post, ts = pre ++ t :: post ∧ u ∉ pre

theorem StandsBefore.of_mem (here : t ∈ ts) (apart : u ∉ ts) : StandsBefore t u ts := by
  obtain ⟨pre, post, rfl⟩ := List.append_of_mem here
  exact ⟨pre, post, rfl, fun h => apart (List.mem_append_left _ h)⟩

theorem StandsBefore.mono (h : StandsBefore t u ts) (grows : ts <+: ts₁) : StandsBefore t u ts₁ := by
  obtain ⟨pre, post, rfl, apart⟩ := h
  obtain ⟨more, rfl⟩ := grows
  exact ⟨pre, post ++ more, by simp, apart⟩

/-- When a turn begins, it is that of the one that stands before, or neither's. -/
theorem StandsBefore.tail {v : Task} (h : StandsBefore t u (v :: ts)) : t = v ∨ v ≠ u ∧ StandsBefore t u ts := by
  obtain ⟨pre, post, e, apart⟩ := h
  cases pre with
  | nil =>
    obtain ⟨rfl, -⟩ := List.cons.inj e
    exact .inl rfl
  | cons w pre =>
    obtain ⟨rfl, rfl⟩ := List.cons.inj e
    simp only [List.mem_cons, not_or] at apart
    exact .inr ⟨Ne.symm apart.1, pre, post, rfl, apart.2⟩

/-! ## Listeners -/

/-- What becomes of the listener of a link that exists, if nobody starts another one. -/
inductive ListenerStep (c : Client) (d : Option Doer) (l : Nat) : Watcher → Prop
  | stays : ListenerStep c d l (c.link l).listener
  | told {s : Signal} (why : WatcherPrompt (c.link l).listener s)
    (shut : s = .cancelled → (c.link l).closed) (near : s = .cancelled ∨ Reaches c d l) :
    ListenerStep c d l ⟨(c.link l).listener.phase, some s⟩
  | rests (runs : (c.link l).listener.phase = .running) : ListenerStep c d l ⟨.waiting, none⟩
  | ends : ListenerStep c d l ⟨.done, none⟩

theorem Action.listener_step (act : Action hit c d c₁ d₁) (here : l < c.links.length)
    (mute : ∀ x, d = some x → x.role.errand ≠ .listens) :
    ListenerStep c d l (c₁.link l).listener := by
  have changed {k : Nat} {f : Link → Link} (links : c₁.links = c.links.modify k f)
      (step : ListenerStep c d k (f (c.link k)).listener) :
      ListenerStep c d l (c₁.link l).listener := by
    rw [link_of_modify links]
    split
    · next e =>
      obtain ⟨rfl, -⟩ := e
      exact step
    · exact .stays
  cases act with
  | tellsListener why shut near => exact changed rfl (.told why shut near)
  | rests task done go runs => exact changed rfl (.rests runs)
  | halts => exact changed rfl .ends
  | restarts task listens => exact absurd listens (mute _ rfl)
  | connects =>
    rw [link_addLink, if_neg (Nat.ne_of_lt here)]
    exact .stays
  | takes how =>
    rw [how.frame]
    exact .stays
  | flows | exits | tellsDrain | asks | mumbles | retracts | withdraws | answers | drops | fails
  | supersedes | renews | drains | drainRests | drainEnds | shuts | expectsEnd =>
    exact changed rfl .stays
  | _ => exact .stays

/-- Nobody learns of what arrives over a link: it was closed, or nobody listens to it. -/
def IsSealed (c : Client) (l : Nat) : Prop :=
  (c.link l).closed ∨ (c.link l).listener.phase = .absent ∨ (c.link l).listener.phase = .done

/-- Nobody listens to a connection but the client. -/
theorem Bounds.mute (b : Bounds c d) (client : c.audience = .client) (x : Doer) (turn : d = some x) :
    x.role.errand ≠ .listens := by
  subst turn
  intro listens
  exact b.observes x.task (.inl ((congrArg Role.errand (roleBy_self rfl)).trans listens)) client

theorem IsSealed.act (shut : c.IsSealed l) (act : Action hit c d c₁ d₁) (b : Bounds c d)
    (client : c.audience = .client) (here : l < c.links.length) : c₁.IsSealed l := by
  obtain closed | silent := shut
  · exact .inl (act.closed_mono closed)
  · have idle : (c.link l).listener.phase.isPending = false := by
      obtain e | e := silent <;> rw [e] <;> rfl
    have step := act.listener_step here (b.mute client)
    unfold IsSealed
    generalize (c₁.link l).listener = w at step
    cases step with
    | stays => exact .inr silent
    | told why => cases idle.symm.trans why.isPending
    | rests runs => obtain e | e := silent <;> cases e.symm.trans runs
    | ends => exact .inr (.inr rfl)

/-! ## Links in use -/

/-- What is in use changes when it is let go of and when a process is started. -/
theorem Action.held_step (act : Action hit c d c₁ d₁) :
    (c₁.held.process = c.held.process ∧ c₁.held.connection = c.held.connection) ∨
      (∃ x, d = some x ∧ d₁ = some (x.takeDown c.held.teardown?) ∧ c₁ = { c with held := .nothing }) ∨
      ∃ x n ps p, d = some x ∧ x.task = .attempt n ∧ x.role.strand = .starts ∧
        c₁ = c.addLink ps p ∧ d₁ = some (x.turnTo (if p.hasInput then .speaks else .fails)) := by
  cases act with
  | takes how =>
    cases how with
    | releases => exact .inr (.inl ⟨_, rfl, rfl, rfl⟩)
    | _ => exact .inl ⟨rfl, rfl⟩
  | connects task done starts cold ps p =>
    exact .inr (.inr ⟨_, _, ps, p, rfl, task, starts, rfl, rfl⟩)
  | _ => exact .inl ⟨rfl, rfl⟩

/-- Before an attempt goes on that has connected to a later server, the listener of a link
has its turn. -/
structure Precedes (c : Client) (d : Option Doer) (l n : Nat) : Prop where
  live : c.IsLive n
  first : StandsBefore (.listener l) (.attempt n) c.ready
  connects : ∀ x, d = some x → x.task = .attempt n →
    x.role.strand = .speaks ∧ x.began.strand ≠ .speaks

/-- An earlier link that is out of sight. -/
structure Left (c : Client) (d : Option Doer) (l : Nat) : Prop where
  earlier : l + 1 < c.links.length
  unused : c.held.process ≠ some l
  still : (c.link l).listener.signal = none ∨ ∃ n, Precedes c d l n

/-- What becomes of a link. -/
inductive Minded (c : Client) (d : Option Doer) (l : Nat) : Prop
  | shut (h : c.IsSealed l)
  | used (h : c.held.connection = some l)
  /-- The activity in its turn is about to close it. -/
  | taken {x : Doer} {u : Teardown} (turn : d = some x) (takes : x.role.teardown = some u)
    (first : u.stage = .listener) (same : u.link = l)
  | left (h : Left c d l)

/-- A client knows what becomes of its links. -/
structure Minds (c : Client) (d : Option Doer) : Prop where
  minds : ∀ l < c.links.length, Minded c d l
  process : ∀ l, c.held.process = some l → c.held.connection = some l ∨ c.IsSealed l
  down : ∀ t u, (roleBy c d t).teardown = some u → u.stage ≠ .listener → c.IsSealed u.link
  /-- Who has connected does not connect again in its turn. -/
  forth : ∀ x, d = some x → x.began.strand = .speaks →
    x.role.strand ≠ .early ∧ x.role.strand ≠ .starts

/-! ## Actions -/

/-- Who connects goes on with nothing else in that turn. -/
theorem Precedes.act (h : Precedes c d l n) (act : Action hit c d c₁ d₁)
    (turn : ∀ m, turnOf d = some (.attempt m) → c.IsLive m) : Precedes c₁ d₁ l n := by
  by_cases own : turnOf d = some (.attempt n)
  · obtain ⟨x, rfl, task⟩ := Option.map_eq_some_iff.mp own
    obtain ⟨speaks, new⟩ := h.connects x rfl task
    have later : ¬ (x.role.strand = .speaks → x.began.strand = .speaks) := fun later =>
      new (later speaks)
    cases d₁ with
    | some y =>
      refine ⟨h.live.mono act turn (.inl nofun), h.first.mono act.ready_prefix, ?_⟩
      rintro _ ⟨⟩ -
      rw [act.task_eq.2.2.1]
      refine ⟨?_, new⟩
      cases act with
      | greets _ _ _ _ _ began => exact absurd began new
      | spends _ starts | connects _ _ starts => cases starts.symm.trans speaks
      | startsUp _ early => cases early.symm.trans speaks
      | turnsBack _ back => exact absurd back later
      | _ => exact speaks
    | none =>
      refine ⟨⟨Nat.lt_of_lt_of_le h.live.1 act.attempts_le, ?_⟩, h.first.mono act.ready_prefix,
        by rintro _ ⟨⟩⟩
      cases act with
      | endsAttempt _ _ _ back => exact absurd back later
      | succeeds _ _ greeted => cases greeted.symm.trans speaks
      | rests other | drainRests other | parksCall other | endsCall other =>
        cases other.symm.trans task
      | leaves _ _ ceased =>
        obtain ⟨l, other, -⟩ | ⟨l, other, -⟩ := ceased <;> cases other.symm.trans task
      | @parksAttempt x m p task' role left waits =>
        obtain rfl : m = n := Task.attempt.inj (task'.symm.trans task)
        rw [attemptOutcome?, putAttempt, List.getElem?_set_self h.live.1]
        cases p <;> first | rfl | cases waits
  · refine ⟨h.live.mono act turn (.inr own), h.first.mono act.ready_prefix, ?_⟩
    rintro x rfl task
    cases d with
    | none => cases act.none_eq
    | some z => exact absurd (congrArg some (act.task_eq.1.symm.trans task)) own

/-- Who takes a link down closes it before anything else. -/
theorem Action.closes_taken {u : Teardown} (act : Action hit c (some x) c₁ d₁)
    (q : Queue c (some x.task)) (b : Bounds c (some x)) (takes : x.role.teardown = some u)
    (first : u.stage = .listener) :
    (c₁.link u.link).closed ∨ ∃ y, d₁ = some y ∧ y.role.teardown = some u := by
  cases d₁ with
  | some y =>
    obtain ⟨e, b, same⟩ | ⟨v, rfl, how⟩ | ⟨a, rfl, -, done, -⟩ := act.role_step
    · exact .inr ⟨y, rfl, by rw [same]; exact takes⟩
    · refine .inl (act.closed_mono ?_)
      cases how with
      | releases idle => cases idle.symm.trans takes
      | closes idle => cases idle.symm.trans takes
      | advances takes' _ shut | settles takes' shut | abandons takes' shut =>
        obtain rfl := Option.some.inj (takes'.symm.trans takes)
        exact shut first
    · cases done.teardown.symm.trans takes
  | none =>
    obtain same | ⟨done, -⟩ := act.role_own q
    · have ends := act.parks q (by rw [same, takes])
      exact .inl (act.shut b.shut u.link (ends.listener first))
    · cases done.teardown.symm.trans takes

theorem Minds.taken_act {u : Teardown} (act : Action hit c (some x) c₁ d₁)
    (q : Queue c (some x.task)) (b : Bounds c (some x)) (takes : x.role.teardown = some u)
    (first : u.stage = .listener) : Minded c₁ d₁ u.link := by
  obtain closed | ⟨y, turn, takes₁⟩ := act.closes_taken q b takes first
  · exact .shut (.inl closed)
  · exact .taken turn takes₁ first rfl

/-- Nothing arrives over a link that is out of sight. -/
theorem Left.still_act (h : Left c d l) (act : Action hit c d c₁ d₁) (b : Bounds c d)
    (client : c.audience = .client) (down : ∀ t u, (roleBy c d t).teardown = some u →
      u.stage ≠ .listener → c.IsSealed u.link)
    (turn : ∀ m, turnOf d = some (.attempt m) → c.IsLive m) :
    ((c₁.link l).listener.signal = none ∨ ∃ n, Precedes c₁ d₁ l n) ∨ c.IsSealed l ∨
      c.held.connection = some l ∨ ∃ x u, d = some x ∧ x.role.teardown = some u ∧
        u.stage = .listener ∧ u.link = l := by
  obtain still | ⟨n, precedes⟩ := h.still
  · have step := act.listener_step (Nat.lt_of_succ_lt h.earlier) (b.mute client)
    generalize (c₁.link l).listener = w at step
    cases step with
    | stays => exact .inl (.inl still)
    | rests => exact .inl (.inl rfl)
    | ends => exact .inl (.inl rfl)
    | told why shut near =>
      obtain cancelled | last | process | used | ⟨x, u, rfl, takes, rfl⟩ := near
      · exact .inr (.inl (.inl (shut cancelled)))
      · exact absurd last (Nat.ne_of_lt h.earlier)
      · exact absurd process h.unused
      · exact .inr (.inr (.inl used))
      · by_cases first : u.stage = .listener
        · exact .inr (.inr (.inr ⟨x, u, rfl, takes, first, rfl⟩))
        · exact .inr (.inl (down x.task u (by rwa [roleBy_self rfl]) first))
  · exact .inl (.inr ⟨n, precedes.act act turn⟩)

namespace Minds

/-- A link that comes out of sight when another server is started is dealt with before the
attempt goes on. -/
theorem left_addLink {ps : List Policy} {p : Policy} (h : Minds c (some x))
    (q : Queue c (some x.task)) (live : c.IsLive n) (task : x.task = .attempt n)
    (starts : x.role.strand = .starts) (here : l < c.links.length) :
    Left (c.addLink ps p) (some (x.turnTo .speaks)) l := by
  have grown : (c.addLink ps p).links.length = c.links.length + 1 := by simp [addLink]
  refine ⟨by rw [grown]; exact Nat.succ_lt_succ here, ?_, ?_⟩
  · exact fun e => Nat.ne_of_lt here (Option.some.inj e).symm
  · rw [link_addLink, if_neg (Nat.ne_of_lt here)]
    cases told : (c.link l).listener.signal with
    | none => exact .inl rfl
    | some s =>
      have queued : Task.listener l ∈ c.ready := q.queued _ (by
        show (c.link l).listener.signal.isSome
        rw [told]
        rfl)
      have apart : Task.attempt n ∉ c.ready := fun h' => by
        have standing := q.apart x.task rfl
        rw [task] at standing
        exact absurd (q.canGo _ h') (by simp [CanGo, Task.isRelay, standing.2.2.1])
      refine .inr ⟨n, ⟨?_, ?_⟩, ?_, ?_⟩
      · exact live.1
      · exact live.2
      · exact (StandsBefore.of_mem queued apart).mono (List.prefix_append ..)
      · rintro _ ⟨⟩ -
        exact ⟨rfl, fun began => (h.forth x rfl began).2 starts⟩

theorem used_act (h : Minds c d) (act : Action hit c d c₁ d₁) (q : Queue c (turnOf d))
    (turn : ∀ m, turnOf d = some (.attempt m) → c.IsLive m) (here : l < c.links.length)
    (used : c.held.connection = some l) : Minded c₁ d₁ l := by
  obtain ⟨-, same⟩ | ⟨x, rfl, rfl, rfl⟩ | ⟨x, n, ps, p, rfl, task, starts, rfl, rfl⟩ := act.held_step
  · exact .used (same.trans used)
  · have takes : c.held.teardown? = some ⟨l, c.held.drain, .listener⟩ := by
      rw [Held.teardown?, used]
    exact .taken rfl takes rfl rfl
  · cases input : p.hasInput with
    | true =>
      rw [if_pos rfl]
      exact .left (h.left_addLink q (turn n (congrArg some task)) task starts here)
    | false => exact .used (by simpa [addLink, input] using used)

theorem minds_act (h : Minds c d) (act : Action hit c d c₁ d₁) (q : Queue c (turnOf d))
    (b : Bounds c d) (client : c.audience = .client)
    (turn : ∀ m, turnOf d = some (.attempt m) → c.IsLive m) (here : l < c.links.length) :
    Minded c₁ d₁ l := by
  cases h.minds l here with
  | shut shut => exact .shut (shut.act act b client here)
  | taken own takes first same =>
    subst own same
    exact taken_act act q b takes first
  | used used => exact h.used_act act q turn here used
  | left left =>
    obtain still | shut | used | ⟨x, u, rfl, takes, first, rfl⟩ :=
      left.still_act act b client h.down turn
    · refine .left ⟨Nat.lt_of_lt_of_le left.earlier act.links_le, ?_, still⟩
      obtain ⟨same, -⟩ | ⟨x, rfl, rfl, rfl⟩ | ⟨x, n, ps, p, rfl, -, -, rfl, -⟩ := act.held_step
      · rw [same]
        exact left.unused
      · exact fun e => by cases e
      · exact fun e => Nat.ne_of_lt here (Option.some.inj e).symm
    · exact .shut (shut.act act b client here)
    · exact h.used_act act q turn here used
    · exact taken_act act q b takes first

/-- The link of a process that is just started is in use, or nobody listens to it. -/
theorem used_addLink {ps : List Policy} {p : Policy} :
    (c.addLink ps p).held.connection = some c.links.length ∨
      (c.addLink ps p).IsSealed c.links.length := by
  cases input : p.hasInput with
  | true => exact .inl (by simp [addLink, input])
  | false => exact .inr (.inr (.inl (by simp [link_addLink, input])))

theorem minds_new (act : Action hit c d c₁ d₁) (old : ¬ l < c.links.length)
    (here : l < c₁.links.length) : Minded c₁ d₁ l := by
  cases act with
  | connects =>
    obtain rfl : l = c.links.length := by
      simp only [addLink, List.length_append, List.length_singleton] at here
      omega
    exact used_addLink.elim .used .shut
  | takes how =>
    rw [how.frame] at here
    exact absurd here old
  | _ =>
    refine absurd (Nat.lt_of_lt_of_eq here ?_) old
    first | rfl | exact links_length_modifyLink _

theorem process_act (h : Minds c d) (act : Action hit c d c₁ d₁) (b : Bounds c d)
    (client : c.audience = .client) (process : c₁.held.process = some l) :
    c₁.held.connection = some l ∨ c₁.IsSealed l := by
  obtain ⟨same, used⟩ | ⟨x, rfl, rfl, rfl⟩ | ⟨x, n, ps, p, rfl, -, -, rfl, -⟩ := act.held_step
  · rw [same] at process
    rw [used]
    exact (h.process l process).imp_right fun shut =>
      shut.act act b client (b.holds l (.inl process))
  · cases process
  · obtain rfl := Option.some.inj process
    exact used_addLink

/-- What is taken down past its listener is closed, or nobody listens to it. -/
theorem down_act (h : Minds c d) (act : Action hit c d c₁ d₁) (q : Queue c (turnOf d))
    (b : Bounds c d) (client : c.audience = .client) (t : Task) :
    ∀ u, (roleBy c₁ d₁ t).teardown = some u → u.stage ≠ .listener → c₁.IsSealed u.link := by
  refine act.forall_role (p := fun r => ∀ u, r.teardown = some u → u.stage ≠ .listener →
    c₁.IsSealed u.link) q ?_ ?_ ?_ ?_
  · intro v takes past
    exact (h.down t v takes past).act act b client (b.takes t v takes)
  · rintro x y rfl rfl rfl before v takes past
    obtain ⟨e, s, same⟩ | ⟨w, rfl, how⟩ | ⟨a, rfl, -⟩ := act.role_step
    · exact before v (by rwa [same] at takes) past
    · cases how with
      | releases idle who =>
        have takes : c.held.teardown? = some v := takes
        unfold Held.teardown? at takes
        split at takes
        · obtain rfl := Option.some.inj takes
          exact absurd rfl past
        · next l unused process =>
          obtain rfl := Option.some.inj takes
          obtain used | shut := h.process l process
          · cases unused.symm.trans used
          · exact shut.act act b client (b.holds l (.inl process))
        · cases takes
      | closes idle errand =>
        obtain rfl := Option.some.inj takes
        exact absurd rfl past
      | @advances w u taken same shut =>
        obtain rfl := Option.some.inj takes
        rw [same]
        by_cases first : w.stage = .listener
        · exact .inl (act.closed_mono (shut first))
        · exact before w taken first
      | settles => cases takes
      | abandons => cases takes
    · exact before v takes past
  · rintro v ⟨⟩
  · rintro job - - v ⟨⟩

theorem forth_act (h : Minds c d) (act : Action hit c d c₁ (some y))
    (began : y.began.strand = .speaks) : y.role.strand ≠ .early ∧ y.role.strand ≠ .starts := by
  cases d with
  | none => cases act.none_eq
  | some x =>
    rw [act.task_eq.2.2.1] at began
    have before := h.forth x rfl began
    cases act with
    | greets | spends | turnsBack => exact ⟨by simp [Doer.turnTo], by simp [Doer.turnTo]⟩
    | startsUp _ early => exact absurd early before.1
    | connects _ _ starts => exact absurd starts before.2
    | _ => exact before

theorem act (h : Minds c d) (act : Action hit c d c₁ d₁) (q : Queue c (turnOf d))
    (b : Bounds c d) (client : c.audience = .client)
    (turn : ∀ m, turnOf d = some (.attempt m) → c.IsLive m) : Minds c₁ d₁ := by
  refine ⟨fun l here => ?_, fun l process => h.process_act act b client process,
    h.down_act act q b client, ?_⟩
  · by_cases old : l < c.links.length
    · exact h.minds_act act q b client turn old
    · exact minds_new act old here
  · rintro y rfl began
    exact h.forth_act act began

end Minds

/-! ## The start of a turn -/

theorem Begins.isSealed (begins : Begins c ts c₁ d) (shut : c.IsSealed l) : c₁.IsSealed l := by
  cases begins with
  | @listener k s p ready here pending =>
    obtain closed | silent := shut
    · refine .inl ?_
      exact rel_link (r := fun k j => k.closed → j.closed) (fun _ h => h) rfl (fun h => h) l closed
    · right
      have apart : k ≠ l := by
        rintro rfl
        rw [here] at silent
        obtain rfl | rfl := silent <;> cases pending
      rw [setListener, link_modifyLink_ne apart]
      exact silent
  | drain =>
    exact rel_link (r := fun k j => k.closed ∨ k.listener.phase = .absent ∨ k.listener.phase = .done →
      j.closed ∨ j.listener.phase = .absent ∨ j.listener.phase = .done) (fun _ h => h) rfl
      (fun h => h) l shut
  | _ => exact shut

/-- What a listener was told is no different unless its turn begins. -/
theorem Begins.signal (begins : Begins c ts c₁ d) (apart : c.ready ≠ .listener l :: ts) :
    (c₁.link l).listener.signal = (c.link l).listener.signal := by
  cases begins with
  | @listener k s p ready =>
    rw [setListener, link_modifyLink_ne]
    · rfl
    · rintro rfl
      exact apart ready
  | drain => exact link_modifyLink_same (fun k => k.listener.signal) fun _ => rfl
  | _ => rfl

/-- Who has its turn was told nothing since. -/
theorem Begins.signal_none (begins : Begins c ts c₁ d) (first : c.ready = .listener l :: ts) :
    (c₁.link l).listener.signal = none := by
  cases begins with
  | @listener k s p ready here pending =>
    obtain rfl : k = l := by simpa using ready.symm.trans first
    have exists_link : k < c.links.length := lt_of_listener (by rw [here]; exact pending)
    exact congrArg (·.listener.signal)
      (link_modifyLink_self (c := { c with ready := ts }) exists_link _)
  | drain ready | attempt ready | call ready | relay ready => cases ready.symm.trans first

theorem Begins.ready_eq (begins : Begins c ts c₁ d) : c₁.ready = ts := by
  cases begins <;> rfl

theorem Left.begins (h : Left c none l) (begins : Begins c ts c₁ d) : Left c₁ d l := by
  obtain ⟨held, -, -, -, length⟩ := begins.frame
  refine ⟨by rw [length]; exact h.earlier, by rw [held]; exact h.unused, ?_⟩
  by_cases own : c.ready = .listener l :: ts
  · exact .inl (begins.signal_none own)
  · rw [begins.signal own]
    refine h.still.imp_right fun ⟨n, precedes⟩ => ⟨n, ?_⟩
    obtain ⟨attempts, -, outcome, -⟩ := begins.outcome
    obtain ⟨v, first⟩ : ∃ v, c.ready = v :: ts := by cases begins <;> exact ⟨_, by assumption⟩
    have leads := precedes.first
    rw [first] at leads own
    obtain rfl | ⟨apart, leads⟩ := leads.tail
    · exact absurd rfl own
    · refine ⟨⟨by rw [attempts]; exact precedes.live.1, (outcome n).trans precedes.live.2⟩, ?_, ?_⟩
      · rwa [begins.ready_eq]
      · rintro x rfl task
        obtain rfl : x.task = v := by simpa using begins.first.symm.trans first
        exact absurd task apart

theorem Begins.minds (begins : Begins c ts c₁ d) (h : Minds c none) : Minds c₁ d := by
  obtain ⟨held, -, -, -, length⟩ := begins.frame
  refine ⟨fun l here => ?_, fun l process => ?_, fun t u takes past => ?_, ?_⟩
  · rw [length] at here
    cases h.minds l here with
    | shut shut => exact .shut (begins.isSealed shut)
    | used used => exact .used (by rw [held, used])
    | taken turn => cases turn
    | left left => exact .left (left.begins begins)
  · rw [held] at process ⊢
    exact (h.process l process).imp_right begins.isSealed
  · refine begins.isSealed (h.down t u ?_ past)
    obtain same | ⟨-, same⟩ := begins.role t <;> rwa [same] at takes
  · rintro x rfl began
    obtain ⟨-, before, role, -⟩ := begins.turn
    rw [role]
    rw [before] at began
    simp [began]

theorem Minds.lose (h : Minds c d) : Minds (c.forget k id) d := by
  have closed l : ((c.forget k id).link l).closed = (c.link l).closed :=
    link_modifyLink_same Link.closed fun _ => rfl
  have listener l : ((c.forget k id).link l).listener = (c.link l).listener :=
    link_modifyLink_same Link.listener fun _ => rfl
  have length : (c.forget k id).links.length = c.links.length := links_length_modifyLink _
  have role t : roleBy (c.forget k id) d t = roleBy c d t :=
    roleBy_congr fun t => by rw [role, standing_forget, role]
  have shut {l} (shut : c.IsSealed l) : (c.forget k id).IsSealed l := by
    rwa [IsSealed, closed, listener]
  refine ⟨fun l here => ?_, fun l process => (h.process l process).imp_right shut,
    fun t u takes past => shut (h.down t u ?_ past), h.forth⟩
  · rw [length] at here
    cases h.minds l here with
    | shut h => exact .shut (shut h)
    | used used => exact .used used
    | taken turn takes first same => exact .taken turn takes first same
    | left left =>
      refine .left ⟨by rw [length]; exact left.earlier, left.unused, ?_⟩
      rw [listener]
      exact left.still.imp_right
        (.imp fun n precedes => ⟨precedes.live, precedes.first, precedes.connects⟩)
  · rwa [role] at takes

theorem invariant_minds : Invariant Always fun c d _ =>
    c.audience = .client ∧ Sharing c d ∧ Minds c d := by
  refine ⟨fun sound h act => ?_, fun sound h idle pending untold => ?_, fun _ sound h begins => ?_⟩
  · exact ⟨act.audience_eq.trans h.1, invariant_sharing.acts sound h.2.1 act,
      h.2.2.act act sound.queue sound.bounds h.1 h.2.1.turn⟩
  · exact ⟨h.1, h.2.1.lose, h.2.2.lose⟩
  · exact ⟨begins.frame.2.1.trans h.1, begins.sharing sound.queue h.2.1, begins.minds h.2.2⟩

theorem minds_ofConfig {config : ServerConfig} {workspace : String} {policies : List Policy} :
    Minds (ofConfig config workspace policies) none := by
  have standing := standing_eq_absent (c := ofConfig config workspace policies) rfl rfl
    (fun _ => rfl) fun _ => rfl
  refine ⟨fun l here => absurd here (Nat.not_lt_zero l), ?_, fun t u takes => ?_, by rintro x ⟨⟩⟩
  · rintro l ⟨⟩
  · rw [roleBy, role, standing] at takes
    cases takes

end LspGateway.Client
