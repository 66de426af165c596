import LspGateway.Proofs.Client.Hearing
import LspGateway.Proofs.Client.Posting

/-! # How a client introduces itself

A process is first sent one request, then one notification when its answer has come, and only
then what callers have to say. A start that callers no longer share has been cancelled, or is
already failing.
-/

namespace LspGateway.Client

variable {hit : Nat → Prop} {c c₁ b : Client} {d d₁ : Option Doer} {lost : List Loss} {x y : Doer}
  {l k n id : Nat} {t : Task} {m : Json} {e : Nat × Nat} {s : Signal}

/-- The first message to a process. -/
def opening (c : Client) : Json := message (some 1) "initialize" c.introduction

/-- The process of a link was sent the first request, and nothing else. -/
def Introduced (c : Client) (l : Nat) : Prop := c.sentTo (c.link l).spawn = [c.opening]

/-- The process of a link was sent the first request and the notification that comes next. -/
def Greeted (c : Client) (l : Nat) : Prop := [c.opening, greeting] <+: c.sentTo (c.link l).spawn

/-- An attempt that callers do not share any more was cancelled, or is failing. -/
def Heeded (c : Client) : Prop :=
  ∀ n < c.attempts.length, c.IsLive n → c.attempt ≠ some n →
    c.told (.attempt n) = some .cancelled ∨ (c.role (.attempt n)).strand = .fails

instance : Decidable (Heeded c) :=
  inferInstanceAs (Decidable (∀ n < c.attempts.length, _ → _ → _ ∨ _))

theorem opening_congr (workspace : c₁.workspace = c.workspace) : c₁.opening = c.opening := by
  rw [opening, opening, introduction, introduction, workspace]

theorem not_introduced_of_greeted (h : Greeted c l) : ¬ Introduced c l := by
  intro only
  rw [Greeted, only] at h
  simpa using h.length_le

/-- Who waits for an answer has just asked, or has waited before. -/
theorem Action.expects (act : Action hit c d c₁ d₁) (q : Queue c (turnOf d))
    (h : (roleBy c₁ d₁ t).expects = some e) :
    (roleBy c d t).expects = some e ∨ ∃ x l method params, d = some x ∧ x.task = t ∧
      e = (l, (c.link l).lastId + 1) ∧ c.held.connection = some l ∧
      Occasion c x l (some ((c.link l).lastId + 1)) method params ∧
      c₁ = (c.register l x.task).event l
        (.wrote (message (some ((c.link l).lastId + 1)) method params)) ∧
      d₁ = some (x.expect (some (l, (c.link l).lastId + 1))) := by
  by_cases own : turnOf d = some t
  · obtain ⟨x, rfl, task⟩ := Option.map_eq_some_iff.mp own
    cases d₁ with
    | none =>
      left
      rw [roleBy_self task]
      rw [roleBy, ← task] at h
      obtain same | ⟨-, idle, -⟩ := act.role_own q
      · rwa [same] at h
      · rw [idle] at h
        cases h
    | some y =>
      rw [roleBy_self (act.task_eq.1.trans task)] at h
      rw [roleBy_self task]
      cases act with
      | @asks x l method params idle left up used why =>
        exact .inr ⟨x, l, method, params, rfl, task, (Option.some.inj h).symm, used, why, rfl, rfl⟩
      | retracts => cases h
      | _ => exact .inl h
  · left
    obtain same | ⟨-, job, -, -, -, new⟩ := act.roleBy_other own
    · rwa [same] at h
    · rw [new] at h
      cases h

/-! ## One turn -/

/-- What holds of an attempt or a call in its turn. -/
structure Greeting (c : Client) (x : Doer) : Prop where
  opened : ∀ n k id, x.task = .attempt n → x.asked = some (k, id) →
    id = 1 ∧ k < c.links.length ∧ (x.role.strand = .speaks → Introduced c k)
  heard : ∀ n k id, x.task = .call n → x.asked = some (k, id) → k < c.links.length ∧ Greeted c k
  /-- The answer is for the connection in use. -/
  own : ∀ n k id j, x.task = .attempt n → x.asked = some (k, id) →
    x.signal = .answered (.value j) → c.held.connection = some k ∨ c.held.connection = none
  alone : ∀ k id, x.asked = some (k, id) →
    id ≤ (c.link k).lastId ∧ ∀ t, (roleBy c (some x) t).expects ≠ some (k, id)
  past : ∀ n, x.task = .attempt n → x.asked.isSome → x.role.strand.isPast
  speaks : ∀ n k id, x.task = .attempt n → x.role.expects = some (k, id) →
    c.held.connection = some k ∨ c.held.connection = none
  greeted : x.role.strand = .greeted → ∀ l, c.held.connection = some l → Greeted c l
  /-- What can be cancelled does not wait for what is ending anyway. -/
  mild : ∀ n t, x.task = .attempt n → x.signal = .cancelled → x.began.teardown = some t →
    t.stage.isFirm = false
  leads : ∀ n, x.task = .attempt n → x.role.strand = .starts → c.attempt = some n
  apart : ∀ n, x.task = .attempt n →
    c.attempt = some n ∨ x.signal = .cancelled ∨ x.role.strand = .fails

/-- How far the processes of a client have come. -/
structure Handshake (c : Client) (d : Option Doer) : Prop where
  numbered : Numbered c
  silent : ∀ l < c.links.length, (c.link l).lastId = 0 → c.sentTo (c.link l).spawn = []
  course : ∀ l < c.links.length,
    c.sentTo (c.link l).spawn = [] ∨ Introduced c l ∨ Greeted c l
  opens : ∀ n k id, (roleBy c d (.attempt n)).expects = some (k, id) →
    id = 1 ∧ k < c.links.length ∧ Introduced c k
  asks : ∀ n k id, (roleBy c d (.call n)).expects = some (k, id) →
    k < c.links.length ∧ Greeted c k
  ready : c.state = .ready → ∀ l, c.held.connection = some l → Greeted c l
  shared : ∀ n k id, c.attempt = some n → turnOf d ≠ some (.attempt n) →
    (c.role (.attempt n)).expects = some (k, id) →
    c.held.connection = some k ∨ c.held.connection = none
  mild : ∀ n t, c.told (.attempt n) = some .cancelled → (c.role (.attempt n)).teardown = some t →
    t.stage.isFirm = false
  turn : ∀ x, d = some x → Greeting c x

namespace Handshake

theorem known (h : Handshake c d) (x : Doer) (n k id : Nat) (turn : d = some x)
    (task : x.task = .call n) (asked : x.asked = some (k, id)) : k < c.links.length :=
  ((h.turn x turn).heard n k id task asked).1

/-- What is written comes in its order. -/
inductive Next (c : Client) (d : Option Doer) (l : Nat) (m : Json) (d₁ : Option Doer) : Prop
  | opens (new : (c.link l).lastId = 0) (first : m = c.opening)
  | greets {x : Doer} {n : Nat} (turn : d = some x) (task : x.task = .attempt n)
    (asked : x.asked = some (l, 1)) (agreed : ∃ j, x.signal = .answered (.value j))
    (second : m = greeting) (only : Introduced c l) (turns : d₁ = some (x.turnTo .greeted))
  | goesOn {x : Doer} (greeted : Greeted c l) (turn : d = some x) (caller : x.role.errand ≠ .none)

theorem next (h : Handshake c d) (b : Bounds c d) (posts : Posts c d l m d₁) :
    l < c.links.length ∧ Next c d l m d₁ := by
  have holds l (used : c.held.connection = some l) : l < c.links.length := b.holds l (.inr used)
  cases posts with
  | @tells x _ method params used why =>
    cases why with
    | sends sends ready =>
      obtain used | disposes := used
      · exact ⟨holds l used, .goesOn (h.ready ready l used) rfl (by rw [sends]; nofun)⟩
      · have := b.disposes _ (by rwa [roleBy_self rfl])
        rw [roleBy_self rfl, sends] at this
        cases this
    | exits disposes asked =>
      have errand := b.disposes x.task (by rwa [roleBy_self rfl])
      have call := b.calls x.task (by rw [errand]; nofun)
      cases task : x.task with
      | call n =>
        obtain ⟨here, greeted⟩ := (h.turn x rfl).heard n _ _ task asked
        rw [roleBy_self rfl] at errand
        exact ⟨here, .goesOn greeted rfl (by rw [errand]; nofun)⟩
      | _ => rw [task] at call; cases call
  | @greets x n _ k id j task speaks asked agreed used =>
    have turn := h.turn x rfl
    obtain ⟨rfl, here, only⟩ := turn.opened n k id task asked
    obtain own | none' := turn.own n k 1 j task asked agreed
    · obtain rfl := Option.some.inj (own.symm.trans used)
      exact ⟨here, .greets rfl task asked ⟨j, agreed⟩ rfl (only speaks) rfl⟩
    · exact absurd (none'.symm.trans used) nofun
  | @asks x _ method params used why =>
    refine ⟨holds l used, ?_⟩
    generalize new : (c.link l).lastId + 1 = id at why ⊢
    generalize some' : some id = o at why ⊢
    cases why with
    | introduces task speaks =>
      obtain rfl := Option.some.inj some'
      exact .opens (by omega) rfl
    | sends sends ready => exact .goesOn (h.ready ready l used) rfl (by rw [sends]; nofun)
    | shutsDown disposes ready =>
      have errand := b.disposes x.task (by rwa [roleBy_self rfl])
      rw [roleBy_self rfl] at errand
      exact .goesOn (h.ready ready l used) rfl (by rw [errand]; nofun)
    | exits => cases some'

/-- What was sent to the process of a link, and how that changes. -/
theorem sent (h : Handshake c d) (b : Bounds c d) (act : Action hit c d c₁ d₁)
    (here : l < c.links.length) :
    c₁.opening = c.opening ∧ (c₁.link l).spawn = (c.link l).spawn ∧
      (c₁.sentTo (c.link l).spawn = c.sentTo (c.link l).spawn ∨
        ∃ m, Next c d l m d₁ ∧ c₁.sentTo (c.link l).spawn = c.sentTo (c.link l).spawn ++ [m] ∧
          ((m.get? "id").isSome → (c.link l).lastId < (c₁.link l).lastId)) := by
  refine ⟨opening_congr act.workspace_eq, (act.link_kept here).1, ?_⟩
  obtain same | ⟨k, m, posts, sent, count⟩ := act.posts
  · exact .inl (same _)
  · obtain ⟨there, next⟩ := h.next b posts
    rw [sent]
    split
    · next e =>
      obtain rfl := h.numbered.apart l here k there e
      exact .inr ⟨m, next, rfl, fun id => count id here⟩
    · exact .inl rfl

theorem greeted_mono (h : Handshake c d) (b : Bounds c d) (act : Action hit c d c₁ d₁)
    (here : l < c.links.length) (greeted : Greeted c l) : Greeted c₁ l := by
  obtain ⟨opening, spawn, same | ⟨m, -, sent, -⟩⟩ := h.sent b act here
  · rwa [Greeted, spawn, same, opening]
  · rw [Greeted, spawn, sent, opening]
    exact greeted.trans (List.prefix_append _ _)

theorem introduced_mono (h : Handshake c d) (b : Bounds c d) (act : Action hit c d c₁ d₁)
    (here : l < c.links.length) (only : Introduced c l) :
    Introduced c₁ l ∨ ∃ x n, d = some x ∧ x.task = .attempt n ∧ x.asked = some (l, 1) ∧
      d₁ = some (x.turnTo .greeted) ∧ Greeted c₁ l := by
  obtain ⟨opening, spawn, same | ⟨m, next, sent, -⟩⟩ := h.sent b act here
  · left
    rwa [Introduced, spawn, same, opening]
  · cases next with
    | opens new =>
      have none' := h.silent l here new
      rw [Introduced, none'] at only
      cases only
    | greets turn task asked _ second _ turns =>
      refine .inr ⟨_, _, turn, task, asked, turns, ?_⟩
      rw [Greeted, spawn, sent, opening, only, second]
      exact List.prefix_refl _
    | goesOn greeted => exact absurd only (not_introduced_of_greeted greeted)

/-- A process that nothing was sent to is new when its connection is. -/
theorem sent_new (h : Handshake c d) {ps : List Policy} {p : Policy} :
    (c.addLink ps p).sentTo ((c.addLink ps p).link c.links.length).spawn = [] := by
  rw [link_addLink, if_pos rfl]
  exact h.numbered.sent c.spawns fun l here => Nat.ne_of_lt (h.numbered.below l here)

theorem act_silent (h : Handshake c d) (b : Bounds c d) (act : Action hit c d c₁ d₁) (l : Nat)
    (here : l < c₁.links.length) (new : (c₁.link l).lastId = 0) :
    c₁.sentTo (c₁.link l).spawn = [] := by
  by_cases old : l < c.links.length
  · have before : (c.link l).lastId = 0 := Nat.le_zero.mp (new ▸ (act.link_kept old).2)
    obtain ⟨-, spawn, same | ⟨m, next, sent, count⟩⟩ := h.sent b act old
    · rw [spawn, same]
      exact h.silent l old before
    · exfalso
      cases next with
      | opens _ first =>
        have := count (by rw [first, opening, get_id_message]; rfl)
        omega
      | greets turn task asked _ second only =>
        rw [Introduced, h.silent l old before] at only
        cases only
      | goesOn greeted =>
        rw [Greeted, h.silent l old before] at greeted
        simpa using greeted.length_le
  · obtain ⟨ps, p, rfl, rfl⟩ := act.new_link (Nat.le_of_not_lt old) here
    exact h.sent_new

theorem act_course (h : Handshake c d) (b : Bounds c d) (act : Action hit c d c₁ d₁) (l : Nat)
    (here : l < c₁.links.length) :
    c₁.sentTo (c₁.link l).spawn = [] ∨ Introduced c₁ l ∨ Greeted c₁ l := by
  by_cases old : l < c.links.length
  · obtain ⟨opening, spawn, same | ⟨m, next, sent, -⟩⟩ := h.sent b act old
    · rw [Introduced, Greeted, spawn, same, opening]
      exact h.course l old
    · rw [Introduced, Greeted, spawn, sent, opening]
      cases next with
      | opens new first =>
        rw [h.silent l old new, first]
        exact .inr (.inl rfl)
      | greets turn task asked _ second only =>
        rw [only, second]
        exact .inr (.inr (List.prefix_refl _))
      | goesOn greeted => exact .inr (.inr (greeted.trans (List.prefix_append _ _)))
  · obtain ⟨ps, p, rfl, rfl⟩ := act.new_link (Nat.le_of_not_lt old) here
    exact .inl h.sent_new

theorem act_opens (h : Handshake c d) (q : Queue c (turnOf d)) (b : Bounds c d)
    (act : Action hit c d c₁ d₁) (n k id : Nat)
    (expects : (roleBy c₁ d₁ (.attempt n)).expects = some (k, id)) :
    id = 1 ∧ k < c₁.links.length ∧ Introduced c₁ k := by
  obtain before | ⟨x, l, method, params, rfl, task, e, used, why, asked, -⟩ := act.expects q expects
  · obtain ⟨rfl, here, only⟩ := h.opens n k id before
    refine ⟨rfl, Nat.lt_of_lt_of_le here act.links_le, ?_⟩
    obtain only | ⟨x, m, rfl, -, asked, -⟩ := h.introduced_mono b act here only
    · exact only
    · exact absurd before (((h.turn x rfl).alone k 1 asked).2 _)
  · obtain ⟨rfl, rfl⟩ := Prod.mk.inj e
    have call (other : x.role.errand ≠ .none) : False := by
      have := b.calls x.task (by rwa [roleBy_self rfl])
      rw [task] at this
      cases this
    have here := b.holds k (.inr used)
    generalize first : (c.link k).lastId + 1 = i at why asked ⊢
    generalize some' : some i = o at why
    cases why with
    | introduces =>
      obtain rfl := Option.some.inj some'
      refine ⟨rfl, Nat.lt_of_lt_of_le here act.links_le, ?_⟩
      have kept : ((c.register k x.task).link k).spawn = (c.link k).spawn :=
        link_modifyLink_same Link.spawn fun _ => rfl
      have old : (c.register k x.task).sentTo (c.link k).spawn = [] :=
        (sentTo_congr rfl).trans (h.silent k here (by omega))
      rw [Introduced, (act.link_kept here).1, opening_congr act.workspace_eq, asked,
        sentTo_wrote hasMethod_message, if_pos kept.symm, old]
      rfl
    | sends sends => exact (call (by rw [sends]; nofun)).elim
    | shutsDown disposes =>
      have errand := b.disposes x.task (by rwa [roleBy_self rfl])
      rw [roleBy_self rfl] at errand
      exact (call (by rw [errand]; nofun)).elim
    | exits => cases some'

theorem act_asks (h : Handshake c d) (q : Queue c (turnOf d)) (b : Bounds c d)
    (act : Action hit c d c₁ d₁) (n k id : Nat)
    (expects : (roleBy c₁ d₁ (.call n)).expects = some (k, id)) :
    k < c₁.links.length ∧ Greeted c₁ k := by
  have mono (here : k < c.links.length) (greeted : Greeted c k) :
      k < c₁.links.length ∧ Greeted c₁ k :=
    ⟨Nat.lt_of_lt_of_le here act.links_le, h.greeted_mono b act here greeted⟩
  obtain before | ⟨x, l, method, params, rfl, task, e, used, why, -⟩ := act.expects q expects
  · obtain ⟨here, greeted⟩ := h.asks n k id before
    exact mono here greeted
  · obtain ⟨rfl, rfl⟩ := Prod.mk.inj e
    have here := b.holds k (.inr used)
    generalize (c.link k).lastId + 1 = i at why
    generalize some' : some i = o at why
    cases why with
    | introduces other => cases other.symm.trans task
    | sends sends ready => exact mono here (h.ready ready k used)
    | shutsDown disposes ready => exact mono here (h.ready ready k used)
    | exits => cases some'

theorem act_ready (h : Handshake c d) (b : Bounds c d) (act : Action hit c d c₁ d₁)
    (ready : c₁.state = .ready) (l : Nat) (used : c₁.held.connection = some l) : Greeted c₁ l := by
  have mono (used : c.held.connection = some l) (greeted : Greeted c l) : Greeted c₁ l :=
    h.greeted_mono b act (b.holds l (.inr used)) greeted
  cases act with
  | startsUp | fallsBack | givesUp | resets => cases ready
  | connects _ _ _ cold => cases cold.symm.trans ready
  | @succeeds x n _ k id j task done greeted =>
    exact mono used ((h.turn x rfl).greeted greeted l used)
  | takes how =>
    cases how with
    | releases => cases used
    | _ => exact mono used (h.ready ready l used)
  | _ => exact mono used (h.ready ready l used)

/-- What a client uses stays, is let go of, or is what an attempt has just connected to. -/
theorem act_held (h : Handshake c d) (act : Action hit c d c₁ d₁)
    (used : c.held.connection = some k ∨ c.held.connection = none) :
    (c₁.held.connection = some k ∨ c₁.held.connection = none) ∨
      ∃ x n, d = some x ∧ x.task = .attempt n ∧ x.IsDone ∧ x.role.strand = .starts ∧
        c.attempt = some n := by
  cases act with
  | connects task done starts =>
    exact .inr ⟨_, _, rfl, task, done, starts, (h.turn _ rfl).leads _ task starts⟩
  | takes how =>
    cases how with
    | releases => exact .inl (.inr rfl)
    | _ => exact .inl used
  | _ => exact .inl used

theorem act_shared (h : Handshake c d) (q : Queue c (turnOf d)) (a : Sharing c d)
    (act : Action hit c d c₁ d₁) (n k id : Nat) (shared : c₁.attempt = some n)
    (apart : turnOf d₁ ≠ some (.attempt n)) (expects : (c₁.role (.attempt n)).expects = some (k, id)) :
    c₁.held.connection = some k ∨ c₁.held.connection = none := by
  have expects' : (roleBy c₁ d₁ (.attempt n)).expects = some (k, id) := by
    rwa [roleBy_ne apart]
  obtain before | ⟨x, l, method, params, rfl, task, -, -, -, -, rfl⟩ := act.expects q expects'
  · by_cases own : turnOf d = some (.attempt n)
    · obtain ⟨x, rfl, task⟩ := Option.map_eq_some_iff.mp own
      rw [roleBy_self task] at before
      obtain held | ⟨_, -, ⟨⟩, -, done, -⟩ :=
        h.act_held act ((h.turn x rfl).speaks n k id task before)
      · exact held
      · rw [done.expects] at before
        cases before
    · rw [roleBy_ne own] at before
      have same : c.attempt = some n := by
        cases act with
        | shares =>
          -- A new attempt does not wait for anything.
          obtain rfl : c.attempts.length = n := Option.some.inj shared
          simp [role, standing, Standing.absent, Role.idle] at before
        | disposes | detaches => cases shared
        | takes how =>
          rw [how.frame] at shared
          exact shared
        | _ => exact shared
      obtain held | ⟨x, m, rfl, task, -, -, leads⟩ := h.act_held act (h.shared n k id same own before)
      · exact held
      · obtain rfl := Option.some.inj (leads.symm.trans same)
        exact absurd (congrArg some task) own
  · exact absurd (congrArg some task) apart

theorem act_mild (h : Handshake c d) (q : Queue c (turnOf d)) (act : Action hit c d c₁ d₁) (n : Nat)
    (t : Teardown) (told : c₁.told (.attempt n) = some .cancelled)
    (takes : (c₁.role (.attempt n)).teardown = some t) : t.stage.isFirm = false := by
  by_cases own : turnOf d = some (.attempt n)
  · obtain ⟨x, rfl, task⟩ := Option.map_eq_some_iff.mp own
    have := act.told_own q
    rw [task, told] at this
    cases this
  · obtain same | ⟨s, same, why⟩ | ⟨-, r, new⟩ := act.stirs own
    · rw [Client.told, same] at told
      rw [role, same] at takes
      exact h.mild n t told takes
    · rw [Client.told, same] at told
      rw [role, same] at takes
      obtain rfl := Option.some.inj told
      cases why with
      | attempt here why =>
        cases why with
        | cancelled yields =>
          simp only [standing, here, Option.map_some, Option.getD_some, Attempt.standing,
            AttemptPhase.teardown_role] at takes
          rcases (Bool.or_eq_true _ _).mp yields with fresh | waits
          · rw [of_decide_eq_true fresh] at takes
            cases takes
          · have free := ((Bool.and_eq_true _ _).mp waits).2
            simp only [takes, isFirm, Option.any_some, Bool.not_eq_true', Bool.or_eq_false_iff] at free
            exact free.1
    · rw [Client.told, new] at told
      cases told

theorem act_opened (h : Handshake c (some x)) (b : Bounds c (some x))
    (act : Action hit c (some x) c₁ (some y)) (n k id : Nat) (task : y.task = .attempt n)
    (asked : y.asked = some (k, id)) :
    id = 1 ∧ k < c₁.links.length ∧ (y.role.strand = .speaks → Introduced c₁ k) := by
  rw [act.task_eq.1] at task
  rw [act.asked_eq] at asked
  obtain ⟨rfl, here, only⟩ := (h.turn x rfl).opened n k id task asked
  refine ⟨rfl, Nat.lt_of_lt_of_le here act.links_le, fun speaks => ?_⟩
  have past := (h.turn x rfl).past n task (by rw [asked]; rfl)
  have before : x.role.strand = .speaks := by
    cases act with
    | connects _ _ starts => rw [starts] at past; cases past
    | greets | spends | startsUp | turnsBack => cases speaks
    | _ => exact speaks
  obtain only | ⟨_, _, ⟨⟩, -, -, turns, -⟩ := h.introduced_mono b act here (only before)
  · exact only
  · rw [Option.some.inj turns] at speaks
    cases speaks

theorem act_greeted (h : Handshake c (some x)) (b : Bounds c (some x))
    (act : Action hit c (some x) c₁ (some y)) (greeted : y.role.strand = .greeted) (l : Nat)
    (used : c₁.held.connection = some l) : Greeted c₁ l := by
  have mono (used : c.held.connection = some l) (greeted : x.role.strand = .greeted) :
      Greeted c₁ l :=
    h.greeted_mono b act (b.holds l (.inr used)) ((h.turn x rfl).greeted greeted l used)
  cases act with
  | @greets _ n l' k id j task speaks asked agreed used' later =>
    obtain rfl := Option.some.inj (used'.symm.trans used)
    have turn := h.turn x rfl
    obtain ⟨rfl, here, only⟩ := turn.opened n k id task asked
    obtain own | none' := turn.own n k 1 j task asked agreed
    · obtain rfl := Option.some.inj (own.symm.trans used')
      have spawn := (Action.link_kept
        (.greets task speaks asked agreed used' later : Action hit c (some x) _ _) here).1
      rw [Greeted, spawn, sentTo_wrote hasMethod_message, if_pos rfl, only speaks]
      exact List.prefix_refl _
    · exact absurd (none'.symm.trans used) nofun
  | spends | startsUp | turnsBack => cases greeted
  | connects _ _ _ _ _ p =>
    cases input : p.hasInput <;> rw [input] at greeted <;> cases greeted
  | takes how =>
    cases how with
    | releases => cases used
    | _ => exact mono used greeted
  | _ => exact mono used greeted

theorem act_turn (h : Handshake c (some x)) (q : Queue c (some x.task)) (b : Bounds c (some x))
    (act : Action hit c (some x) c₁ (some y)) : Greeting c₁ y := by
  obtain ⟨task, signal, began, -⟩ := act.task_eq
  have asked := act.asked_eq
  have turn := h.turn x rfl
  refine ⟨h.act_opened b act, ?_, ?_, ?_, ?_, ?_, h.act_greeted b act, ?_, ?_, ?_⟩
  · intro n k id own asks
    rw [task] at own
    rw [asked] at asks
    obtain ⟨here, greeted⟩ := turn.heard n k id own asks
    exact ⟨Nat.lt_of_lt_of_le here act.links_le, h.greeted_mono b act here greeted⟩
  · intro n k id j own asks agreed
    rw [task] at own
    rw [asked] at asks
    rw [signal] at agreed
    obtain held | ⟨_, -, ⟨⟩, -, -, starts, -⟩ := h.act_held act (turn.own n k id j own asks agreed)
    · exact held
    · have past := turn.past n own (by rw [asks]; rfl)
      rw [starts] at past
      cases past
  · intro k id asks
    rw [asked] at asks
    obtain ⟨known, alone⟩ := turn.alone k id asks
    have more : (c.link k).lastId ≤ (c₁.link k).lastId := by
      by_cases here : k < c.links.length
      · exact (act.link_kept here).2
      · rw [link_of_le (Nat.le_of_not_lt here)]
        exact Nat.zero_le _
    refine ⟨Nat.le_trans known more, fun t expects => ?_⟩
    obtain before | ⟨_, l, _, _, ⟨⟩, -, e, -⟩ := act.expects q expects
    · exact alone t before
    · obtain ⟨rfl, rfl⟩ := Prod.mk.inj e
      omega
  · intro n own asks
    rw [task] at own
    rw [asked] at asks
    exact act.isPast (turn.past n own asks)
  · intro n k id own expects
    rw [task] at own
    have expects' : (roleBy c₁ (some y) y.task).expects = some (k, id) := by
      rwa [roleBy_self rfl]
    obtain before | ⟨_, l, _, _, ⟨⟩, -, e, used, -, rfl, -⟩ := act.expects q expects'
    · rw [task, roleBy_self rfl] at before
      obtain held | ⟨_, _, ⟨⟩, -, done, -⟩ := h.act_held act (turn.speaks n k id own before)
      · exact held
      · rw [done.expects] at before
        cases before
    · obtain ⟨rfl, -⟩ := Prod.mk.inj e
      exact .inl used
  · intro n t own cancelled takes
    rw [task] at own
    rw [signal] at cancelled
    rw [began] at takes
    exact turn.mild n t own cancelled takes
  · intro n own starts
    rw [task] at own
    rw [act.attempt_eq b own]
    cases act with
    | startsUp _ early down go =>
      obtain shared | cancelled | fails := turn.apart n own
      · exact shared
      · obtain ⟨t, takes, firm⟩ := go cancelled
        rw [turn.mild n t own cancelled takes] at firm
        cases firm
      · cases early.symm.trans fails
    | greets | spends | turnsBack => cases starts
    | connects _ _ _ _ _ p => cases input : p.hasInput <;> rw [input] at starts <;> cases starts
    | _ => exact turn.leads n own starts
  · intro n own
    rw [task] at own
    rw [act.attempt_eq b own, signal]
    refine (turn.apart n own).imp_right (Or.imp_right fun fails => ?_)
    cases act with
    | turnsBack => rfl
    | greets _ speaks => cases fails.symm.trans speaks
    | spends _ starts => cases fails.symm.trans starts
    | startsUp _ early => cases fails.symm.trans early
    | connects _ _ starts => cases fails.symm.trans starts
    | _ => exact fails

/-- The attempt whose turn it is to start is shared, even if it was cancelled before. -/
theorem shared_early (h : Handshake c (some x)) (task : x.task = .attempt n)
    (early : x.role.strand = .early)
    (go : x.signal = .cancelled → ∃ t, x.began.teardown = some t ∧ t.stage.isFirm) :
    c.attempt = some n := by
  have turn := h.turn x rfl
  obtain shared | cancelled | fails := turn.apart n task
  · exact shared
  · obtain ⟨t, takes, firm⟩ := go cancelled
    rw [turn.mild n t task cancelled takes] at firm
    cases firm
  · cases early.symm.trans fails

/-- The attempt that succeeds is shared, and connected to the process that has answered. -/
theorem succeeds (h : Handshake c (some x)) {j : Json} (task : x.task = .attempt n)
    (greeted : x.role.strand = .greeted) (asked : x.asked = some (k, id))
    (agreed : x.signal = .answered (.value j)) (used : c.held.connection = some l) :
    c.attempt = some n ∧ id = 1 ∧ l = k := by
  have turn := h.turn x rfl
  refine ⟨?_, (turn.opened n k id task asked).1, ?_⟩
  · obtain shared | cancelled | fails := turn.apart n task
    · exact shared
    · cases cancelled.symm.trans agreed
    · cases greeted.symm.trans fails
  · obtain own | none' := turn.own n k id j task asked agreed
    · exact Option.some.inj (used.symm.trans own)
    · cases none'.symm.trans used

theorem act (h : Handshake c d) (a : Sharing c d) (q : Queue c (turnOf d)) (b : Bounds c d)
    (act : Action hit c d c₁ d₁) : Handshake c₁ d₁ := by
  refine ⟨h.numbered.act act b h.known, h.act_silent b act, h.act_course b act, h.act_opens q b act,
    h.act_asks q b act, h.act_ready b act, h.act_shared q a act, h.act_mild q act, ?_⟩
  rintro y rfl
  cases d with
  | none => cases act.none_eq
  | some x => exact h.act_turn q b act

theorem lose (h : Handshake c d) : Handshake (c.forget l id) d := by
  have role u : roleBy (c.forget l id) d u = roleBy c d u :=
    roleBy_congr fun u => congrArg Standing.role standing_forget
  have own u : (c.forget l id).role u = c.role u := congrArg Standing.role standing_forget
  have told u : (c.forget l id).told u = c.told u := congrArg Standing.told standing_forget
  have spawn k : ((c.forget l id).link k).spawn = (c.link k).spawn :=
    link_modifyLink_same Link.spawn fun _ => rfl
  have length : (c.forget l id).links.length = c.links.length := links_length_modifyLink _
  have introduced k : Introduced (c.forget l id) k ↔ Introduced c k := by
    rw [Introduced, Introduced, spawn]
    rfl
  have greeted k : Greeted (c.forget l id) k ↔ Greeted c k := by
    rw [Greeted, Greeted, spawn]
    rfl
  refine ⟨h.numbered.lose, ?_, ?_, ?_, ?_, ?_, ?_, ?_, ?_⟩
  · intro k here new
    rw [length] at here
    rw [lastId_forget] at new
    rw [spawn]
    exact h.silent k here new
  · intro k here
    rw [length] at here
    rw [spawn, introduced, greeted]
    exact h.course k here
  · intro n k i expects
    rw [role] at expects
    rw [length, introduced]
    exact h.opens n k i expects
  · intro n k i expects
    rw [role] at expects
    rw [length, greeted]
    exact h.asks n k i expects
  · intro ready k used
    rw [greeted]
    exact h.ready ready k used
  · intro n k i shared apart expects
    rw [own] at expects
    exact h.shared n k i shared apart expects
  · intro n t cancelled takes
    rw [told] at cancelled
    rw [own] at takes
    exact h.mild n t cancelled takes
  · intro x turn
    have before := h.turn x turn
    refine ⟨?_, ?_, before.own, ?_, before.past, before.speaks, ?_, before.mild, before.leads,
      before.apart⟩
    · simpa only [length, introduced] using before.opened
    · simpa only [length, greeted] using before.heard
    · subst turn
      simpa only [lastId_forget, role] using before.alone
    · intro strand k used
      rw [greeted]
      exact before.greeted strand k used

end Handshake

/-- What an activity that does not have its turn has come to. -/
theorem strand_role : (c.role t).strand = .early ∧ (t.isCall ∨ (c.role t).expects = none) ∨
    (c.role t).strand = .speaks ∧ (c.role t).expects.isSome ∨ (c.role t).strand = .fails := by
  cases t with
  | attempt n =>
    rcases here : c.attempts[n]? with _ | ⟨p, s⟩
    · simp [role, standing, here, Standing.absent, Role.idle]
    · cases p <;> simp [role, standing, here, Attempt.standing, AttemptPhase.role, Role.idle,
        Role.attempting]
  | call n =>
    rcases here : c.calls[n]? with _ | ⟨p, s⟩
    · simp [role, standing, here, Standing.absent, Role.idle]
    · cases p <;> simp [role, standing, here, Call.standing, CallPhase.role, Role.idle,
        Role.begun, Role.disposing, Task.isCall]
  | _ => exact .inl ⟨rfl, .inr rfl⟩

theorem strand_of_expects {e : Nat × Nat} (h : (c.role (.attempt n)).expects = some e) :
    (c.role (.attempt n)).strand = .speaks := by
  obtain ⟨-, call | none'⟩ | ⟨speaks, -⟩ | fails := strand_role (c := c) (t := .attempt n)
  · cases call
  · rw [h] at none'
    cases none'
  · exact speaks
  · rcases here : c.attempts[n]? with _ | ⟨p, s⟩
    · simp [role, standing, here, Standing.absent, Role.idle] at h
    · simp only [role, standing, here, Option.map_some, Option.getD_some, Attempt.standing] at h ⊢
      cases p <;> first | rfl | cases h

theorem Begins.asked {rest : List Task} (begins : Begins c rest c₁ (some x)) :
    x.asked = (c.role x.task).expects := by
  cases begins with
  | attempt ready here => simp [Doer.ofTurn, Client.role, Client.standing, here, Attempt.standing]
  | call ready here => simp [Doer.ofTurn, Client.role, Client.standing, here, Call.standing]
  | _ => rfl

/-- Who has its turn waits for no answer any more, and the others wait as before. -/
theorem Begins.expects {rest : List Task} (begins : Begins c rest c₁ d)
    (h : (roleBy c₁ d t).expects = some e) : turnOf d ≠ some t ∧ (c.role t).expects = some e := by
  by_cases own : turnOf d = some t
  · obtain ⟨x, rfl, task⟩ := Option.map_eq_some_iff.mp own
    rw [roleBy_self task, begins.turn.2.2.1] at h
    cases h
  · rw [roleBy_ne own, Client.role, begins.standing own] at h
    exact ⟨own, h⟩

theorem Begins.greeting {rest : List Task} (begins : Begins c rest c₁ (some x)) (heeded : Heeded c)
    (r : Requests c none lost) (h : Handshake c none)
    (introduced : ∀ k, Introduced c₁ k ↔ Introduced c k) (greeted : ∀ k, Greeted c₁ k ↔ Greeted c k) :
    Greeting c₁ x := by
  obtain ⟨held, -, -, -, length⟩ := begins.frame
  obtain ⟨-, attempt, -, turns⟩ := begins.outcome
  obtain ⟨told, began, role, -⟩ := begins.turn
  have asked := begins.asked
  have strand : x.role.strand = (c.role x.task).strand := by rw [role]
  have apart n (task : x.task = .attempt n) :
      c₁.attempt = some n ∨ x.signal = .cancelled ∨ x.role.strand = .fails := by
    by_cases shared : c.attempt = some n
    · exact .inl (attempt.trans shared)
    · have live := turns n (congrArg some task)
      refine .inr ((heeded n live.1 live shared).imp (fun cancelled => ?_) fun fails => ?_)
      · rw [task, cancelled] at told
        exact (Option.some.inj told).symm
      · rwa [strand, task]
  refine ⟨?_, ?_, ?_, ?_, ?_, ?_, ?_, ?_, ?_, apart⟩
  · intro n k id task asks
    rw [asked, task] at asks
    obtain ⟨one, here, only⟩ := h.opens n k id asks
    exact ⟨one, by rwa [length], fun _ => (introduced k).mpr only⟩
  · intro n k id task asks
    rw [asked, task] at asks
    obtain ⟨here, greets⟩ := h.asks n k id asks
    exact ⟨by rwa [length], (greeted k).mpr greets⟩
  · intro n k id j task asks agreed
    rw [asked, task] at asks
    rw [held]
    obtain shared | cancelled | fails := apart n task
    · exact h.shared n k id (attempt.symm.trans shared) nofun asks
    · rw [cancelled] at agreed
      cases agreed
    · rw [strand, task, strand_of_expects asks] at fails
      cases fails
  · intro k id asks
    rw [asked] at asks
    refine ⟨?_, fun t expects => ?_⟩
    · rw [(begins.link_kept k).2]
      exact (r.known x.task k id asks).2
    · obtain ⟨own, expects⟩ := begins.expects expects
      exact own (congrArg some (r.own x.task t (k, id) asks expects))
  · intro n task asks
    rw [asked, task] at asks
    obtain ⟨e, asks⟩ := Option.isSome_iff_exists.mp asks
    rw [strand, task, strand_of_expects asks]
    rfl
  · intro n k id task expects
    rw [role] at expects
    cases expects
  · intro greets
    rw [strand] at greets
    obtain ⟨other, -⟩ | ⟨other, -⟩ | other := strand_role (c := c) (t := x.task) <;>
      cases other.symm.trans greets
  · intro n t task cancelled takes
    rw [task, cancelled] at told
    rw [began, task] at takes
    exact h.mild n t told takes
  · intro n task starts
    rw [strand] at starts
    obtain ⟨other, -⟩ | ⟨other, -⟩ | other := strand_role (c := c) (t := x.task) <;>
      cases other.symm.trans starts

theorem Begins.handshake {rest : List Task} (begins : Begins c rest c₁ d) (heeded : Heeded c)
    (q : Queue c none) (r : Requests c none lost) (h : Handshake c none) : Handshake c₁ d := by
  obtain ⟨held, -, state, history, length⟩ := begins.frame
  obtain ⟨-, attempt, -, -⟩ := begins.outcome
  have workspace : c₁.workspace = c.workspace := by cases begins <;> rfl
  have sent k : c₁.sentTo k = c.sentTo k := sentTo_congr history
  have introduced k : Introduced c₁ k ↔ Introduced c k := by
    rw [Introduced, Introduced, (begins.link_kept k).1, sent, opening_congr workspace]
  have greeted k : Greeted c₁ k ↔ Greeted c k := by
    rw [Greeted, Greeted, (begins.link_kept k).1, sent, opening_congr workspace]
  refine ⟨begins.numbered h.numbered, ?_, ?_, ?_, ?_, ?_, ?_, ?_, ?_⟩
  · intro k here new
    rw [length] at here
    rw [(begins.link_kept k).2] at new
    rw [(begins.link_kept k).1, sent]
    exact h.silent k here new
  · intro k here
    rw [length] at here
    rw [(begins.link_kept k).1, sent, introduced, greeted]
    exact h.course k here
  · intro n k i asks
    rw [length, introduced]
    exact h.opens n k i (begins.expects asks).2
  · intro n k i asks
    rw [length, greeted]
    exact h.asks n k i (begins.expects asks).2
  · intro ready k used
    rw [greeted]
    exact h.ready (state ▸ ready) k (held ▸ used)
  · intro n k i shared apart asks
    rw [held]
    rw [Client.role, begins.standing apart] at asks
    exact h.shared n k i (attempt ▸ shared) turnOf_none_ne asks
  · intro n t told takes
    by_cases own : turnOf d = some (.attempt n)
    · have := ((begins.queue q).apart _ own).2.2.2
      rw [told] at this
      cases this
    · rw [Client.told, begins.standing own] at told
      rw [Client.role, begins.standing own] at takes
      exact h.mild n t told takes
  · rintro x rfl
    exact begins.greeting heeded r h introduced greeted

theorem invariant_handshake : Invariant Heeded fun c d _ => Sharing c d ∧ Handshake c d :=
  ⟨fun sound h act => ⟨h.1.act sound.queue sound.requests sound.bounds act,
      h.2.act h.1 sound.queue sound.bounds act⟩,
    fun _ h _ _ _ => ⟨h.1.lose, h.2.lose⟩,
    fun heeded sound h begins => ⟨begins.sharing sound.queue h.1,
      begins.handshake heeded sound.queue sound.requests h.2⟩⟩

/-! ## The answer of the server -/

/-- What was sent since the turn began to a process that agreed to the first request. -/
structure Confirms (b c : Client) (d : Option Doer) : Prop where
  greets : ∀ l < c.links.length, Greeted c l → l < b.links.length ∧ Greeted b l ∨
    ∃ n j, (b.role (.attempt n)).expects = some (l, 1) ∧
      b.told (.attempt n) = some (.answered (.value j))
  turn : ∀ x n, d = some x → x.task = .attempt n →
    x.asked = (b.role (.attempt n)).expects ∧ b.told (.attempt n) = some x.signal

theorem Confirms.act (h : Confirms b c d) (handshake : Handshake c d) (bounds : Bounds c d)
    (act : Action hit c d c₁ d₁) : Confirms b c₁ d₁ := by
  refine ⟨fun l here greeted => ?_, ?_⟩
  · have short {ms : List Json} (few : ms.length < 2) {o : Json} : ¬ [o, greeting] <+: ms :=
      fun h => absurd h.length_le (by simpa using few)
    by_cases old : l < c.links.length
    · obtain ⟨opening, spawn, same | ⟨m, next, sent, -⟩⟩ := handshake.sent bounds act old
      · rw [Greeted, spawn, same, opening] at greeted
        exact h.greets l old greeted
      · cases next with
        | opens new =>
          rw [Greeted, spawn, sent, handshake.silent l old new] at greeted
          exact absurd greeted (short (by simp))
        | greets turn task asked agreed =>
          obtain ⟨j, agreed⟩ := agreed
          obtain ⟨waits, told⟩ := h.turn _ _ turn task
          exact .inr ⟨_, j, waits ▸ asked, by rw [told, agreed]⟩
        | goesOn before => exact h.greets l old before
    · obtain ⟨ps, p, rfl, rfl⟩ := act.new_link (Nat.le_of_not_lt old) here
      rw [Greeted, handshake.sent_new] at greeted
      exact absurd greeted (short (by simp))
  · rintro y n rfl task
    cases d with
    | none => cases act.none_eq
    | some x =>
      obtain ⟨same, signal, -⟩ := act.task_eq
      rw [act.asked_eq, signal]
      exact h.turn x n rfl (same ▸ task)

theorem Confirms.lose (h : Confirms b c d) : Confirms b (c.forget l id) d := by
  have spawn k : ((c.forget l id).link k).spawn = (c.link k).spawn :=
    link_modifyLink_same Link.spawn fun _ => rfl
  have length : (c.forget l id).links.length = c.links.length := links_length_modifyLink _
  refine ⟨fun k here greeted => h.greets k (length ▸ here) ?_, h.turn⟩
  rw [Greeted, spawn] at greeted
  exact greeted

theorem invariant_confirms :
    Invariant Never fun c d _ => (Sharing c d ∧ Handshake c d) ∧ Confirms b c d :=
  ⟨fun sound h act => ⟨invariant_handshake.acts sound h.1 act, h.2.act h.1.2 sound.bounds act⟩,
    fun sound h idle pending untold =>
      ⟨invariant_handshake.loses (t := _) sound h.1 idle pending untold, h.2.lose⟩,
    fun given => given.elim⟩

theorem confirms_self : Confirms c c none := by
  refine ⟨fun l here greeted => .inl ⟨here, greeted⟩, ?_⟩
  intro x n turn
  cases turn

theorem Begins.confirms {rest : List Task} (begins : Begins c rest c₁ d) : Confirms c c₁ d := by
  have workspace : c₁.workspace = c.workspace := by cases begins <;> rfl
  refine ⟨fun l here greeted => .inl ⟨begins.frame.2.2.2.2 ▸ here, ?_⟩, ?_⟩
  · rwa [Greeted, (begins.link_kept l).1, sentTo_congr begins.frame.2.2.2.1,
      opening_congr workspace] at greeted
  · rintro x n rfl task
    rw [← task]
    exact ⟨begins.asked, begins.turn.1⟩

/-- The second message is written after the attempt was told that the server agrees. -/
theorem Handshake.greets_step {i : Input} (h : Handshake c none) (heeded : Heeded c)
    (sound : Sound c none lost) (sharing : Sharing c none) (fits : i.Fits c)
    (here : l < (c.step i).links.length) (greeted : Greeted (c.step i) l) :
    l < c.links.length ∧ Greeted c l ∨ ∃ n j, (c.role (.attempt n)).expects = some (l, 1) ∧
      c.told (.attempt n) = some (.answered (.value j)) := by
  obtain path | ⟨rest, c₁, d, begins, path⟩ := path_step sound.fit i fits
  · obtain ⟨-, -, after⟩ := invariant_confirms.path path sound ⟨⟨sharing, h⟩, confirms_self⟩
    exact after.greets l here greeted
  · obtain ⟨-, -, after⟩ := invariant_confirms.path path (begins.sound sound)
      ⟨invariant_handshake.begins heeded sound ⟨sharing, h⟩ begins, begins.confirms⟩
    exact after.greets l here greeted

/-! ## Runs -/

section Run

variable {config : ServerConfig} {workspace : String} {policies : List Policy}

theorem handshake_ofConfig : Handshake (ofConfig config workspace policies) none := by
  have role t : (ofConfig config workspace policies).role t = .idle :=
    congrArg Standing.role standing_ofConfig
  have links l : ¬ l < (ofConfig config workspace policies).links.length := Nat.not_lt_zero l
  constructor
  case numbered => exact ⟨fun l here => absurd here (links l), fun l here => absurd here (links l),
    fun _ _ => rfl⟩
  case silent => exact fun l here => absurd here (links l)
  case course => exact fun l here => absurd here (links l)
  case opens =>
    intro n k id expects
    rw [roleBy, role] at expects
    cases expects
  case asks =>
    intro n k id expects
    rw [roleBy, role] at expects
    cases expects
  case ready =>
    intro ready
    cases ready
  case shared =>
    intro n k id shared
    cases shared
  case mild =>
    intro n t told takes
    rw [role] at takes
    cases takes
  case turn =>
    intro x turn
    cases turn

end Run

end LspGateway.Client
