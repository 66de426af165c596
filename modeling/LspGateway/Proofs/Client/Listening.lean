import LspGateway.Proofs.Client.Course

/-! # Listening as actions

A listener takes messages one after another. A request whose response cannot be
understood is taken off the list although nobody is told, and that ends the listener.
-/

namespace LspGateway.Client

variable {hit : Nat → Prop} {c c₁ : Client} {d d₁ : Option Doer} {ls : List Loss} {x : Doer}
  {l k n id : Nat} {t : Task} {s : Signal} {crash : Option Json.Misuse} {found : Held}

/-! ## What changes when requests are given up -/

theorem foldl_wake_frame (ps : List (Nat × Task)) : ∃ as ks ts,
    ps.foldl (fun c (_, t) => c.wake t s) c =
      { c with attempts := as, calls := ks, ready := ts } := by
  induction ps generalizing c with
  | nil => exact ⟨_, _, _, rfl⟩
  | cons p ps ih =>
    obtain ⟨as, ks, ts, e⟩ := ih (c := c.wake p.2 s)
    exact ⟨as, ks, ts, by rw [List.foldl_cons, e, wake_eq_prompt]; rfl⟩

theorem failPending_frame (reason : Ending) : ∃ as ks ts, c.failPending l reason =
    { c.modifyLink l (fun k => { k with pending := [] }) with
      attempts := as, calls := ks, ready := ts } :=
  foldl_wake_frame (c.link l).pending

theorem link_failPending (reason : Ending) :
    (c.failPending l reason).link k =
      (c.modifyLink l fun k => { k with pending := [] }).link k := by
  obtain ⟨as, ks, ts, e⟩ := failPending_frame (c := c) (l := l) reason
  rw [e]
  rfl

@[simp] theorem pending_failPending (reason : Ending) :
    ((c.failPending l reason).link l).pending = [] := by
  rw [link_failPending]
  rcases Nat.lt_or_ge l c.links.length with here | out
  · rw [link_modifyLink_self here]
  · rw [link_of_le (by rwa [links_length_modifyLink])]
    rfl

theorem links_length_failPending (reason : Ending) :
    (c.failPending l reason).links.length = c.links.length := by
  obtain ⟨as, ks, ts, e⟩ := failPending_frame (c := c) (l := l) reason
  rw [e]
  exact links_length_modifyLink _

theorem foldl_wake_modifyLink (f : Link → Link) (ps : List (Nat × Task)) :
    ps.foldl (fun c (_, t) => c.wake t s) (c.modifyLink l f) =
      (ps.foldl (fun c (_, t) => c.wake t s) c).modifyLink l f := by
  induction ps generalizing c with
  | nil => rfl
  | cons p ps ih =>
    have swap : (c.modifyLink l f).wake p.2 s = (c.wake p.2 s).modifyLink l f := by
      rw [wake_eq_prompt, wake_eq_prompt]
      rfl
    exact (congrArg (fun c => ps.foldl _ c) swap).trans ih

/-- Giving up requests and another change of the link can be swapped. -/
theorem failPending_modifyLink {f : Link → Link} (reason : Ending)
    (keeps : ∀ k, (f k).pending = k.pending)
    (swaps : ∀ k, f { k with pending := [] } = { f k with pending := [] }) :
    (c.modifyLink l f).failPending l reason = (c.failPending l reason).modifyLink l f := by
  have same : ((c.modifyLink l f).link l).pending = (c.link l).pending :=
    link_modifyLink_same Link.pending keeps
  rw [failPending, failPending, same, ← foldl_wake_modifyLink, modifyLink_modifyLink,
    modifyLink_modifyLink]
  congr 2
  exact funext fun k => (swaps k).symm

/-! ## The end of a listener -/

/-- Those who wait for the end of a listener are told when it has ended. -/
theorem path_tellEnd (task : x.task = .listener l) (done : x.IsDone)
    (ceased : (c.link l).listener.phase = .done) :
    Path hit c (some x) []
      (c.wakeTeardowns (fun t => t.link == l && t.stage = .listener) .go) none := by
  refine (path_wakeTeardowns _).last (.leaves done ?_ (.inl ⟨l, task, ?_⟩))
  · rintro t u teardown (⟨e, first⟩ | ⟨⟨k, e, -⟩, -⟩)
    · obtain rfl : l = u.link := by simpa [task] using e
      exact told_wakeTeardowns teardown (by simp [first])
    · simp [task] at e
  · obtain ⟨ts, e⟩ := wakeTeardowns_frame (c := c) (s := .go)
      fun t => t.link == l && t.stage = .listener
    rw [e]
    exact ceased

theorem path_halt (task : x.task = .listener l) (done : x.IsDone) (here : l < c.links.length)
    (clear : (c.link l).pending = []) (same : crash = (c.link l).crash ∨ crash.isSome)
    (why : c.MayHalt l crash) :
    Path hit c (some x) [] ((c.haltListener l crash).wakeTeardowns
      (fun t => t.link == l && t.stage = .listener) .go) none :=
  .step (.halts task clear same why) (path_tellEnd task done
    (congrArg (·.listener.phase) (link_modifyLink_self here _)))

theorem endListener_eq : c.endListener l =
    (c.haltListener l (c.link l).crash).wakeTeardowns
      (fun t => t.link == l && t.stage = .listener) .go := by
  rw [endListener, setListener, haltListener]
  rw [modifyLink_congr (f := fun k => { k with listener := ⟨.done, none⟩ })
    (g := fun k => { k with listener := ⟨.done, none⟩, crash := (c.link l).crash }) rfl]

theorem path_endListener (task : x.task = .listener l) (done : x.IsDone)
    (here : l < c.links.length) (clear : (c.link l).pending = [])
    (why : c.MayHalt l (c.link l).crash) :
    Path hit c (some x) [] (c.endListener l) none := by
  rw [endListener_eq]
  exact path_halt task done here clear (.inl rfl) why

theorem mayHalt_failPending {reason : Ending} :
    (c.failPending l reason).MayHalt l crash ↔ c.MayHalt l crash := by
  obtain ⟨as, ks, ts, e⟩ := failPending_frame (c := c) (l := l) reason
  have same {g : Link → Bool} (h : ∀ k, g { k with pending := [] } = g k) :
      g ((c.failPending l reason).link l) = g (c.link l) := by
    rw [link_failPending, link_modifyLink_same g h]
  unfold MayHalt
  rw [same (g := Link.closed) fun _ => rfl, same (g := Link.shuttingDown) fun _ => rfl,
    same (g := Link.superseded) fun _ => rfl, e]
  rfl

/-- What becomes of an activity that listens. -/
def Turn.after : Turn → Doer → Option Doer
  | .first, _ => none
  | .later, x => some x

/-- The activity listens to a link, in its own turn or as a call. -/
def Listens (turn : Turn) (l : Nat) (x : Doer) : Prop :=
  match turn with
  | .first => x.task = .listener l ∧ x.IsDone
  | .later => x.role.errand = .listens

theorem Listens.hears {turn : Turn} (listens : Listens turn l x) : Hears (some x) l := by
  cases turn with
  | first => exact ⟨x, rfl, .inl listens.1⟩
  | later => exact ⟨x, rfl, .inr listens⟩

theorem path_stopListening {turn : Turn} (reason : Ending) (listens : Listens turn l x)
    (idle : x.IsFree) (here : l < c.links.length)
    (why : c.MayHalt l (c.link l).crash) :
    Path hit c (some x) [] (c.stopListening l turn reason) (turn.after x) := by
  have failed : Path hit c (some x) [] (c.failPending l reason) (some x) :=
    path_failPending (by rintro _ ⟨⟩; exact idle)
  cases turn with
  | first =>
    refine failed.next (path_endListener listens.1 listens.2 ?_ (pending_failPending _) ?_)
    · rwa [links_length_failPending]
    · exact mayHalt_failPending.mpr (by
        rwa [link_failPending, link_modifyLink_self here])
  | later =>
    have e : (c.failPending l reason).modifyLink l (fun k => { k with superseded := true }) =
        (c.failPending l reason).supersede l ((c.failPending l reason).link l).crash :=
      modifyLink_congr rfl
    rw [stopListening, e]
    exact failed.last (.supersedes listens (pending_failPending _))

/-- A listener that was superseded keeps what a later one ended on. -/
theorem crashListening_first {fault : Json.Misuse} (here : l < c.links.length) :
    c.crashListening l .first fault =
      ((c.failPending l .deliberate).haltListener l
        (if ((c.failPending l .deliberate).link l).superseded then
          ((c.failPending l .deliberate).link l).crash else some fault)).wakeTeardowns
        (fun t => t.link == l && t.stage = .listener) .go := by
  have here' : l < (c.failPending l .deliberate).links.length := by
    rwa [links_length_failPending]
  have e : c.crashListening l .first fault = ((c.failPending l .deliberate).modifyLink l fun k =>
      if k.superseded then k else { k with crash := some fault }).endListener l := by
    rw [← failPending_modifyLink _ (fun k => by split <;> rfl) fun k => by dsimp only; split <;> rfl]
    simp [crashListening, stopListening]
  have halt (r : Option Json.Misuse) : ((c.failPending l .deliberate).modifyLink l fun k =>
      if k.superseded then k else { k with crash := some fault }).haltListener l r =
        (c.failPending l .deliberate).haltListener l r := by
    rw [haltListener, haltListener, modifyLink_modifyLink]
    congr 1
    funext k
    cases h : k.superseded <;> simp [h]
  rw [e, endListener_eq, halt, link_modifyLink_self here', apply_ite Link.crash]

theorem crashListening_later {fault : Json.Misuse} :
    c.crashListening l .later fault =
      (c.failPending l .deliberate).supersede l (some fault) := by
  have e : c.crashListening l .later fault = ((c.failPending l .deliberate).modifyLink l fun k =>
      { k with crash := some fault }).modifyLink l fun k => { k with superseded := true } := by
    rw [← failPending_modifyLink (f := fun k => { k with crash := some fault }) _ (fun _ => rfl)
      fun _ => rfl]
    simp [crashListening, stopListening]
  rw [e, modifyLink_modifyLink]
  rfl

theorem path_crashListening {turn : Turn} {fault : Json.Misuse} (listens : Listens turn l x)
    (idle : x.IsFree) (here : l < c.links.length) :
    Path hit c (some x) [] (c.crashListening l turn fault) (turn.after x) := by
  have failed : Path hit c (some x) [] (c.failPending l .deliberate) (some x) :=
    path_failPending (by rintro _ ⟨⟩; exact idle)
  cases turn with
  | first =>
    rw [crashListening_first here]
    refine failed.next (path_halt listens.1 listens.2 ?_ (pending_failPending _) ?_ ?_)
    · rwa [links_length_failPending]
    · split
      · exact .inl rfl
      · exact .inr rfl
    · split
      · next superseded => exact .inr (.inr (.inl superseded))
      · exact .inr (.inr (.inr (.inl rfl)))
  | later =>
    rw [crashListening_later]
    exact failed.last (.supersedes listens (pending_failPending _))

/-! ## Messages -/

theorem path_handleNotification {m : Json} : Path hit c d [] (c.handleNotification l m) d := by
  unfold handleNotification
  split
  · exact path_log _ _
  · exact .one (.shows rfl)
  · exact .nil c d

theorem path_rejectRequest {id method : Json} (hears : Hears d l) :
    Path hit c d [] (c.rejectRequest l id method) d := by
  refine .next (path_log .debug ("[" ++ c.id ++ "] Rejecting server request " ++ method.plain)) ?_
  unfold rejectRequest
  dsimp only
  generalize c.log .debug _ = c'
  have wrote : Path hit c' d [] (c'.write l (rejection id method)).1 d :=
    path_write (.rejects hears id method)
  split
  · next e => rw [e] at wrote; exact wrote
  · next e => rw [e] at wrote; exact wrote.next (path_log _ _)

/-- The request that a response takes off the list while whoever waits for it is told
nothing: its error is neither null nor an object. -/
def lossOfResponse (c : Client) (l : Nat) (id : Json) (ms : Json.Members) : Option Loss :=
  match id.asKey, pendingOf? (c.link l) id, responseOutcome ms with
  | .ok _, some (n, t), .error _ => if c.isTold t then none else some ⟨l, n, t⟩
  | _, _, _ => none

/-- The request that a message takes off the list without an answer. -/
def lossOf (c : Client) (l : Nat) (m : Json) : Option Loss :=
  match Incoming.ofJson m with
  | .ok (.response id ms) => c.lossOfResponse l id ms
  | _ => none

theorem reply_of_responseOutcome {ms : Json.Members} {o : Outcome}
    (h : responseOutcome ms = .ok o) : o.isReply := by
  unfold responseOutcome at h
  split at h
  · obtain rfl := Except.ok.inj h
    rfl
  · split at h
    · simp at h
    · obtain rfl := Except.ok.inj h
      rfl

theorem mem_of_pendingOf? {k : Link} {j : Json} (h : pendingOf? k j = some (id, t)) :
    (id, t) ∈ k.pending :=
  List.mem_of_find?_eq_some h

theorem isTold_forget : (c.forget l id).isTold t = c.isTold t := by
  cases t <;> rfl

theorem path_handleResponse {id : Json} {ms : Json.Members} (idle : IsIdle d)
    (hears : Hears d l) :
    Path hit c d (c.lossOfResponse l id ms).toList (c.handleResponse l id ms).1 d := by
  unfold handleResponse lossOfResponse
  cases key : id.asKey with
  | error fault =>
    dsimp only
    split
    · exact path_log _ _
    · exact .nil c d
  | ok _ =>
    cases found : pendingOf? (c.link l) id with
    | none => exact path_log _ _
    | some p =>
      obtain ⟨n, t⟩ := p
      have pending := mem_of_pendingOf? found
      dsimp only
      rw [isTold_forget]
      cases told : c.isTold t with
      | true =>
        have dropped : Path hit c d [] ((c.forget l n).dropResponse id) d :=
          .step (.drops idle hears pending told) (path_log _ _)
        cases responseOutcome ms <;> simpa [told] using dropped
      | false =>
        cases o : responseOutcome ms with
        | ok o' =>
          rw [if_neg (by simp)]
          dsimp only
          rw [wake_eq_prompt]
          exact .one (.answers idle hears pending told (reply_of_responseOutcome o))
        | error fault =>
          simp only [told, Bool.false_eq_true, if_false]
          exact .loses idle pending told (.nil _ d)

theorem path_dispatch {m : Json} (idle : IsIdle d) (hears : Hears d l) :
    Path hit c d (c.lossOf l m).toList (c.dispatch l m).1 d := by
  unfold dispatch lossOf
  cases h : Incoming.ofJson m with
  | error fault => exact .nil c d
  | ok incoming =>
    cases incoming with
    | response id ms => exact path_handleResponse idle hears
    | notification m => exact path_handleNotification
    | request id method => exact path_rejectRequest hears

/-- What ends a listener is the one message that loses a request. -/
theorem lossOf_of_dispatch {m : Json} (h : c.dispatch l m = (c₁, none)) : c.lossOf l m = none := by
  unfold dispatch at h
  unfold lossOf
  split at h
  · simp at h
  · next id ms e =>
    rw [e]
    simp only [handleResponse, lossOfResponse, isTold_forget] at h ⊢
    grind
  · next e => rw [e]
  · next e => rw [e]

theorem phase_dispatch {m : Json} :
    ((c.dispatch l m).1.link k).listener.phase = (c.link k).listener.phase := by
  have forgot {id : Nat} : ((c.forget l id).link k).listener.phase = (c.link k).listener.phase :=
    link_modifyLink_same (·.listener.phase) fun _ => rfl
  unfold dispatch
  split
  · rfl
  · unfold handleResponse
    split
    · split <;> rfl
    · split
      · rfl
      · dsimp only
        split
        · exact forgot
        · split
          · rw [wake_eq_prompt]
            exact forgot
          · exact forgot
  · unfold handleNotification
    split <;> rfl
  · next id method _ =>
    have wrote := link_write (l := l) (k := k) (m := rejection id method)
      (c := c.log .debug ("[" ++ c.id ++ "] Rejecting server request " ++ method.plain))
      (·.listener.phase) (fun _ _ => rfl) fun _ _ => rfl
    unfold rejectRequest
    dsimp only
    split
    · next e =>
      rw [e] at wrote
      exact wrote
    · next e =>
      rw [e] at wrote
      exact wrote

/-! ## The end of a stream -/

section Announcing

variable (hears : Hears d l) (up : (c.link l).closed = false)
  (sudden : (c.link l).shuttingDown = false)

include hears up sudden

theorem path_giveUp (who : c.audience = .client) : Path hit c d [] c.giveUp d := by
  unfold giveUp
  split
  · next k held =>
    dsimp only
    split
    · have struck : Path hit c d [] (c.kill k).1 d := path_kill (.inl held)
      have same {g : Link → Bool} (process : ∀ (k : Link) p, g { k with process := p } = g k)
          (signal : ∀ (k : Link) s, g { k with listener := ⟨k.listener.phase, s⟩ } = g k)
          (drain : ∀ (k : Link) w, g { k with drain := w } = g k) :
          g ((c.kill k).1.link l) = g (c.link l) := link_kill g process signal drain
      exact struck.last (.givesUp hears (struck.audience_eq.trans who)
        ((same (g := Link.closed) (fun _ _ => rfl) (fun _ _ => rfl) fun _ _ => rfl).trans up)
        ((same (g := Link.shuttingDown) (fun _ _ => rfl) (fun _ _ => rfl) fun _ _ => rfl).trans
          sudden))
    · exact .one (.givesUp hears who up sudden)
  · exact .one (.givesUp hears who up sudden)

theorem path_announceFault {f : Wire.Fault} : Path hit c d [] (c.announceFault l f) d := by
  unfold announceFault
  split
  · next who => exact (path_log _ _).next (path_giveUp hears up sudden who)
  · exact .one (.shows rfl)
  · exact .nil c d

theorem path_announceEnd : Path hit c d [] (c.announceEnd l) d := by
  unfold announceEnd
  split
  · next who => exact (path_log _ _).next (path_giveUp hears up sudden who)
  · exact .one (.shows rfl)
  · exact .nil c d

end Announcing

/-- The client is told of the end of a stream, if anybody is. -/
theorem known_announceFault {f : Wire.Fault} :
    (c.announceFault l f).audience ≠ .client ∨ (c.announceFault l f).state = .failed := by
  unfold announceFault
  split
  · exact .inr rfl
  · next h => exact .inl (by simp [event, emit, h])
  · next h => exact .inl (by simp [h])

theorem known_announceEnd :
    (c.announceEnd l).audience ≠ .client ∨ (c.announceEnd l).state = .failed := by
  unfold announceEnd
  split
  · exact .inr rfl
  · next h => exact .inl (by simp [event, emit, h])
  · next h => exact .inl (by simp [h])

theorem path_setOutput {rest : List UInt8} : Path hit c d [] (c.setOutput l rest) d :=
  path_flow _ fun _ => ⟨rfl, rfl⟩

/-- The request that is lost while a listener takes messages, if there is one. -/
def lossFrom (l : Nat) (turn : Turn) : Nat → Wire.Reading → Client → Option Loss
  | 0, _, _ => none
  | fuel + 1, reading, c =>
    match Wire.next (c.process l).output reading with
    | .message m rest =>
      match (c.setOutput l rest).dispatch l m with
      | (c₁, none) => if (c₁.link l).closed then none else lossFrom l turn fuel .start c₁
      | (_, some _) => (c.setOutput l rest).lossOf l m
    | _ => none

section Listens

variable {turn : Turn} (listens : Listens turn l x) (idle : x.IsFree)

include listens idle

theorem path_stopAfter {reason : Ending} {announce : Client → Client}
    (path : (c.link l).closed = false → (c.link l).shuttingDown = false →
      Path hit c (some x) [] (announce c) (some x))
    (known : (announce c).audience ≠ .client ∨ (announce c).state = .failed)
    (here : l < c.links.length) :
    Path hit c (some x) [] (c.stopAfter l turn reason announce) (turn.after x) := by
  unfold stopAfter
  dsimp only
  split
  · next expected =>
    refine path_stopListening _ listens idle here ?_
    rcases (Bool.or_eq_true _ _).mp expected with closed | ending
    · exact .inl closed
    · exact .inr (.inl ending)
  · next sudden =>
    obtain ⟨up, sudden⟩ : (c.link l).closed = false ∧ (c.link l).shuttingDown = false := by
      simpa using sudden
    refine (path up sudden).next (path_stopListening _ listens idle ?_ ?_)
    · exact Nat.lt_of_lt_of_le here (path up sudden).links_le
    · exact .inr (.inr (.inr (.inr known)))

theorem path_stopAfterFault {f : Wire.Fault} (here : l < c.links.length) :
    Path hit c (some x) [] (c.stopAfterFault l turn f) (turn.after x) :=
  path_stopAfter listens idle (fun up sudden => path_announceFault listens.hears up sudden)
    known_announceFault here

theorem path_listen {fuel : Nat} {reading : Wire.Reading} (here : l < c.links.length)
    (go : turn = .first → x.signal ≠ .cancelled ∧ (c.link l).listener.phase = .running) :
    Path hit c (some x) (lossFrom l turn fuel reading c).toList (listen l turn fuel reading c)
      (turn.after x) := by
  have pause {c' : Client} {r : Wire.Reading} (first : turn = .first) (signal : x.signal ≠ .cancelled)
      (runs : (c'.link l).listener.phase = .running) :
      Path hit c' (some x) [] (c'.pauseListening l r) (turn.after x) := by
    subst first
    rw [pauseListening, setListener, modifyLink_modifyLink]
    exact .one (.rests listens.1 listens.2 signal runs r)
  induction fuel generalizing reading c with
  | zero =>
    unfold listen lossFrom
    split
    · next first => exact pause first (go first).1 (go first).2
    · next later =>
      cases turn with
      | first => exact absurd rfl later
      | later => exact .nil c (some x)
  | succ fuel ih =>
    have taken (rest : List UInt8) : Path hit c (some x) [] (c.setOutput l rest) (some x) :=
      path_setOutput
    have here' (rest : List UInt8) : l < (c.setOutput l rest).links.length :=
      Nat.lt_of_lt_of_le here (taken rest).links_le
    have runs (rest : List UInt8) : ((c.setOutput l rest).link l).listener.phase =
        (c.link l).listener.phase := link_modifyLink_same (·.listener.phase) fun _ => rfl
    unfold listen lossFrom
    cases received : Wire.next (c.process l).output reading with
    | unfinished reading' rest =>
      refine (taken rest).next ?_
      cases turn with
      | first => exact pause rfl (go rfl).1 ((runs rest).trans (go rfl).2)
      | later => exact path_stopAfterFault listens idle (here' rest)
    | fault f rest => exact (taken rest).next (path_stopAfterFault listens idle (here' rest))
    | ended rest =>
      exact (taken rest).next (path_stopAfter listens idle
        (fun up sudden => path_announceEnd listens.hears up sudden) known_announceEnd (here' rest))
    | message m rest =>
      have handled := (taken rest).next (path_dispatch (l := l) (m := m)
        (by rintro _ ⟨⟩; exact idle) listens.hears)
      rcases e : (c.setOutput l rest).dispatch l m with ⟨c₁, _ | fault⟩
      · rw [lossOf_of_dispatch e, e] at handled
        have here₁ : l < c₁.links.length := Nat.lt_of_lt_of_le here handled.links_le
        simp only [e]
        split
        · next closed => exact handled.next (path_stopListening _ listens idle here₁ (.inl closed))
        · refine handled.next (ih here₁ fun first => ⟨(go first).1, ?_⟩)
          have same := phase_dispatch (c := c.setOutput l rest) (l := l) (k := l) (m := m)
          rw [e] at same
          exact (same.trans (runs rest)).trans (go first).2
      · rw [e] at handled
        have here₁ : l < c₁.links.length := Nat.lt_of_lt_of_le here handled.links_le
        simpa [e] using handled.trans (path_crashListening listens idle here₁)

end Listens

/-! ## The turn of a listener -/

/-- The request that is lost while a listener takes all that has arrived. -/
def lossOfFeed (c : Client) (l : Nat) (turn : Turn) (reading : Wire.Reading) : Option Loss :=
  lossFrom l turn ((c.process l).output.buffer.length + 1) reading c

/-- The request that is lost when a listener begins. -/
def lossOfBegin (c : Client) (l : Nat) (turn : Turn) : Option Loss :=
  if (c.link l).closed then none else c.lossOfFeed l turn .start

/-- The request that is lost in the turn of a listener. -/
def lossOfListener (c : Client) (l : Nat) : Option Loss :=
  match (c.link l).listener with
  | ⟨_, some .cancelled⟩ => none
  | ⟨.fresh, _⟩ => (c.setListener l .running).lossOfBegin l .first
  | _ => (c.setListener l .running).lossOfFeed l .first (c.link l).reading

/-- The request that is lost when a call starts to listen. -/
def lossOfStart (c : Client) (l : Nat) : Option Loss :=
  match (c.link l).listener.phase with
  | .waiting => (c.renewListener l).lossOfBegin l .later
  | _ => none

theorem path_beginListening {turn : Turn} (listens : Listens turn l x)
    (idle : x.IsFree) (here : l < c.links.length)
    (go : turn = .first → x.signal ≠ .cancelled ∧ (c.link l).listener.phase = .running) :
    Path hit c (some x) (c.lossOfBegin l turn).toList (c.beginListening l turn) (turn.after x) := by
  unfold beginListening lossOfBegin
  split
  · next closed => exact path_stopListening _ listens idle here (.inl closed)
  · exact path_listen listens idle here go

theorem stopListening_setListener {p : WatcherPhase} {reason : Ending} :
    (c.setListener l p).stopListening l .first reason = c.stopListening l .first reason := by
  have swap := failPending_modifyLink (c := c) (l := l)
    (f := fun k => { k with listener := ⟨p, none⟩ }) reason (fun _ => rfl) fun _ => rfl
  rw [stopListening, stopListening, setListener, swap, endListener, endListener, setListener,
    setListener, modifyLink_modifyLink]
  rfl

/-- A listener in its turn. One that is cancelled belongs to a closed connection. -/
theorem path_runListener {p : WatcherPhase} (told : (c.link l).listener = ⟨p, some s⟩)
    (pending : p.isPending) (shut : s = .cancelled → (c.link l).closed) :
    Path hit (c.setListener l (if p = .fresh ∧ s = .cancelled then .done else .running))
      (some (.ofTurn (.listener l) s .idle found)) (c.lossOfListener l).toList (c.runListener l)
      none := by
  have here : l < c.links.length := by
    refine Nat.lt_of_not_le fun hl => ?_
    rw [link_of_le hl] at told
    exact absurd (congrArg Watcher.signal told) nofun
  have here' (q : WatcherPhase) : l < (c.setListener l q).links.length := by
    rwa [setListener, links_length_modifyLink]
  have first : Listens .first l (.ofTurn (.listener l) s .idle found) :=
    ⟨rfl, rfl, rfl, rfl, by cases s <;> rfl⟩
  by_cases cancelled : s = .cancelled
  · subst cancelled
    have none' : c.lossOfListener l = none := by simp [lossOfListener, told]
    rw [none', runListener, told]
    cases p with
    | fresh =>
      exact path_tellEnd rfl first.2 (congrArg (·.listener.phase) (link_modifyLink_self here _))
    | waiting =>
      have closed : ((c.setListener l .running).link l).closed := by
        rw [setListener, link_modifyLink_self here]
        exact shut rfl
      have stop : Path hit _ (some (.ofTurn (.listener l) .cancelled .idle found)) [] _ none :=
        path_stopListening .deliberate first first.2.isFree (here' .running) (.inl closed)
      rwa [stopListening_setListener] at stop
    | _ => cases pending
  · have go : (.ofTurn (.listener l) s .idle found : Doer).signal ≠ .cancelled := cancelled
    have runs : ((c.setListener l .running).link l).listener.phase = .running :=
      congrArg (·.listener.phase) (link_modifyLink_self here _)
    rw [if_neg (by simp [cancelled])]
    unfold lossOfListener runListener
    dsimp only
    rw [told]
    cases p with
    | fresh =>
      cases s <;> first
        | exact absurd rfl cancelled
        | exact path_beginListening first first.2.isFree (here' _) fun _ => ⟨go, runs⟩
    | waiting =>
      cases s <;> first
        | exact absurd rfl cancelled
        | exact path_listen first first.2.isFree (here' _) fun _ => ⟨go, runs⟩
    | _ => cases pending

theorem path_startListening (task : x.task = .call n) (listens : x.role.errand = .listens)
    (idle : x.IsFree) (here : l < c.links.length) :
    Path hit c (some x) (c.lossOfStart l).toList (c.startListening l) (some x) := by
  have later : Listens .later l x := listens
  unfold startListening lossOfStart
  cases phase : (c.link l).listener.phase with
  | fresh => exact .nil c (some x)
  | waiting =>
    refine .step (.renews listens phase) ?_
    refine path_beginListening later idle ?_ nofun
    rwa [renewListener, links_length_modifyLink]
  | _ => exact .one (.restarts task listens here (by rw [phase]; rfl))

/-! ## Standard error -/

theorem path_endDrain (task : x.task = .drain l) (done : x.IsDone) (here : l < c.links.length) :
    Path hit c (some x) [] (c.endDrain l) none := by
  refine .step (.drainEnds task) ((path_wakeTeardowns _).last (.leaves done ?_ (.inr ⟨l, task, ?_⟩)))
  · rintro t u teardown (⟨e, -⟩ | ⟨⟨k, e, drain⟩, last⟩)
    · simp [task] at e
    · obtain rfl : l = k := by simpa [task] using e
      exact told_wakeTeardowns teardown (by simp [drain, last])
  · obtain ⟨ts, e⟩ := wakeTeardowns_frame (c := c.setDrain l .done) (s := .go)
      fun t => t.drain == some l && t.stage = .drain
    rw [e]
    exact congrArg (·.drain.phase) (link_modifyLink_self here _)

theorem path_readErrors {fuel : Nat} (task : x.task = .drain l) (done : x.IsDone)
    (go : x.signal ≠ .cancelled) (here : l < c.links.length) :
    Path hit c (some x) [] (readErrors l fuel c) none := by
  induction fuel generalizing c with
  | zero => exact .one (.drainRests task done go)
  | succ fuel ih =>
    have taken (rest : List UInt8) : Path hit c (some x) [] (c.setErrors l rest) (some x) :=
      path_flow _ fun _ => ⟨rfl, rfl⟩
    have logged (rest : List UInt8) (level : Log.Level) (text : String) :
        Path hit c (some x) [] ((c.setErrors l rest).log level text) (some x) :=
      (taken rest).next (path_log level text)
    unfold readErrors
    cases Wire.readLine (c.process l).errors with
    | unfinished => exact .one (.drainRests task done go)
    | ended => exact path_endDrain task done here
    | fault f rest =>
      exact (logged rest _ _).next (path_endDrain task done
        (Nat.lt_of_lt_of_le here (logged rest _ _).links_le))
    | line line rest =>
      exact (logged rest _ _).next (ih (Nat.lt_of_lt_of_le here (logged rest _ _).links_le))

theorem path_runDrain {p : WatcherPhase} (told : (c.link l).drain = ⟨p, some s⟩) :
    Path hit (c.setDrain l .running) (some (.ofTurn (.drain l) s .idle found)) [] (c.runDrain l)
      none := by
  have here : l < c.links.length := by
    refine Nat.lt_of_not_le fun hl => ?_
    rw [link_of_le hl] at told
    exact absurd (congrArg Watcher.signal told) nofun
  have here' : l < (c.setDrain l .running).links.length := by
    rwa [setDrain, links_length_modifyLink]
  have done : (Doer.ofTurn (.drain l) s .idle found).IsDone := ⟨rfl, rfl, rfl, by cases s <;> rfl⟩
  unfold runDrain
  rw [told]
  by_cases cancelled : s = .cancelled
  · subst cancelled
    have stop : Path hit (c.setDrain l .running)
        (some (.ofTurn (.drain l) .cancelled .idle found)) []
        ((c.setDrain l .running).endDrain l) none := path_endDrain rfl done here'
    rwa [endDrain, setDrain, setDrain, modifyLink_modifyLink] at stop
  · have go : (.ofTurn (.drain l) s .idle found : Doer).signal ≠ .cancelled := cancelled
    cases s <;> first
      | exact absurd rfl cancelled
      | exact path_readErrors rfl done go here'

end LspGateway.Client
