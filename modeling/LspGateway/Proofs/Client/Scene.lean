import LspGateway.Proofs.Client.Hearing
import LspGateway.Proofs.Wire.Pieces

/-! # What is to be seen of a connection

The scene of a connection is what others can tell of it: what it has shown, which
requests are pending, how each call ends, and whether it is still listened to. It
leaves out what has arrived and was not taken, and which calls have had their turn.
What a message does to the scene depends on the scene alone.
-/

namespace LspGateway.Client

variable {c x y : Client} {n id : Nat} {t : Task} {o p : Outcome} {m : Json}
  {f g : Link → Link}

/-! ## The scene -/

/-- A fault in an outcome with one text for every line that is too long. -/
def Outcome.merged : Outcome → Outcome
  | .error (.ended (.fault f)) => .error (.ended (.fault f.merged))
  | o => o

/-- An output as far as it is to be seen: the ends of calls are seen in the calls. -/
def Output.shown : Output → Option Output
  | .finished _ _ => none
  | .event spawn (.broke f) => some (.event spawn (.broke f.merged))
  | o => some o

/-- What becomes of a call in its turn, if it was told an answer and sends nothing more. -/
def Call.settled (k : Call) : Call :=
  match k.phase, k.signal with
  | .awaiting _ _ [], some (.answered o) => ⟨.done o.merged, none⟩
  | .done o, s => ⟨.done o.merged, s⟩
  | _, _ => k

/-- A watcher in its turn is one that waits. -/
def WatcherPhase.settled : WatcherPhase → WatcherPhase
  | .running => .waiting
  | p => p

/-- What is to be seen of a link. -/
structure Prospect where
  spawn : Nat
  inputFault : Option InputFault
  listener : WatcherPhase
  drain : Watcher
  crash : Option Json.Misuse
  closed : Bool
  shuttingDown : Bool
  superseded : Bool
  pending : List (Nat × Task)

def Link.prospect (k : Link) : Prospect :=
  ⟨k.spawn, k.process.inputFault, k.listener.phase.settled, k.drain, k.crash, k.closed,
    k.shuttingDown, k.superseded, k.pending⟩

/-- What is to be seen of a connection. -/
structure Scene where
  config : ServerConfig
  audience : Audience
  link : Prospect
  calls : List Call
  outputs : List Output

/-- The scene of a client with one link. -/
def scene (c : Client) : Scene :=
  ⟨c.config, c.audience, (c.link 0).prospect, c.calls.map .settled, c.history.filterMap Output.shown⟩

/-- A call that has ended, or that waits for an answer and sends nothing afterwards. -/
inductive Call.Quiet : Call → Prop
  | done (o : Outcome) : Call.Quiet ⟨.done o, none⟩
  | waits (id : Nat) : Call.Quiet ⟨.awaiting 0 id [], none⟩
  | told (id : Nat) (o : Outcome) : Call.Quiet ⟨.awaiting 0 id [], some (.answered o)⟩

/-- A mere connection of which nothing goes on but listening. -/
structure Apt (c : Client) : Prop where
  one : c.links.length = 1
  alone : c.attempts = []
  observed : c.audience ≠ .client
  quiet : ∀ k ∈ c.calls, k.Quiet
  /-- Who waits for an answer was told nothing. -/
  waits : ∀ p ∈ (c.link 0).pending, ∃ n, p.2 = .call n ∧
    c.calls[n]? = some ⟨.awaiting 0 p.1 [], none⟩
  /-- Nobody reads standard error. -/
  drain : (c.link 0).drain.signal = none

theorem Apt.here (h : Apt c) : 0 < c.links.length := by
  rw [h.one]
  exact Nat.one_pos

/-- Two connections that look the same. -/
structure Alike (x y : Client) : Prop where
  left : Apt x
  right : Apt y
  same : x.scene = y.scene

namespace Alike

variable (h : Alike x y)

theorem refl (h : Apt c) : Alike c c := ⟨h, h, rfl⟩

include h

theorem symm : Alike y x := ⟨h.right, h.left, h.same.symm⟩

theorem trans {z : Client} (h' : Alike y z) : Alike x z := ⟨h.left, h'.right, h.same.trans h'.same⟩

theorem config : x.config = y.config := congrArg Scene.config h.same

theorem audience : x.audience = y.audience := congrArg Scene.audience h.same

theorem prospect : (x.link 0).prospect = (y.link 0).prospect := congrArg Scene.link h.same

theorem spawn : (x.link 0).spawn = (y.link 0).spawn := congrArg Prospect.spawn h.prospect

theorem pending : (x.link 0).pending = (y.link 0).pending := congrArg Prospect.pending h.prospect

theorem closed : (x.link 0).closed = (y.link 0).closed := congrArg Prospect.closed h.prospect

theorem superseded : (x.link 0).superseded = (y.link 0).superseded :=
  congrArg Prospect.superseded h.prospect

theorem shuttingDown : (x.link 0).shuttingDown = (y.link 0).shuttingDown :=
  congrArg Prospect.shuttingDown h.prospect

theorem listener : (x.link 0).listener.phase.settled = (y.link 0).listener.phase.settled :=
  congrArg Prospect.listener h.prospect

theorem id_eq : x.id = y.id := congrArg ServerConfig.id h.config

end Alike

theorem Alike.ready (h : Alike x y) (ts : List Task) : Alike { x with ready := ts } y :=
  ⟨⟨h.left.1, h.left.2, h.left.3, h.left.4, h.left.5, h.left.6⟩, h.right, h.same⟩

/-! ## Showing -/

theorem scene_emit (o : Output) :
    (c.emit o).scene = { c.scene with outputs := o.shown.toList ++ c.scene.outputs } := by
  cases h : o.shown <;> simp [scene, emit, h, link]

theorem Apt.emit (h : Apt c) (o : Output) : Apt (c.emit o) := ⟨h.1, h.2, h.3, h.4, h.5, h.6⟩

theorem Alike.emit (h : Alike x y) {o p : Output} (same : o.shown = p.shown) :
    Alike (x.emit o) (y.emit p) :=
  ⟨h.left.emit o, h.right.emit p, by rw [scene_emit, scene_emit, h.same, same]⟩

theorem Alike.log (h : Alike x y) (level : Log.Level) (text : String) :
    Alike (x.log level text) (y.log level text) :=
  h.emit rfl

theorem Alike.event (h : Alike x y) (e : Event) : Alike (x.event 0 e) (y.event 0 e) := by
  refine h.emit ?_
  rw [h.spawn]

/-! ## Changes of the link -/

theorem scene_modifyLink (here : 0 < c.links.length) :
    (c.modifyLink 0 f).scene = { c.scene with link := (f (c.link 0)).prospect } := by
  simp only [scene, link_modifyLink_self here]
  rfl

/-- A change of the link after which no more requests are pending. -/
theorem Apt.modifyLink (h : Apt c) (sub : (f (c.link 0)).pending ⊆ (c.link 0).pending)
    (drain : (f (c.link 0)).drain = (c.link 0).drain) : Apt (c.modifyLink 0 f) where
  one := by rw [links_length_modifyLink, h.one]
  alone := h.alone
  observed := h.observed
  quiet := h.quiet
  waits p mem := by
    rw [link_modifyLink_self h.here] at mem
    exact h.waits p (sub mem)
  drain := by rw [link_modifyLink_self h.here, drain, h.drain]

/-- A change of what is to be seen that depends on that alone. -/
theorem Alike.modifyLink (h : Alike x y) (F : Prospect → Prospect)
    (eq : ∀ k, (f k).prospect = F k.prospect) (sub : ∀ k, (f k).pending ⊆ k.pending)
    (drain : ∀ k, (f k).drain = k.drain) : Alike (x.modifyLink 0 f) (y.modifyLink 0 f) := by
  refine ⟨h.left.modifyLink (sub _) (drain _), h.right.modifyLink (sub _) (drain _), ?_⟩
  rw [scene_modifyLink h.left.here, scene_modifyLink h.right.here, h.same, eq, eq, h.prospect]

/-- A change of nothing that is to be seen. -/
theorem Alike.modify_left (h : Alike x y) (eq : (f (x.link 0)).prospect = (x.link 0).prospect) :
    Alike (x.modifyLink 0 f) y := by
  have pending : (f (x.link 0)).pending = (x.link 0).pending := congrArg Prospect.pending eq
  have sub : (f (x.link 0)).pending ⊆ (x.link 0).pending := by
    rw [pending]
    exact List.Subset.refl _
  refine ⟨h.left.modifyLink sub (congrArg Prospect.drain eq), h.right, ?_⟩
  rw [scene_modifyLink h.left.here, eq, ← h.same]
  rfl

/-! ## Telling calls -/

/-- What becomes of a call that is told an answer. -/
def Call.tell (o : Outcome) (k : Call) : Call :=
  match k.phase with
  | .awaiting _ _ [] => ⟨.done o.merged, none⟩
  | _ => k

/-- What becomes of the calls when one is told an answer. -/
def tellTask (o : Outcome) (t : Task) (ks : List Call) : List Call :=
  match t with
  | .call n => ks.modify n (.tell o)
  | _ => ks

theorem tellTask_congr (same : o.merged = p.merged) : tellTask o = tellTask p := by
  funext t ks
  have tell : Call.tell o = Call.tell p := by
    funext k
    rw [Call.tell, Call.tell, same]
  cases t with
  | call n => exact congrArg (ks.modify n) tell
  | _ => rfl

namespace Call.Quiet

variable {k : Call} (h : k.Quiet)
include h

theorem settled_prompt : (k.prompt (.answered o)).settled = k.settled.tell o := by
  cases h <;> rfl

theorem prompt : (k.prompt (.answered o)).Quiet := by
  cases h with
  | done o' => exact .done o'
  | waits id => exact .told id o
  | told id o' => exact .told id o'

theorem teardown : k.phase.teardown? = none := by
  cases h <;> rfl

end Call.Quiet

theorem calls_prompt : (c.prompt t (.answered o)).calls =
    match t with
    | .call n => c.calls.modify n (.prompt (.answered o))
    | _ => c.calls := rfl

theorem scene_wake (quiet : ∀ k ∈ c.calls, k.Quiet) :
    (c.wake t (.answered o)).scene = { c.scene with calls := tellTask o t c.scene.calls } := by
  rw [wake_eq_prompt]
  cases t with
  | call n =>
    have told : (c.calls.modify n (.prompt (.answered o))).map Call.settled =
        (c.calls.map Call.settled).modify n (.tell o) := by
      apply List.ext_getElem?
      intro i
      simp only [List.getElem?_map, List.getElem?_modify]
      cases h : c.calls[i]? with
      | none => rfl
      | some k =>
        have := (quiet k (List.mem_of_getElem? h)).settled_prompt (o := o)
        by_cases e : n = i <;> simp [e, this]
    rw [scene, scene, calls_prompt, told]
    rfl
  | _ => rfl

theorem quiet_wake (quiet : ∀ k ∈ c.calls, k.Quiet) :
    ∀ k ∈ (c.wake t (.answered o)).calls, k.Quiet := by
  rw [wake_eq_prompt]
  cases t with
  | call n =>
    intro k mem
    obtain ⟨i, h⟩ := List.getElem?_of_mem mem
    rw [calls_prompt, List.getElem?_modify] at h
    obtain ⟨q, here, rfl⟩ := Option.map_eq_some_iff.mp h
    have := quiet q (List.mem_of_getElem? here)
    split
    · exact this.prompt
    · exact this
  | _ => exact quiet

/-- One that waits for no answer any more is told something. -/
theorem Apt.wake (h : Apt c) (gone : ∀ p ∈ (c.link 0).pending, p.2 ≠ t) :
    Apt (c.wake t (.answered o)) := by
  refine ⟨?_, ?_, ?_, quiet_wake h.quiet, fun p mem => ?_, ?_⟩
  · rw [wake_eq_prompt]
    exact h.one
  · rw [wake_eq_prompt]
    cases t <;> simp [prompt, h.alone]
  · rw [wake_eq_prompt]
    exact h.observed
  · rw [wake_eq_prompt] at mem ⊢
    obtain ⟨n, e, waits⟩ := h.waits p mem
    refine ⟨n, e, ?_⟩
    rw [calls_prompt]
    cases t with
    | call i =>
      have apart : i ≠ n := fun same => gone p mem (by rw [e, same])
      simp [apart, waits]
    | _ => exact waits
  · rw [wake_eq_prompt]
    exact h.drain

theorem Alike.wake (h : Alike x y) (gone : ∀ p ∈ (x.link 0).pending, p.2 ≠ t)
    (same : o.merged = p.merged) : Alike (x.wake t (.answered o)) (y.wake t (.answered p)) := by
  refine ⟨h.left.wake gone, h.right.wake (by rwa [← h.pending]), ?_⟩
  rw [scene_wake h.left.quiet, scene_wake h.right.quiet, h.same, tellTask_congr same]

/-! ## Responses -/

theorem Alike.forget (h : Alike x y) (id : Nat) : Alike (x.forget 0 id) (y.forget 0 id) :=
  h.modifyLink (fun v => { v with pending := v.pending.filter (·.1 != id) }) (fun _ => rfl)
    (fun _ => List.filter_subset_self _) fun _ => rfl

theorem Alike.dropResponse (h : Alike x y) (id : Json) :
    Alike (x.dropResponse id) (y.dropResponse id) := by
  rw [Client.dropResponse, Client.dropResponse, h.id_eq]
  exact h.log ..

/-- Who waits for an answer is still to be told. -/
theorem Apt.isTold (h : Apt c) (mem : (id, t) ∈ (c.link 0).pending) : c.isTold t = false := by
  obtain ⟨n, e, waits⟩ := h.waits _ mem
  obtain rfl : t = .call n := e
  simp [Client.isTold, waits]

/-- A call waits for one answer. -/
theorem Apt.gone (h : Apt c) (mem : (id, t) ∈ (c.link 0).pending) :
    ∀ p ∈ ((c.forget 0 id).link 0).pending, p.2 ≠ t := by
  intro p left same
  rw [Client.forget, link_modifyLink_self h.here] at left
  obtain ⟨still, other⟩ := List.mem_filter.mp left
  obtain ⟨n, e, waits⟩ := h.waits _ mem
  obtain ⟨n', e', waits'⟩ := h.waits _ still
  obtain rfl : n = n' := Task.call.inj (e.symm.trans (same.symm.trans e'))
  have : p.1 = id := by
    rw [waits] at waits'
    simpa using waits'.symm
  simp [this] at other

theorem Alike.handleResponse (h : Alike x y) (id : Json) (ms : Json.Members) :
    Alike (x.handleResponse 0 id ms).1 (y.handleResponse 0 id ms).1 ∧
      (x.handleResponse 0 id ms).2 = (y.handleResponse 0 id ms).2 := by
  have found : pendingOf? (x.link 0) id = pendingOf? (y.link 0) id := by
    rw [pendingOf?, pendingOf?, h.pending]
  unfold Client.handleResponse
  rw [← h.pending, ← found]
  split
  · split
    · exact ⟨h.dropResponse id, rfl⟩
    · exact ⟨h, rfl⟩
  · split
    · exact ⟨h.dropResponse id, rfl⟩
    · next n t e =>
      have mem := mem_of_pendingOf? e
      dsimp only
      rw [isTold_forget, isTold_forget, h.left.isTold mem, h.right.isTold (h.pending ▸ mem)]
      cases responseOutcome ms with
      | ok o => exact ⟨(h.forget n).wake (h.left.gone mem) rfl, rfl⟩
      | error fault => exact ⟨h.forget n, rfl⟩

/-! ## Messages -/

theorem Alike.handleNotification (h : Alike x y) (m : Json) :
    Alike (x.handleNotification 0 m) (y.handleNotification 0 m) := by
  unfold Client.handleNotification
  rw [← h.audience, h.id_eq]
  split
  · exact h.log ..
  · exact h.event _
  · exact h

/-- No process answers a rejection. -/
theorem answer_rejection (p : Policy) (id method : Json) :
    Policy.answer? p (rejection id method) = none := rfl

theorem write_rejection (id method : Json) : c.write 0 (rejection id method) =
    if (c.link 0).closed then (c, .error .closed)
    else if (c.process 0).inputFault = some .gone then (c, .error (.unwritable .gone))
    else (c.event 0 (.wrote (rejection id method)),
      if (c.process 0).inputFault = some .broken then .error (.unwritable .broken) else .ok ()) := by
  rw [Client.write]
  dsimp only
  rw [answer_rejection]
  split
  · rfl
  · split
    · rfl
    · dsimp only
      split <;> rfl

theorem Alike.rejectRequest (h : Alike x y) (id method : Json) :
    Alike (x.rejectRequest 0 id method) (y.rejectRequest 0 id method) := by
  unfold Client.rejectRequest
  rw [h.id_eq]
  dsimp only
  generalize "[" ++ y.id ++ "] Rejecting server request " ++ method.plain = text
  have h := h.log .debug text
  have fault : ((x.log .debug text).process 0).inputFault =
      ((y.log .debug text).process 0).inputFault := congrArg Prospect.inputFault h.prospect
  have wrote := h.event (.wrote (rejection id method))
  rw [write_rejection, write_rejection, ← h.closed, ← fault]
  by_cases closed : ((x.log .debug text).link 0).closed = true
  · rw [if_pos closed, if_pos closed]
    dsimp only
    rw [h.id_eq]
    exact h.log ..
  · rw [if_neg closed, if_neg closed]
    by_cases gone : ((x.log .debug text).process 0).inputFault = some .gone
    · rw [if_pos gone, if_pos gone]
      dsimp only
      rw [h.id_eq]
      exact h.log ..
    · rw [if_neg gone, if_neg gone]
      by_cases broken : ((x.log .debug text).process 0).inputFault = some .broken
      · rw [if_pos broken]
        dsimp only
        rw [wrote.id_eq]
        exact wrote.log ..
      · rw [if_neg broken]
        exact wrote

theorem Alike.dispatch (h : Alike x y) (m : Json) :
    Alike (x.dispatch 0 m).1 (y.dispatch 0 m).1 ∧ (x.dispatch 0 m).2 = (y.dispatch 0 m).2 := by
  unfold Client.dispatch
  split
  · exact ⟨h, rfl⟩
  · exact h.handleResponse _ _
  · exact ⟨h.handleNotification _, rfl⟩
  · exact ⟨h.rejectRequest _ _, rfl⟩

/-! ## The end of a listener -/

theorem Alike.foldl_wake (h : Alike x y) (none : (x.link 0).pending = [])
    (same : o.merged = p.merged) (ps : List (Nat × Task)) :
    Alike (ps.foldl (fun c (_, t) => c.wake t (.answered o)) x)
      (ps.foldl (fun c (_, t) => c.wake t (.answered p)) y) := by
  induction ps generalizing x y with
  | nil => exact h
  | cons q ps ih =>
    have still : ((x.wake q.2 (.answered o)).link 0).pending = [] := by rwa [wake_eq_prompt]
    exact ih (h.wake (by simp [none]) same) still

/-- Reasons to stop with one text for every line that is too long. -/
def Ending.Akin (r r' : Ending) : Prop :=
  (Outcome.error (.ended r)).merged = (Outcome.error (.ended r')).merged

variable {r r' : Ending}

theorem Alike.failPending (h : Alike x y) (same : r.Akin r') :
    Alike (x.failPending 0 r) (y.failPending 0 r') := by
  unfold Client.failPending
  rw [← h.pending]
  refine Alike.foldl_wake (h.modifyLink (f := fun k => { k with pending := [] })
    (fun v => { v with pending := [] }) (fun _ => rfl) (fun _ => List.nil_subset _)
    fun _ => rfl) ?_ same _
  rw [link_modifyLink_self h.left.here]

/-- Of quiet calls none is in a teardown. -/
theorem Apt.wakeTeardowns (h : Apt c) (p : Teardown → Bool) :
    ∃ ts, c.wakeTeardowns p .go = { c with ready := ts } := by
  obtain ⟨ts, e⟩ := wakeTeardowns_frame (c := c) (s := .go) p
  refine ⟨ts, e.trans ?_⟩
  have same : c.calls.map (fun k => if k.phase.teardown?.any p then k.prompt .go else k) =
      c.calls := by
    conv => rhs; rw [← List.map_id c.calls]
    exact List.map_congr_left fun k mem => by simp [(h.quiet k mem).teardown]
  rw [same, h.alone]
  rfl

theorem Alike.endListener (h : Alike x y) : Alike (x.endListener 0) (y.endListener 0) := by
  have ceased : Alike (x.setListener 0 .done) (y.setListener 0 .done) :=
    h.modifyLink (fun v => { v with listener := .done }) (fun _ => rfl)
      (fun _ => List.Subset.refl _) fun _ => rfl
  obtain ⟨ts, e⟩ := ceased.left.wakeTeardowns fun t => t.link == 0 && t.stage = .listener
  obtain ⟨us, e'⟩ := ceased.right.wakeTeardowns fun t => t.link == 0 && t.stage = .listener
  rw [Client.endListener, Client.endListener, e, e']
  exact ((ceased.ready ts).symm.ready us).symm

theorem Alike.stopListening (h : Alike x y) (same : r.Akin r') :
    Alike (x.stopListening 0 .first r) (y.stopListening 0 .first r') :=
  (h.failPending same).endListener

theorem listener_stopListening (here : 0 < c.links.length) :
    ((c.stopListening 0 .first r).link 0).listener = ⟨.done, none⟩ := by
  rw [stopListening]
  obtain ⟨ts, e⟩ := wakeTeardowns_frame (c := (c.failPending 0 r).setListener 0 .done) (s := .go)
    fun t => t.link == 0 && t.stage = .listener
  have here' : 0 < (c.failPending 0 r).links.length := by rwa [links_length_failPending]
  rw [endListener, e]
  exact congrArg Link.listener (link_modifyLink_self here' _)

theorem Alike.stopAfter (h : Alike x y) (same : r.Akin r') {a b : Client → Client}
    (announced : Alike (a x) (b y)) :
    Alike (x.stopAfter 0 .first r a) (y.stopAfter 0 .first r' b) := by
  unfold Client.stopAfter
  dsimp only
  rw [← h.closed, ← h.shuttingDown]
  split
  · exact h.stopListening rfl
  · exact announced.stopListening same

theorem Alike.stopAfterEnd (h : Alike x y) :
    Alike (x.stopAfter 0 .first .byServer (·.announceEnd 0))
      (y.stopAfter 0 .first .byServer (·.announceEnd 0)) := by
  refine h.stopAfter rfl ?_
  unfold announceEnd
  rw [← h.audience]
  split
  · exact absurd ‹_› h.left.observed
  · exact h.event _
  · exact h

theorem Alike.stopAfterFault (h : Alike x y) {u v : Wire.Fault} (same : u.merged = v.merged) :
    Alike (x.stopAfterFault 0 .first u) (y.stopAfterFault 0 .first v) := by
  refine h.stopAfter (by simp [Ending.Akin, Outcome.merged, same]) ?_
  unfold announceFault
  rw [← h.audience]
  split
  · exact absurd ‹_› h.left.observed
  · refine h.emit ?_
    rw [h.spawn]
    simp [Output.shown, same]
  · exact h

theorem Alike.crashListening (h : Alike x y) (fault : Json.Misuse) :
    Alike (x.crashListening 0 .first fault) (y.crashListening 0 .first fault) := by
  refine Alike.stopListening (h.modifyLink
    (fun v => if v.superseded then v else { v with crash := some fault }) (fun k => ?_)
    (fun k => ?_) fun k => ?_) rfl
  · have : (Turn.first = .first) = True := eq_true rfl
    cases h : k.superseded <;> simp [Link.prospect, h]
  · cases k.superseded <;> simp
  · cases k.superseded <;> simp

end LspGateway.Client
