import LspGateway.Proofs.Client.Sharing

/-! # What listeners hear

The messages that a listener takes, in their order. The first of them that answers a
request decides what its sender is told, and the end of the listener does if there is none.
-/

namespace LspGateway.Client

variable {hit : Nat → Prop} {c c₁ : Client} {d d₁ : Option Doer} {ls lost : List Loss}
  {l k n id : Nat} {t u : Task} {s : Signal} {o : Outcome} {m : Json} {i : Input}

/-- What a message says in answer to the request with the given id, if it does. -/
def answerTo? (id : Nat) (m : Json) : Option (Except Json.Misuse Outcome) :=
  match Incoming.ofJson m with
  | .ok (.response j ms) => if isId j id then some (responseOutcome ms) else none
  | _ => none

/-- The messages that a listener takes until it has to wait or to end. -/
def hear (l : Nat) : Nat → Wire.Reading → Client → List Json
  | 0, _, _ => []
  | fuel + 1, reading, c =>
    match Wire.next (c.process l).output reading with
    | .message m rest =>
      match (c.setOutput l rest).dispatch l m with
      | (c, none) => m :: if (c.link l).closed then [] else hear l fuel .start c
      | (_, some _) => [m]
    | _ => []

/-- The messages that are taken of all that has arrived. -/
def hearFeed (c : Client) (l : Nat) (reading : Wire.Reading) : List Json :=
  hear l ((c.process l).output.buffer.length + 1) reading c

/-- The messages that a listener takes when it begins. -/
def hearBegin (c : Client) (l : Nat) : List Json :=
  if (c.link l).closed then [] else c.hearFeed l .start

/-- The messages that a listener takes in its turn. -/
def hearTurn (c : Client) (l : Nat) : List Json :=
  match (c.link l).listener with
  | ⟨_, some .cancelled⟩ => []
  | ⟨.fresh, _⟩ => (c.setListener l .running).hearBegin l
  | _ => (c.setListener l .running).hearFeed l (c.link l).reading

/-- Calls and attempts, which wait for answers. -/
def Task.isCaller : Task → Bool
  | .attempt _ => true
  | .call _ => true
  | _ => false

theorem standing_caller (caller : t.isCaller) (attempts : c₁.attempts = c.attempts)
    (calls : c₁.calls = c.calls) : c₁.standing t = c.standing t := by
  cases t with
  | attempt n => simp only [standing, attempts]
  | call n => simp only [standing, calls]
  | listener l | drain l | relay a => cases caller

/-! ## Who is told something on the way -/

theorem heeds_prompt : (c.prompt u s).heeds t = if t = u then false else c.heeds t := by
  cases t with
  | attempt m =>
    cases u with
    | attempt n =>
      simp only [heeds, prompt, List.getElem?_modify, Task.attempt.injEq]
      rcases c.attempts[m]? with _ | a
      · simp
      · by_cases e : n = m
        · cases waits : a.phase.isWaiting <;> cases told : a.signal <;>
            simp [e, Attempt.prompt, waits, told]
        · simp [e, Ne.symm e]
    | _ => simp [heeds, prompt]
  | call m =>
    cases u with
    | call n =>
      simp only [heeds, prompt, List.getElem?_modify, Task.call.injEq]
      rcases c.calls[m]? with _ | k
      · simp
      · by_cases e : n = m
        · cases waits : k.phase.isWaiting <;> cases told : k.signal <;>
            simp [e, Call.prompt, waits, told]
        · simp [e, Ne.symm e]
    | _ => simp [heeds, prompt]
  | _ => simp [heeds]

theorem standing_foldl_wake (ps : List (Nat × Task)) :
    (ps.foldl (fun c (_, u) => c.wake u s) c).standing t =
      if t ∈ ps.map Prod.snd ∧ c.heeds t then { c.standing t with told := some s }
      else c.standing t := by
  induction ps generalizing c with
  | nil => simp
  | cons p ps ih =>
    obtain ⟨i, u⟩ := p
    have told := ih (c := c.prompt u s)
    simp only [heeds_prompt, standing_prompt] at told
    rw [← wake_eq_prompt] at told
    refine Eq.trans told ?_
    by_cases e : t = u
    · simp [e]
    · by_cases mem : t ∈ ps.map Prod.snd <;> cases heeds : c.heeds t <;> simp_all

theorem standing_failPending {reason : Ending} :
    (c.failPending l reason).standing t =
      if t ∈ (c.link l).pending.map Prod.snd ∧ c.heeds t then
        { c.standing t with told := some (.answered (.error (.ended reason))) }
      else c.standing t := by
  have told := standing_foldl_wake (c := c.modifyLink l fun k => { k with pending := [] })
    (t := t) (s := .answered (.error (.ended reason))) (c.link l).pending
  have heeds : (c.modifyLink l fun k => { k with pending := [] }).heeds t = c.heeds t := by
    cases t <;> rfl
  have same : (c.modifyLink l fun k => { k with pending := [] }).standing t = c.standing t :=
    standing_modifyLink (fun _ => rfl) fun _ => rfl
  simp only [heeds, same] at told
  exact told

/-- Only who takes something down is told of a step of that. -/
theorem standing_wakeTeardowns {p : Teardown → Bool} (caller : t.isCaller)
    (down : (c.role t).teardown = none) :
    (c.wakeTeardowns p s).standing t = c.standing t := by
  obtain ⟨ts, e⟩ := wakeTeardowns_frame (c := c) (s := s) p
  rw [e]
  cases t with
  | attempt n =>
    rcases here : c.attempts[n]? with _ | a
    · simp [standing, here]
    · have none' : a.phase.teardown? = none := by
        simpa [role, standing, here, Attempt.standing] using down
      simp [standing, here, none']
  | call n =>
    rcases here : c.calls[n]? with _ | k
    · simp [standing, here]
    · have none' : k.phase.teardown? = none := by
        simpa [role, standing, here, Call.standing] using down
      simp [standing, here, none']
  | listener l | drain l | relay a => cases caller

theorem standing_wakeListener (caller : t.isCaller) :
    (c.wakeListener l).standing t = c.standing t := by
  obtain e | ⟨-, e⟩ := wakeListener_eq (c := c) (l := l) <;> rw [e]
  exact standing_caller caller rfl rfl

theorem standing_wakeDrain (caller : t.isCaller) : (c.wakeDrain l).standing t = c.standing t := by
  obtain e | ⟨-, e⟩ := wakeDrain_eq (c := c) (l := l) <;> rw [e]
  exact standing_caller caller rfl rfl

theorem standing_exit {code : Int} (caller : t.isCaller) (down : (c.role t).teardown = none) :
    (c.exit l code).standing t = c.standing t := by
  unfold exit
  split
  · dsimp only
    generalize left : (c.event l (.exited code)).modifyProcess l _ = c₁
    have same : c₁.standing t = c.standing t := by
      rw [← left]
      exact standing_caller caller rfl rfl
    have woken : ((c₁.wakeListener l).wakeDrain l).standing t = c.standing t :=
      ((standing_wakeDrain caller).trans (standing_wakeListener caller)).trans same
    exact (standing_wakeTeardowns caller (by rwa [role, woken])).trans woken
  · rfl

theorem standing_kill (caller : t.isCaller) (down : (c.role t).teardown = none) :
    (c.kill l).1.standing t = c.standing t := by
  have struck : (c.event l .killed).standing t = c.standing t := standing_caller caller rfl rfl
  unfold kill
  dsimp only
  split
  · exact (standing_exit caller (by rwa [role, struck])).trans struck
  · exact struck

theorem standing_giveUp (caller : t.isCaller) (down : (c.role t).teardown = none) :
    c.giveUp.standing t = c.standing t := by
  unfold giveUp
  dsimp only
  split
  · split
    · exact (standing_caller caller rfl rfl).trans (standing_kill caller down)
    · exact standing_caller caller rfl rfl
  · exact standing_caller caller rfl rfl

theorem standing_announceFault {f : Wire.Fault} (caller : t.isCaller)
    (down : (c.role t).teardown = none) : (c.announceFault l f).standing t = c.standing t := by
  unfold announceFault
  split
  · exact (standing_giveUp caller (by rwa [role, standing_caller caller rfl rfl])).trans
      (standing_caller caller rfl rfl)
  · exact standing_caller caller rfl rfl
  · rfl

theorem standing_announceEnd (caller : t.isCaller) (down : (c.role t).teardown = none) :
    (c.announceEnd l).standing t = c.standing t := by
  unfold announceEnd
  split
  · exact (standing_giveUp caller (by rwa [role, standing_caller caller rfl rfl])).trans
      (standing_caller caller rfl rfl)
  · exact standing_caller caller rfl rfl
  · rfl

/-! ## Messages -/

theorem isTold_of_heeds (h : c.heeds t) : c.isTold t = false := by
  cases t with
  | attempt n =>
    rcases here : c.attempts[n]? with _ | a
    · simp [heeds, here] at h
    · have : a.signal.isNone := by
        simp only [heeds, here, Option.any_some, Bool.and_eq_true] at h
        exact h.2
      simpa [isTold, here] using this
  | call n =>
    rcases here : c.calls[n]? with _ | k
    · simp [heeds, here] at h
    · have : k.signal.isNone := by
        simp only [heeds, here, Option.any_some, Bool.and_eq_true] at h
        exact h.2
      simpa [isTold, here] using this
  | _ => cases h

/-- What an answer changes about who waits for it. One that is not understood tells nothing. -/
def Standing.hear (st : Standing) : Except Json.Misuse Outcome → Standing
  | .ok o => { st with told := some (.answered o) }
  | .error _ => st

/-- How a message changes who waits and what they were told: it answers no request, or the one
with its id. -/
inductive Dispatched (c : Client) (l : Nat) (m : Json) (c₁ : Client) : Prop
  | nobody (apart : ∀ i u, (i, u) ∈ (c.link l).pending → answerTo? i m = none)
    (pending : (c₁.link l).pending = (c.link l).pending)
    (same : ∀ t, t.isCaller → c₁.standing t = c.standing t)
  | sender {i u r} (here : (i, u) ∈ (c.link l).pending) (answer : answerTo? i m = some r)
    (pending : (c₁.link l).pending = (c.link l).pending.filter (·.1 != i))
    (told : ∀ t, t.isCaller → c₁.standing t =
      if t = u ∧ c.heeds u then (c.standing t).hear r else c.standing t)

theorem isId_inj {j : Json} {i : Nat} (h : isId j i) (h' : isId j k) : i = k := by
  cases j with
  | int z => simp only [isId, decide_eq_true_eq] at h h'; omega
  | bool b => simp only [isId, decide_eq_true_eq] at h h'; omega
  | float x =>
    simp only [isId, decide_eq_true_eq] at h h'
    exact Int.ofNat.inj (Option.some.inj (h.symm.trans h'))
  | _ => cases h

theorem isKey_of_isId {j : Json} {i : Nat} (h : isId j i) : ∃ key, j.asKey = .ok key := by
  cases j <;> first | exact ⟨_, rfl⟩ | cases h

theorem dispatched_response {j : Json} {ms : Json.Members}
    (sorted : Incoming.ofJson m = .ok (.response j ms)) :
    Dispatched c l m (c.handleResponse l j ms).1 := by
  have answer i : answerTo? i m = if isId j i then some (responseOutcome ms) else none := by
    rw [answerTo?, sorted]
  have nobody (h : ∀ i u, (i, u) ∈ (c.link l).pending → isId j i = false) {c₁ : Client}
      (links : c₁.links = c.links) (attempts : c₁.attempts = c.attempts)
      (calls : c₁.calls = c.calls) : Dispatched c l m c₁ := by
    refine .nobody (fun i u mem => ?_) (congrArg Link.pending (link_of_links links)) fun t caller =>
      standing_caller caller attempts calls
    rw [answer, h i u mem]
    rfl
  unfold handleResponse
  cases key : j.asKey with
  | error fault =>
    have strange i (u : Task) (_ : (i, u) ∈ (c.link l).pending) : isId j i = false := by
      by_contra h
      obtain ⟨_, ok⟩ := isKey_of_isId (Bool.of_not_eq_false h)
      rw [key] at ok
      cases ok
    dsimp only
    split <;> exact nobody strange rfl rfl rfl
  | ok _ =>
    dsimp only
    cases found : pendingOf? (c.link l) j with
    | none =>
      refine nobody (fun i u mem => ?_) rfl rfl rfl
      simpa using List.find?_eq_none.mp found (i, u) mem
    | some p =>
      obtain ⟨i, u⟩ := p
      have hit : isId j i := by simpa using List.find?_some found
      have gone {c₁ : Client} (e : c₁.links = (c.forget l i).links) :
          (c₁.link l).pending = (c.link l).pending.filter (·.1 != i) := by
        rw [link_of_links e, pending_forget, if_pos rfl]
      refine .sender (mem_of_pendingOf? found) ((answer i).trans (if_pos hit)) ?_ fun t caller => ?_
      · dsimp only
        split
        · exact gone rfl
        · split
          · rw [wake_eq_prompt]
            exact gone rfl
          · exact gone rfl
      · dsimp only
        rw [isTold_forget]
        cases told : c.isTold u with
        | true =>
          have deaf : ¬ (t = u ∧ c.heeds u) := fun h => by
            rw [isTold_of_heeds h.2] at told
            cases told
          have same : ((c.forget l i).dropResponse j).standing t = c.standing t :=
            standing_caller caller rfl rfl
          rw [if_pos rfl, same, if_neg deaf]
        | false =>
          rw [if_neg (by simp)]
          cases responseOutcome ms with
          | error fault =>
            dsimp only
            rw [Standing.hear, ite_self, standing_forget]
          | ok o =>
            have heeds : (c.forget l i).heeds u = c.heeds u := by cases u <;> rfl
            dsimp only
            rw [wake_eq_prompt, standing_prompt, heeds, standing_forget]
            rfl

theorem dispatched : Dispatched c l m (c.dispatch l m).1 := by
  have other (h : ∀ j ms, Incoming.ofJson m ≠ .ok (.response j ms)) (i : Nat) :
      answerTo? i m = none := by
    unfold answerTo?
    split
    · next e => exact absurd e (h _ _)
    · rfl
  unfold dispatch
  split
  · next e => exact .nobody (fun i _ _ => other (by rw [e]; nofun) i) rfl fun _ _ => rfl
  · next e => exact dispatched_response e
  · next m' e =>
    refine .nobody (fun i _ _ => other (by rw [e]; nofun) i) ?_ fun t caller => ?_
    · unfold handleNotification
      split <;> rfl
    · unfold handleNotification
      split <;> exact standing_caller caller rfl rfl
  · next j method e =>
    have wrote := activities_write (l := l) (m := rejection j method)
      (c := c.log .debug ("[" ++ c.id ++ "] Rejecting server request " ++ method.plain))
    have kept := link_write (l := l) (k := l) (m := rejection j method)
      (c := c.log .debug ("[" ++ c.id ++ "] Rejecting server request " ++ method.plain))
      Link.pending (fun _ _ => rfl) fun _ _ => rfl
    refine .nobody (fun i _ _ => other (by rw [e]; nofun) i) ?_ fun t caller => ?_
    · unfold rejectRequest
      dsimp only
      split <;> next e => rw [e] at kept; exact kept
    · unfold rejectRequest
      dsimp only
      split <;> next e => rw [e] at wrote; exact standing_caller caller wrote.1 wrote.2

theorem pending_dispatch : ((c.dispatch l m).1.link l).pending ⊆ (c.link l).pending := by
  cases dispatched (c := c) (l := l) (m := m) with
  | nobody _ pending => rw [pending]; exact fun _ h => h
  | sender _ _ pending => rw [pending]; exact List.filter_subset_self _

/-- A message tells nothing to who is not on the list or heeds nothing. -/
theorem standing_dispatch (caller : t.isCaller)
    (apart : ¬ (t ∈ (c.link l).pending.map Prod.snd ∧ c.heeds t)) :
    (c.dispatch l m).1.standing t = c.standing t := by
  cases dispatched (c := c) (l := l) (m := m) with
  | nobody _ _ same => exact same t caller
  | @sender i u r here _ _ told =>
    rw [told t caller, if_neg]
    rintro ⟨rfl, heeds⟩
    exact apart ⟨List.mem_map.mpr ⟨(i, t), here, rfl⟩, heeds⟩

/-! ## The end of listening -/

theorem isCaller_of_expects (h : (c.role t).expects.isSome) : t.isCaller := by
  cases t <;> first | rfl | cases h

/-- Who waits for an answer takes nothing down. -/
theorem down_of_expects (h : (c.role t).expects.isSome) : (c.role t).teardown = none := by
  cases t with
  | attempt n =>
    rcases here : c.attempts[n]? with _ | ⟨p, s⟩
    · simp [role, standing, here, Standing.absent, Role.idle] at h
    · simp only [role, standing, here, Option.map_some, Option.getD_some, Attempt.standing] at h ⊢
      cases p <;> first | rfl | cases h
  | call n =>
    rcases here : c.calls[n]? with _ | ⟨p, s⟩
    · simp [role, standing, here, Standing.absent, Role.idle] at h
    · simp only [role, standing, here, Option.map_some, Option.getD_some, Call.standing] at h ⊢
      cases p <;> first | rfl | cases h
  | _ => cases h

theorem heeds_iff (h : (c.role t).expects.isSome) : c.heeds t ↔ c.told t = none := by
  refine ⟨fun heeds => (live_of_heeds heeds).2, fun none' => heeds_of_expects h ?_⟩
  rw [isTold_eq h, none']
  rfl

/-- Whoever waits for an answer over a link is told that there will be none. -/
def GivesUp (c : Client) (l : Nat) (c₁ : Client) : Prop :=
  ∃ reason, ∀ t, (c.role t).expects.isSome → c₁.standing t =
    if t ∈ (c.link l).pending.map Prod.snd ∧ c.told t = none then
      { c.standing t with told := some (.answered (.error (.ended reason))) }
    else c.standing t

theorem GivesUp.after {b : Client} (h : GivesUp b l c₁)
    (same : ∀ t, (c.role t).expects.isSome → b.standing t = c.standing t)
    (pending : (b.link l).pending = (c.link l).pending) : GivesUp c l c₁ := by
  obtain ⟨reason, told⟩ := h
  refine ⟨reason, fun t expects => ?_⟩
  rw [told t (by rwa [role, same t expects]), pending, Client.told, Client.told, same t expects]

/-- Who is not on the list, or was told something already, is told nothing more. -/
theorem GivesUp.apart (h : GivesUp c l c₁) (expects : (c.role t).expects.isSome)
    (apart : ¬ (t ∈ (c.link l).pending.map Prod.snd ∧ c.told t = none)) :
    c₁.standing t = c.standing t := by
  obtain ⟨reason, told⟩ := h
  rw [told t expects, if_neg apart]

theorem givesUp_failPending {reason : Ending} : GivesUp c l (c.failPending l reason) :=
  ⟨reason, fun t expects => by simp only [standing_failPending, heeds_iff expects]⟩

theorem givesUp_stopListening {turn : Turn} {reason : Ending} :
    GivesUp c l (c.stopListening l turn reason) := by
  obtain ⟨r, told⟩ : GivesUp c l (c.failPending l reason) := givesUp_failPending
  refine ⟨r, fun t expects => Eq.trans ?_ (told t expects)⟩
  have caller := isCaller_of_expects expects
  cases turn with
  | first =>
    have down : ((c.failPending l reason).role t).teardown = none := by
      rw [role, told t expects]
      split <;> exact down_of_expects expects
    have set : ((c.failPending l reason).setListener l .done).standing t =
        (c.failPending l reason).standing t := standing_caller caller rfl rfl
    exact (standing_wakeTeardowns caller (by rwa [role, set])).trans set
  | later => exact standing_caller caller rfl rfl

theorem pending_setListener {p : WatcherPhase} :
    ((c.setListener l p).link l).pending = (c.link l).pending :=
  link_modifyLink_same Link.pending fun _ => rfl

theorem pending_endListener : ((c.endListener l).link l).pending = (c.link l).pending := by
  obtain ⟨ts, e⟩ := wakeTeardowns_frame (c := c.setListener l .done) (s := .go)
    fun t => t.link == l && t.stage = .listener
  rw [endListener, e]
  exact pending_setListener (p := .done)

theorem pending_stopListening {turn : Turn} {reason : Ending} :
    ((c.stopListening l turn reason).link l).pending = [] := by
  cases turn with
  | first => exact pending_endListener.trans (pending_failPending reason)
  | later =>
    refine Eq.trans ?_ (pending_failPending (c := c) (l := l) reason)
    exact link_modifyLink_same Link.pending fun _ => rfl

theorem pending_stopAfter {turn : Turn} {reason : Ending} {announce : Client → Client} :
    ((c.stopAfter l turn reason announce).link l).pending = [] := by
  unfold stopAfter
  dsimp only
  split <;> exact pending_stopListening

theorem givesUp_crashListening {turn : Turn} {fault : Json.Misuse} :
    GivesUp c l (c.crashListening l turn fault) :=
  givesUp_stopListening.after (fun _ expects =>
    standing_caller (isCaller_of_expects expects) rfl rfl)
    (link_modifyLink_same Link.pending fun k => by split <;> rfl)

theorem givesUp_stopAfter {turn : Turn} {reason : Ending} {announce : Client → Client}
    (same : ∀ t, (c.role t).expects.isSome → (announce c).standing t = c.standing t)
    (pending : ((announce c).link l).pending = (c.link l).pending) :
    GivesUp c l (c.stopAfter l turn reason announce) := by
  unfold stopAfter
  dsimp only
  split
  · exact givesUp_stopListening
  · exact givesUp_stopListening.after same pending

theorem pending_giveUp : (c.giveUp.link l).pending = (c.link l).pending := by
  unfold giveUp
  dsimp only
  split
  · split
    · exact link_kill Link.pending (fun _ _ => rfl) (fun _ _ => rfl) fun _ _ => rfl
    · rfl
  · rfl

theorem givesUp_stopAfterFault {turn : Turn} {f : Wire.Fault} :
    GivesUp c l (c.stopAfterFault l turn f) := by
  refine givesUp_stopAfter (fun t expects => standing_announceFault
    (isCaller_of_expects expects) (down_of_expects expects)) ?_
  unfold announceFault
  split
  · exact pending_giveUp
  · rfl
  · rfl

theorem givesUp_stopAfterEnd {turn : Turn} :
    GivesUp c l (c.stopAfter l turn .byServer (·.announceEnd l)) := by
  refine givesUp_stopAfter (fun t expects => standing_announceEnd
    (isCaller_of_expects expects) (down_of_expects expects)) ?_
  unfold announceEnd
  split
  · exact pending_giveUp
  · rfl
  · rfl

/-! ## The course of listening -/

/-- A request that its sender still waits for. -/
structure Awaits (c : Client) (l id : Nat) (t : Task) : Prop where
  expects : (c.role t).expects = some (l, id)
  untold : c.told t = none
  pending : (id, t) ∈ (c.link l).pending
  only : ∀ i, (i, t) ∈ (c.link l).pending → i = id
  once : ((c.link l).pending.map Prod.fst).Nodup

namespace Awaits

theorem isSome (h : Awaits c l id t) : (c.role t).expects.isSome := by
  rw [h.expects]
  rfl

theorem mem (h : Awaits c l id t) : t ∈ (c.link l).pending.map Prod.snd :=
  List.mem_map.mpr ⟨(id, t), h.pending, rfl⟩

theorem congr (h : Awaits c l id t) (same : c₁.standing t = c.standing t)
    (pending : (c₁.link l).pending = (c.link l).pending) : Awaits c₁ l id t := by
  refine ⟨?_, ?_, ?_, ?_, ?_⟩
  · rw [role, same]
    exact h.expects
  · rw [told, same]
    exact h.untold
  · rw [pending]
    exact h.pending
  · rw [pending]
    exact h.only
  · rw [pending]
    exact h.once

end Awaits

/-- What listening comes to for a request that its sender waits for: the first message that
answers it decides. -/
inductive Heard (c : Client) (l id : Nat) (t : Task) (ms : List Json) (c₁ : Client) : Prop
  | waits (silent : ms.findSome? (answerTo? id) = none) (awaits : Awaits c₁ l id t)
    (same : c₁.standing t = c.standing t)
  | ends (silent : ms.findSome? (answerTo? id) = none) (reason : Ending)
    (told : c₁.standing t =
      { c.standing t with told := some (.answered (.error (.ended reason))) })
  | answered {r} (answer : ms.findSome? (answerTo? id) = some r)
    (told : c₁.standing t = (c.standing t).hear r)
    (gone : t ∉ (c₁.link l).pending.map Prod.snd)

theorem GivesUp.heard {b : Client} (h : GivesUp b l c₁) (awaits : Awaits b l id t)
    (same : b.standing t = c.standing t) : Heard c l id t [] c₁ := by
  obtain ⟨reason, told⟩ := h
  refine .ends rfl reason ?_
  rw [told t awaits.isSome, if_pos ⟨awaits.mem, awaits.untold⟩, same]

theorem Heard.skip {b : Client} {ms : List Json} (h : Heard b l id t ms c₁)
    (same : b.standing t = c.standing t) (silent : answerTo? id m = none) :
    Heard c l id t (m :: ms) c₁ := by
  have skip : (m :: ms).findSome? (answerTo? id) = ms.findSome? (answerTo? id) := by
    rw [List.findSome?_cons, silent]
  cases h with
  | waits quiet awaits kept => exact .waits (skip.trans quiet) awaits (kept.trans same)
  | ends quiet reason told => exact .ends (skip.trans quiet) reason (told.trans (by rw [same]))
  | answered answer told gone => exact .answered (skip.trans answer) (told.trans (by rw [same])) gone

section Listen

variable {turn : Turn} {fuel : Nat} {reading : Wire.Reading}

theorem standing_setOutput {rest : List UInt8} (caller : t.isCaller) :
    (c.setOutput l rest).standing t = c.standing t := standing_caller caller rfl rfl

theorem pending_setOutput {rest : List UInt8} :
    ((c.setOutput l rest).link l).pending = (c.link l).pending :=
  link_modifyLink_same Link.pending fun _ => rfl

theorem standing_pauseListening (caller : t.isCaller) :
    (c.pauseListening l reading).standing t = c.standing t := standing_caller caller rfl rfl

theorem pending_pauseListening :
    ((c.pauseListening l reading).link l).pending = (c.link l).pending := by
  rw [pauseListening, setListener, modifyLink_modifyLink]
  exact link_modifyLink_same Link.pending fun _ => rfl

/-- A message goes on to be answered, or decides what its sender is told. -/
theorem Awaits.dispatch (h : Awaits c l id t) :
    (answerTo? id m = none ∧ Awaits (c.dispatch l m).1 l id t ∧
        (c.dispatch l m).1.standing t = c.standing t) ∨
      ∃ r, answerTo? id m = some r ∧ (c.dispatch l m).1.standing t = (c.standing t).hear r ∧
        t ∉ (((c.dispatch l m).1.link l).pending.map Prod.snd) := by
  have caller := isCaller_of_expects h.isSome
  cases dispatched (c := c) (l := l) (m := m) with
  | nobody apart pending same =>
    exact .inl ⟨apart id t h.pending, h.congr (same t caller) pending, same t caller⟩
  | @sender i u r here answer pending told =>
    by_cases e : t = u
    · subst e
      obtain rfl := h.only i here
      refine .inr ⟨r, answer, ?_, ?_⟩
      · rw [told t caller, if_pos ⟨rfl, (heeds_iff h.isSome).mpr h.untold⟩]
      · rw [pending]
        intro mem
        obtain ⟨⟨j, v⟩, listed, e⟩ := List.mem_map.mp mem
        obtain rfl : v = t := e
        obtain ⟨listed, ne⟩ := List.mem_filter.mp listed
        obtain rfl := h.only j listed
        simp at ne
    · have other : i ≠ id := by
        rintro rfl
        exact e (eq_of_nodup h.once h.pending here)
      have same : (c.dispatch l m).1.standing t = c.standing t := by
        rw [told t caller, if_neg fun h => e h.1]
      refine .inl ⟨?_, ⟨?_, ?_, ?_, fun j mem => ?_, ?_⟩, same⟩
      · rw [answerTo?] at answer ⊢
        split at answer
        · next j ms _ =>
          rw [if_neg]
          intro hit
          split at answer
          · next hit' => exact other (isId_inj hit' hit)
          · cases answer
        · cases answer
      · rw [role, same]
        exact h.expects
      · rw [Client.told, same]
        exact h.untold
      · rw [pending]
        exact List.mem_filter.mpr ⟨h.pending, by simpa using other.symm⟩
      · rw [pending] at mem
        exact h.only j (List.mem_of_mem_filter mem)
      · rw [pending]
        exact h.once.sublist (List.filter_sublist.map _)

/-- Listening tells nothing to who is not on the list or was told something already. -/
theorem standing_listen (expects : (c.role t).expects.isSome)
    (apart : ¬ (t ∈ (c.link l).pending.map Prod.snd ∧ c.told t = none)) :
    (listen l turn fuel reading c).standing t = c.standing t := by
  induction fuel generalizing reading c with
  | zero =>
    unfold listen
    split
    · exact standing_pauseListening (isCaller_of_expects expects)
    · rfl
  | succ fuel ih =>
    have caller := isCaller_of_expects expects
    have expects' {b : Client} (same : b.standing t = c.standing t) : (b.role t).expects.isSome := by
      rwa [role, same]
    have apart' {b : Client} (same : b.standing t = c.standing t)
        (fewer : (b.link l).pending ⊆ (c.link l).pending) :
        ¬ (t ∈ (b.link l).pending.map Prod.snd ∧ b.told t = none) := by
      rintro ⟨mem, untold⟩
      refine apart ⟨List.map_subset _ fewer mem, ?_⟩
      rwa [told, same] at untold
    have stops {b c₁ : Client} (h : GivesUp b l c₁) (same : b.standing t = c.standing t)
        (fewer : (b.link l).pending ⊆ (c.link l).pending) : c₁.standing t = c.standing t :=
      (h.apart (expects' same) (apart' same fewer)).trans same
    have set rest : (c.setOutput l rest).standing t = c.standing t := standing_setOutput caller
    have kept (rest : List UInt8) : ((c.setOutput l rest).link l).pending ⊆ (c.link l).pending := by
      rw [pending_setOutput]
      exact fun _ h => h
    unfold listen
    split
    · next reading' rest _ =>
      cases turn with
      | first => exact (standing_pauseListening caller).trans (set rest)
      | later => exact stops givesUp_stopAfterFault (set rest) (kept rest)
    · next f rest _ => exact stops givesUp_stopAfterFault (set rest) (kept rest)
    · next rest _ => exact stops givesUp_stopAfterEnd (set rest) (kept rest)
    · next m rest _ =>
      have fewer := List.Subset.trans
        (pending_dispatch (c := c.setOutput l rest) (l := l) (m := m)) (kept rest)
      have same : ((c.setOutput l rest).dispatch l m).1.standing t = c.standing t := by
        refine (standing_dispatch caller fun h => ?_).trans (set rest)
        rw [heeds_iff (expects' (set rest))] at h
        exact apart' (set rest) (kept rest) h
      rcases e : (c.setOutput l rest).dispatch l m with ⟨c₁, _ | fault⟩ <;> rw [e] at fewer same
      · dsimp only at fewer same ⊢
        split
        · exact stops givesUp_stopListening same fewer
        · exact (ih (expects' same) (apart' same fewer)).trans same
      · exact stops givesUp_crashListening same fewer

/-- Nobody gets onto the list while someone listens. -/
theorem pending_listen :
    ((listen l turn fuel reading c).link l).pending ⊆ (c.link l).pending := by
  induction fuel generalizing reading c with
  | zero =>
    unfold listen
    split
    · rw [pending_pauseListening]
      exact fun _ h => h
    · exact fun _ h => h
  | succ fuel ih =>
    have none' {ps qs : List (Nat × Task)} (e : ps = []) : ps ⊆ qs := by
      rw [e]
      exact List.nil_subset _
    unfold listen
    split
    · cases turn with
      | first =>
        dsimp only
        rw [pending_pauseListening, pending_setOutput]
        exact fun _ h => h
      | later => exact none' pending_stopAfter
    · exact none' pending_stopAfter
    · exact none' pending_stopAfter
    · next m rest _ =>
      have fewer := pending_dispatch (c := c.setOutput l rest) (l := l) (m := m)
      rw [pending_setOutput] at fewer
      rcases e : (c.setOutput l rest).dispatch l m with ⟨c₁, _ | fault⟩ <;> rw [e] at fewer
      · dsimp only
        split
        · exact none' pending_stopListening
        · exact List.Subset.trans ih fewer
      · exact none' pending_stopListening

/-- The first message that answers a request decides what its sender is told. -/
theorem Awaits.listen (h : Awaits c l id t) :
    Heard c l id t (hear l fuel reading c) (listen l turn fuel reading c) := by
  induction fuel generalizing reading c with
  | zero =>
    unfold Client.listen hear
    have caller := isCaller_of_expects h.isSome
    split
    · exact .waits rfl (h.congr (standing_pauseListening caller) pending_pauseListening)
        (standing_pauseListening caller)
    · exact .waits rfl h rfl
  | succ fuel ih =>
    have caller := isCaller_of_expects h.isSome
    have set rest : (c.setOutput l rest).standing t = c.standing t := standing_setOutput caller
    have kept (rest : List UInt8) : Awaits (c.setOutput l rest) l id t :=
      h.congr (set rest) pending_setOutput
    unfold Client.listen hear
    cases Wire.next (c.process l).output reading with
    | unfinished reading' rest =>
      cases turn with
      | first =>
        have paused : ((c.setOutput l rest).pauseListening l reading').standing t =
            (c.setOutput l rest).standing t := standing_pauseListening caller
        exact .waits rfl ((kept rest).congr paused pending_pauseListening)
          (paused.trans (set rest))
      | later => exact givesUp_stopAfterFault.heard (kept rest) (set rest)
    | fault f rest => exact givesUp_stopAfterFault.heard (kept rest) (set rest)
    | ended rest => exact givesUp_stopAfterEnd.heard (kept rest) (set rest)
    | message m rest =>
      have step := (kept rest).dispatch (m := m)
      rw [set rest] at step
      rcases e : (c.setOutput l rest).dispatch l m with ⟨c₁, fault⟩
      rw [e] at step
      obtain ⟨silent, awaits, same⟩ | ⟨r, answer, told, gone⟩ := step
      · cases fault with
        | none =>
          simp only [e]
          split
          · exact (givesUp_stopListening.heard awaits rfl).skip same silent
          · exact (ih awaits).skip same silent
        | some fault =>
          simp only [e]
          exact (givesUp_crashListening.heard awaits rfl).skip same silent
      · -- Nothing that is taken after the answer changes what the sender is told.
        have expects : (c₁.role t).expects.isSome := by
          rw [role, told]
          cases r <;> exact h.isSome
        have apart : ¬ (t ∈ (c₁.link l).pending.map Prod.snd ∧ c₁.told t = none) := fun h => gone h.1
        have decides (ms : List Json) : (m :: ms).findSome? (answerTo? id) = some r := by
          rw [List.findSome?_cons, answer]
        have left {b : Client} (fewer : (b.link l).pending ⊆ (c₁.link l).pending) :
            t ∉ (b.link l).pending.map Prod.snd := fun mem => gone (List.map_subset _ fewer mem)
        have none' {b : Client} (e : (b.link l).pending = []) :
            t ∉ (b.link l).pending.map Prod.snd := by simp [e]
        cases fault with
        | none =>
          simp only [e]
          split
          · exact .answered (decides _) ((givesUp_stopListening.apart expects apart).trans told)
              (none' pending_stopListening)
          · exact .answered (decides _) ((standing_listen expects apart).trans told)
              (left pending_listen)
        | some fault =>
          simp only [e]
          exact .answered (decides _) ((givesUp_crashListening.apart expects apart).trans told)
            (none' pending_stopListening)

end Listen

/-! ## The turn of a listener -/

theorem Heard.after {b : Client} {ms : List Json} (h : Heard b l id t ms c₁)
    (same : b.standing t = c.standing t) : Heard c l id t ms c₁ := by
  cases h with
  | waits quiet awaits kept => exact .waits quiet awaits (kept.trans same)
  | ends quiet reason told => exact .ends quiet reason (told.trans (by rw [same]))
  | answered answer told gone => exact .answered answer (told.trans (by rw [same])) gone

theorem Awaits.beginListening (h : Awaits c l id t) {turn : Turn} :
    Heard c l id t (c.hearBegin l) (c.beginListening l turn) := by
  unfold hearBegin Client.beginListening
  split
  · exact givesUp_stopListening.heard h rfl
  · exact h.listen

theorem standing_beginListening {turn : Turn} (expects : (c.role t).expects.isSome)
    (apart : ¬ (t ∈ (c.link l).pending.map Prod.snd ∧ c.told t = none)) :
    (c.beginListening l turn).standing t = c.standing t := by
  unfold beginListening
  split
  · exact givesUp_stopListening.apart expects apart
  · exact standing_listen expects apart

theorem pending_beginListening {turn : Turn} :
    ((c.beginListening l turn).link l).pending ⊆ (c.link l).pending := by
  unfold beginListening
  split
  · rw [pending_stopListening]
    exact List.nil_subset _
  · exact pending_listen

/-- A listener that has its turn ends because it was cancelled, begins, or goes on. -/
inductive ListenerTurn (c : Client) (l : Nat) : Client → List Json → Prop
  | ends (told : (c.link l).listener.signal = some .cancelled) : ListenerTurn c l (c.endListener l) []
  | stops (told : (c.link l).listener.signal = some .cancelled) :
    ListenerTurn c l (c.stopListening l .first .deliberate) []
  | begins : ListenerTurn c l ((c.setListener l .running).beginListening l .first)
      ((c.setListener l .running).hearBegin l)
  | goesOn (reading : Wire.Reading) :
    ListenerTurn c l ((c.setListener l .running).listenFrom l .first reading)
      ((c.setListener l .running).hearFeed l reading)

theorem listenerTurn : ListenerTurn c l (c.runListener l) (c.hearTurn l) := by
  unfold hearTurn runListener
  rcases here : (c.link l).listener with ⟨p, s⟩
  by_cases cancelled : s = some .cancelled
  · subst cancelled
    have told : (c.link l).listener.signal = some .cancelled := by rw [here]
    by_cases fresh : p = .fresh
    · subst fresh
      simp only [here]
      exact .ends told
    · simp only [here]
      cases p <;> first
        | exact absurd rfl fresh
        | exact .stops told
  · simp only [here]
    by_cases fresh : p = .fresh
    · subst fresh
      cases s with
      | none => exact .begins
      | some s =>
        cases s <;> first
          | exact absurd rfl cancelled
          | exact .begins
    · have goesOn := ListenerTurn.goesOn (c := c) (l := l) (c.link l).reading
      cases p <;> first
        | exact absurd rfl fresh
        | (cases s with
          | none => exact goesOn
          | some s =>
            cases s <;> first
              | exact absurd rfl cancelled
              | exact goesOn)

section ListenerTurn

variable {ms : List Json}

theorem standing_setListener {p : WatcherPhase} (caller : t.isCaller) :
    (c.setListener l p).standing t = c.standing t := standing_caller caller rfl rfl

theorem standing_endListener (caller : t.isCaller) (down : (c.role t).teardown = none) :
    (c.endListener l).standing t = c.standing t :=
  (standing_wakeTeardowns caller (by rwa [role, standing_setListener caller])).trans
    (standing_setListener caller)

/-- Who is not on the list, or was told something already, is told nothing more. -/
theorem ListenerTurn.apart (h : ListenerTurn c l c₁ ms) (expects : (c.role t).expects.isSome)
    (apart : ¬ (t ∈ (c.link l).pending.map Prod.snd ∧ c.told t = none)) :
    c₁.standing t = c.standing t := by
  have caller := isCaller_of_expects expects
  have set := standing_setListener (c := c) (l := l) (p := .running) caller
  have expects' : ((c.setListener l .running).role t).expects.isSome := by rwa [role, set]
  have apart' : ¬ (t ∈ ((c.setListener l .running).link l).pending.map Prod.snd ∧
      (c.setListener l .running).told t = none) := by
    rwa [pending_setListener, told, set]
  cases h with
  | ends => exact standing_endListener caller (down_of_expects expects)
  | stops => exact givesUp_stopListening.apart expects apart
  | begins => exact (standing_beginListening expects' apart').trans set
  | goesOn reading => exact (standing_listen expects' apart').trans set

theorem ListenerTurn.pending (h : ListenerTurn c l c₁ ms) :
    (c₁.link l).pending ⊆ (c.link l).pending := by
  cases h with
  | ends => rw [pending_endListener]; exact fun _ h => h
  | stops => rw [pending_stopListening]; exact List.nil_subset _
  | begins =>
    rw [← pending_setListener (c := c) (p := .running)]
    exact pending_beginListening
  | goesOn reading =>
    rw [← pending_setListener (c := c) (p := .running)]
    exact pending_listen

/-- The first message that answers a request decides what its sender is told. -/
theorem Awaits.listenerTurn (h : Awaits c l id t) (turn : ListenerTurn c l c₁ ms) :
    Heard c l id t ms c₁ := by
  have caller := isCaller_of_expects h.isSome
  have set := standing_setListener (c := c) (l := l) (p := .running) caller
  have begun : Awaits (c.setListener l .running) l id t := h.congr set pending_setListener
  cases turn with
  | ends =>
    have same := standing_endListener (l := l) caller (down_of_expects h.isSome)
    exact .waits rfl (h.congr same pending_endListener) same
  | stops => exact givesUp_stopListening.heard h rfl
  | begins => exact begun.beginListening.after set
  | goesOn reading => exact begun.listen.after set

end ListenerTurn

/-! ## Steps -/

/-- The messages of a link that are taken in a step: by its listener, or by a call that listens
while the listener waits. -/
def received (c : Client) (l : Nat) : Input → List Json
  | .turn =>
    match c.ready with
    | .listener k :: rest => if k = l then ({ c with ready := rest } : Client).hearTurn l else []
    | .call n :: rest =>
      match c.calls[n]? with
      | some ⟨.fresh .listen, s⟩ =>
        if s ≠ some .cancelled ∧ c.heldLink = l ∧ (c.link l).listener.phase = .waiting then
          ((({ c with ready := rest } : Client).setCall n .running).renewListener l).hearBegin l
        else []
      | _ => []
    | _ => []
  | _ => []

theorem Action.hears (act : Action hit c d c₁ d₁) (hears : Hears d₁ l) : Hears d l := by
  obtain ⟨y, rfl, who⟩ := hears
  cases d with
  | none => cases act.none_eq
  | some x =>
    obtain ⟨task, -, -, errand⟩ := act.task_eq
    exact ⟨x, rfl, by rwa [← task, ← errand]⟩

/-- Who waits for an answer gets one while someone listens. -/
theorem Action.told_reply (act : Action hit c d c₁ d₁) (q : Queue c (turnOf d))
    (waits : (c₁.role t).expects.isSome) (told : c₁.told t = some (.answered o))
    (reply : o.isReply) : c.told t = some (.answered o) ∨ ∃ l, Hears d l := by
  by_cases own : turnOf d = some t
  · obtain ⟨x, rfl, rfl⟩ := Option.map_eq_some_iff.mp own
    have := act.told_own q
    rw [told] at this
    cases this
  · obtain same | ⟨s, same, why⟩ | ⟨-, r, new⟩ := act.stirs own
    · rw [Client.told, same] at told
      exact .inl told
    · rw [Client.told, same] at told
      rw [role, same] at waits
      obtain rfl := Option.some.inj told
      cases why with
      | listener | drain => cases waits
      | attempt here why => exact absurd rfl (why.ne_answered o)
      | call here why =>
        refine absurd rfl (why.ne_answered ?_ o)
        simpa [standing, here, Call.standing] using waits
      | @answer l _ _ _ pending heeds good heard =>
        obtain hears | ⟨reason, rfl⟩ := heard
        · exact .inr ⟨l, hears⟩
        · cases reply
    · rw [Client.told, new] at told
      cases told

/-- Who waits for an answer has waited for it since its last turn. -/
theorem Path.role_waits (path : Path hit c d ls c₁ d₁) (apart : turnOf d ≠ some t)
    (waits : (c₁.role t).expects.isSome) : c₁.role t = c.role t := by
  induction path with
  | nil => rfl
  | step act _ ih =>
    have later := ih (act.apart apart) waits
    obtain same | ⟨-, job, -, -, new⟩ := act.role_other apart
    · exact later.trans same
    · rw [later, new] at waits
      cases waits
  | loses _ _ _ _ ih => exact (ih apart waits).trans (congrArg Standing.role standing_forget)

theorem Path.told_reply (path : Path hit c d ls c₁ d₁) (q : Queue c (turnOf d))
    (quiet : ∀ l, ¬ Hears d l) (waits : (c₁.role t).expects.isSome)
    (told : c₁.told t = some (.answered o)) (reply : o.isReply) :
    c.told t = some (.answered o) := by
  induction path with
  | nil => exact told
  | @step c d b d' ls c₂ d₂ act path ih =>
    have before := ih (act.queue q) (fun l hears => quiet l (act.hears hears)) waits told
    have apart : turnOf d' ≠ some t := by
      intro own
      rw [((act.queue q).apart t own).2.2.2] at before
      cases before
    rw [path.role_waits apart waits] at waits
    exact (act.told_reply q waits before reply).resolve_right fun ⟨l, hears⟩ => quiet l hears
  | @loses c d l id t ls c₂ d₂ idle pending untold path ih =>
    have same u : (c.forget l id).standing u = c.standing u := standing_forget
    have before := ih (q.congr same rfl fun u => has_modifyLink.mpr) quiet waits told
    rwa [Client.told, same] at before

theorem turn_listener {rest : List Task} (first : c.ready = .listener l :: rest) :
    c.turn = ({ c with ready := rest } : Client).runListener l := by
  rw [turn, first]
  rfl

theorem Requests.awaits (r : Requests c none lost) (expects : (c.role t).expects = some (l, id))
    (untold : c.told t = none) (pending : (id, t) ∈ (c.link l).pending) : Awaits c l id t := by
  refine ⟨expects, untold, pending, fun i mem => ?_, r.once l⟩
  have claims : (c.role t).expects = some (l, i) := r.pending l i t mem
  rw [expects] at claims
  exact (Prod.mk.inj (Option.some.inj claims)).2.symm

/-- Who has got an answer in the turn of a listener has got the one that was read for it. -/
theorem ListenerTurn.told {ms : List Json} (turn : ListenerTurn c l c₁ ms)
    (r : Requests c none lost) (expects : (c.role t).expects = some (k, id))
    (told : c₁.told t = some (.answered o)) (reply : o.isReply) :
    c.told t = some (.answered o) ∨ l = k ∧ ∃ m ∈ ms, answerTo? id m = some (.ok o) := by
  by_cases waits : t ∈ (c.link l).pending.map Prod.snd ∧ c.told t = none
  · right
    obtain ⟨mem, untold⟩ := waits
    obtain ⟨⟨j, v⟩, pending, e⟩ := List.mem_map.mp mem
    obtain rfl : v = t := e
    have claims : (c.role v).expects = some (l, j) := r.pending l j v pending
    rw [expects] at claims
    obtain ⟨rfl, rfl⟩ := Prod.mk.inj (Option.some.inj claims)
    refine ⟨rfl, ?_⟩
    cases (r.awaits expects untold pending).listenerTurn turn with
    | waits _ _ same =>
      rw [Client.told, same] at told
      cases told.symm.trans untold
    | ends _ reason same =>
      rw [Client.told, same] at told
      cases told
      cases reply
    | @answered r answer same =>
      obtain ⟨m, mem, answers⟩ := List.exists_of_findSome?_eq_some answer
      rw [Client.told, same] at told
      cases r with
      | ok o' =>
        cases told
        exact ⟨m, mem, answers⟩
      | error fault => cases told.symm.trans untold
  · left
    rwa [Client.told, turn.apart (by rw [expects]; rfl) waits] at told

/-- Who has got an answer in a step has got the one that was read for it. -/
theorem answered_step (sound : Sound c none lost) (client : c.audience = .client)
    (fits : i.Fits c) (expects : ((c.step i).role t).expects = some (k, id))
    (told : (c.step i).told t = some (.answered o)) (reply : o.isReply) :
    (c.role t).expects = some (k, id) ∧ c.told t = some (.answered o) ∨
      (c.role t).expects = some (k, id) ∧
        ∃ m ∈ c.received k i, answerTo? id m = some (.ok o) := by
  have waits : ((c.step i).role t).expects.isSome := by rw [expects]; rfl
  have outside {ls : List Loss} (path : Path (i.hits c) c none ls (c.step i) none) :
      (c.role t).expects = some (k, id) ∧ c.told t = some (.answered o) := by
    rw [path.role_waits nofun waits] at expects
    refine ⟨expects, path.told_reply sound.queue ?_ waits told reply⟩
    rintro l ⟨x, turn, -⟩
    cases turn
  by_cases turns : i = .turn
  · subst turns
    obtain path | ⟨rest, c₁, d, begins, path⟩ := path_step sound.fit .turn fits
    · exact .inl (outside path)
    · have begun := begins.sound sound
      by_cases own : turnOf d = some t
      · -- Who has had its turn was not told anything since.
        exfalso
        have untold := (begun.queue.apart _ own).2.2.2
        have quiet l : ¬ Hears d l := by
          obtain ⟨x, rfl, rfl⟩ := Option.map_eq_some_iff.mp own
          rintro ⟨_, ⟨⟩, other | errand⟩
          · rw [other] at waits
            cases waits
          · exact begun.bounds.observes x.task (.inl (by rwa [roleBy_self rfl]))
              (begins.frame.2.1.trans client)
        cases untold.symm.trans (path.told_reply begun.queue quiet waits told reply)
      · have same := begins.standing own
        have role : c₁.role t = c.role t := congrArg Standing.role same
        rw [path.role_waits own waits, role] at expects
        by_cases listens : ∃ l, turnOf d = some (.listener l)
        · obtain ⟨l, own⟩ := listens
          obtain ⟨x, rfl, task⟩ := Option.map_eq_some_iff.mp own
          have first := begins.first
          rw [task] at first
          let b : Client := { c with ready := rest }
          have requests : Requests b none lost :=
            sound.requests.congr (fun _ => rfl) (fun _ => rfl) (fun _ _ => rfl) (fun _ => rfl)
              fun _ => rfl
          have step : c.step .turn = b.runListener l := turn_listener first
          rw [step] at told
          have asks : (b.role t).expects = some (k, id) := expects
          obtain before | ⟨rfl, heard⟩ :=
            (listenerTurn (c := b) (l := l)).told requests asks told reply
          · exact .inl ⟨expects, before⟩
          · refine .inr ⟨expects, ?_⟩
            simpa [received, first, b] using heard
        · left
          have quiet l : ¬ Hears d l := by
            rintro ⟨x, rfl, task | errand⟩
            · exact listens ⟨l, congrArg some task⟩
            · exact begun.bounds.observes x.task (.inl (by rwa [roleBy_self rfl]))
                (begins.frame.2.1.trans client)
          have answered := path.told_reply begun.queue quiet waits told reply
          rw [Client.told, same] at answered
          exact ⟨expects, answered⟩
  · exact .inl (outside (path_input i fits turns))

end LspGateway.Client
