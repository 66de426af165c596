import LspGateway.Proofs.Client.Informing
import LspGateway.Proofs.Client.Sparing

/-! # The scripts of calls

A call has one thing to say, or a notification that announces a request. It says all of that in one
turn and to one process, once there is a process to say it to. Only a write that fails after it was
made parts a request from its announcement. While the process takes its input everything is written,
and the answer of the server is what the call ends with.
-/

namespace LspGateway.Client

variable {good good' : List Send → Prop} {broken broken' : Prop} {b c c₁ : Client} {d d₁ : Option Doer}
  {lost : List Loss} {l j k n : Nat} {i : Input} {s : Signal} {send : Send} {ss : List Send}
  {m : Json} {ms us : List Json} {p : CallPhase} {o : Outcome} {e : Error}

/-- One thing to say, or a notification that announces a request. -/
inductive IsScript : List Send → Prop
  | single {send : Send} : IsScript [send]
  | announced {method method' : String} {params params' : Json} :
    IsScript [.notify method params, .request method' params']

/-- The write of something that a call had to say has failed after it was made. -/
def HasBroken (c : Client) : Prop := ∃ n, c.callOutcome? n = some (.error (.unwritable .broken))

/-- What is written of a script: all of it, or its first part if the write of that has failed. -/
inductive Utters (broken : Prop) : List Send → List Json → Prop
  | all {ss : List Send} (id : Nat) : Utters broken ss (ss.map (·.message id))
  | first {send : Send} {ss : List Send} (id : Nat) (why : broken) :
    Utters broken (send :: ss) [send.message id]

/-- What a call has still to say. -/
def unsaid (c : Client) (n : Nat) : List Send := (c.calls[n]?.map (·.phase.sends)).getD []

theorem unsaid_of_call {q : Call} (here : c.calls[n]? = some q) : c.unsaid n = q.phase.sends := by
  simp [unsaid, here]

theorem unsaid_of_phase (stands : ∀ q, c.calls[n]? = some q → q.phase.sends = ss) :
    c.unsaid n = [] ∨ c.unsaid n = ss := by
  cases here : c.calls[n]? with
  | none => exact .inl (by simp [unsaid, here])
  | some q => exact .inr ((unsaid_of_call here).trans (stands q here))

theorem unsaid_setCall : (c.setCall n p).unsaid n = [] ∨ (c.setCall n p).unsaid n = p.sends :=
  unsaid_of_phase fun _ here => by rw [phase_setCall here]

/-- The call has nothing to say any more. -/
theorem unsaid_nil (stands : ∀ q, c.calls[n]? = some q → q.phase.sends = []) : c.unsaid n = [] := by
  obtain none' | none' := unsaid_of_phase stands <;> exact none'

theorem unsaid_finish : (c.finish n o).unsaid n = [] :=
  unsaid_nil fun _ here => by rw [phase_finish here]; rfl

theorem unsaid_awaiting {id : Nat} : (c.setCall n (.awaiting l id [])).unsaid n = [] :=
  unsaid_nil fun _ here => by rw [phase_setCall here]; rfl

theorem sentTo_finish : (c.finish n o).sentTo k = c.sentTo k :=
  (sentTo_quiet rfl).trans (sentTo_congr rfl)

/-! ## Writes -/

/-- Who writes to an open connection of a process that takes input has written. -/
theorem sentTo_write_open (asks : hasMethod m) (up : (c.link l).closed = false)
    (takes : (c.link l).process.inputFault ≠ some .gone) : (c.write l m).1.sentTo k =
      if k = (c.link l).spawn then c.sentTo k ++ [m] else c.sentTo k := by
  have fed {bytes : List UInt8} : ((c.event l (.wrote m)).feed l bytes).history =
      (c.event l (.wrote m)).history := by
    unfold feed
    split
    · obtain same | ⟨-, told⟩ := wakeListener_eq (l := l)
        (c := (c.event l (.wrote m)).modifyProcess l fun p =>
          { p with output := p.output.append bytes })
      · rw [same]
        rfl
      · rw [told]
        rfl
    · rfl
  have history : (c.write l m).1.history = (c.event l (.wrote m)).history := by
    unfold write
    rw [if_neg (by simp [up])]
    dsimp only
    rw [if_neg (by exact takes)]
    split <;> split <;> first | exact fed | rfl
  rw [sentTo_congr history, sentTo_wrote asks]

theorem write_fails (fails : c.write l m = (c₁, .error e)) : c₁ = c ∨
    e = .unwritable .broken ∧ (c.link l).closed = false ∧
      (c.link l).process.inputFault ≠ some .gone := by
  have result := write_result (c := c) (l := l) (m := m)
  rw [fails] at result
  cases up : (c.link l).closed with
  | true =>
    have same : c.write l m = (c, .error .closed) := by rw [write, if_pos up]
    exact .inl (congrArg Prod.fst (fails.symm.trans same))
  | false =>
    rw [if_neg (by simp [up])] at result
    cases fault : (c.link l).process.inputFault with
    | none =>
      rw [fault] at result
      cases result
    | some f =>
      rw [fault] at result
      obtain rfl := Except.error.inj result
      cases f with
      | broken => exact .inr ⟨rfl, rfl, by simp⟩
      | gone =>
        have same : c.write l m = (c, .error (.unwritable .gone)) := by
          rw [write, if_neg (by simp [up])]
          exact if_pos fault
        exact .inl (congrArg Prod.fst (fails.symm.trans same))

theorem write_succeeds (succeeds : c.write l m = (c₁, .ok ())) :
    (c.link l).closed = false ∧ (c.link l).process.inputFault = none := by
  have result := write_result (c := c) (l := l) (m := m)
  rw [succeeds] at result
  split at result
  · cases result
  · next up =>
    refine ⟨by simpa using up, ?_⟩
    cases fault : (c.link l).process.inputFault with
    | none => rfl
    | some f => rw [fault] at result; cases result

/-- A request to the process of an open connection that takes input was written. -/
theorem sentTo_request_open {method : String} {params : Json} {t : Task}
    (up : (c.link l).isClosed = false) (takes : (c.link l).process.inputFault ≠ some .gone) :
    (c.request l t method params).1.sentTo k = if k = (c.link l).spawn then
      c.sentTo k ++ [message (some ((c.link l).lastId + 1)) method params] else c.sentTo k := by
  have spawn : ((c.register l t).link l).spawn = (c.link l).spawn := spawn_register
  have closed : ((c.register l t).link l).closed = (c.link l).closed :=
    link_modifyLink_same Link.closed fun _ => rfl
  have process : ((c.register l t).link l).process = (c.link l).process :=
    link_modifyLink_same Link.process fun _ => rfl
  have wrote := sentTo_write_open (c := c.register l t) (k := k)
    (m := message (some ((c.link l).lastId + 1)) method params) hasMethod_message
    (closed.trans (closed_of_up up)) (process ▸ takes)
  rw [spawn] at wrote
  rw [request_eq up]
  split
  · next e => rw [e] at wrote; exact wrote
  · next e => rw [e] at wrote; exact wrote

/-! ## The turn of a call -/

/-- What has become of a call with a script that had its turn. -/
inductive Recites (c : Client) (n : Nat) (ss : List Send) (c₁ : Client) : Prop
  | silent (same : ∀ k, c₁.sentTo k = c.sentTo k) (left : c₁.unsaid n = [] ∨ c₁.unsaid n = ss)
  | spoken {j : Nat} {us : List Json} (utters : Utters c₁.HasBroken ss us) (left : c₁.unsaid n = [])
      (sent : ∀ k, c₁.sentTo k = if k = j then c.sentTo k ++ us else c.sentTo k)

namespace Recites

theorem finish (same : ∀ k, b.sentTo k = c.sentTo k) : Recites c n ss (b.finish n o) :=
  .silent (fun k => sentTo_finish.trans (same k)) (.inl unsaid_finish)

theorem join : Recites c n ss (c.join n ss) := by
  have history : c.shareAttempt.1.history = c.history := by
    unfold shareAttempt
    dsimp only
    split
    · split <;> rfl
    · rfl
  exact .silent (fun k => sentTo_congr history) unsaid_setCall

/-- The one thing that there is to say was written or not. -/
theorem single (id : Nat) (left : c₁.unsaid n = []) (ends : ∀ k, c₁.sentTo k = b.sentTo k)
    (said : ∀ k, b.sentTo k = c.sentTo k ∨
      k = j ∧ b.sentTo k = c.sentTo k ++ [send.message id]) : Recites c n [send] c₁ := by
  obtain same | ⟨-, more⟩ := said j
  · refine .silent (fun k => (ends k).trans ?_) (.inl left)
    obtain same' | ⟨rfl, -⟩ := said k
    · exact same'
    · exact same
  · refine .spoken (j := j) (.all id) left fun k => (ends k).trans ?_
    split
    · next e => rw [e]; exact more
    · next other => exact (said k).resolve_right fun h => other h.1

end Recites

section SendAll

variable {method method' : String} {params params' last : Json}

theorem recites_notify (usable : c.usableLink = .ok l) :
    Recites c n [.notify method params] (c.sendAll n last [.notify method params]) := by
  have said k : (c.notify l method params).1.sentTo k = c.sentTo k ∨ k = (c.link l).spawn ∧
      (c.notify l method params).1.sentTo k = c.sentTo k ++ [message none method params] :=
    sentTo_notify
  rw [sendAll_notify usable]
  split <;> next e =>
    rw [e] at said
    exact .single 0 unsaid_finish (fun _ => sentTo_finish) said

theorem recites_request (usable : c.usableLink = .ok l) :
    Recites c n [.request method params] (c.sendAll n last [.request method params]) := by
  have said k : (c.request l (.call n) method params).1.sentTo k = c.sentTo k ∨
      k = (c.link l).spawn ∧ (c.request l (.call n) method params).1.sentTo k =
        c.sentTo k ++ [message (some ((c.link l).lastId + 1)) method params] := sentTo_request
  rw [sendAll_request_eq usable]
  split
  · next e =>
    rw [e] at said
    exact .single _ unsaid_awaiting (fun _ => rfl) said
  · next e =>
    rw [e] at said
    exact .single _ unsaid_finish (fun _ => sentTo_finish) said

/-- After a write that succeeds the process can be sent more. -/
theorem usable_of_write (usable : c.usableLink = .ok l) (here : l < c.links.length)
    (up : (c.link l).isClosed = false) (wrote : c.write l m = (b, .ok ())) :
    b.usableLink = .ok l ∧ (b.link l).isClosed = false ∧
      (b.link l).process.inputFault ≠ some .gone ∧ (b.link l).spawn = (c.link l).spawn := by
  obtain ⟨-, fault⟩ := write_succeeds wrote
  obtain ⟨output, signal, link⟩ := link_write_supplied (m := m) here
  have frame := frame_write (c := c) (l := l) (m := m)
  rw [wrote] at link frame
  obtain ⟨used, ready⟩ := usableLink_ok usable
  refine ⟨?_, ?_, ?_, ?_⟩
  · rw [usableLink, frame.held, frame.state, used, ready]
    rfl
  · rw [link]
    exact up
  · have same : (b.link l).process.inputFault = (c.link l).process.inputFault := by rw [link]; rfl
    simp [same, fault]
  · rw [link]
    rfl

/-- A request whose announcement was written without a fault is written in the same turn. -/
theorem recites_announced (usable : c.usableLink = .ok l) (here : l < c.links.length)
    (lt : n < c.calls.length) :
    Recites c n [.notify method params, .request method' params']
      (c.sendAll n last [.notify method params, .request method' params']) := by
  rw [sendAll_notify usable]
  cases up : (c.link l).isClosed with
  | true =>
    rw [notify, if_pos up]
    exact .finish fun _ => rfl
  | false =>
    have asks : hasMethod (message none method params) := hasMethod_message
    rw [notify_eq up]
    rcases wrote : c.write l (message none method params) with ⟨b, e | _⟩
    · dsimp only
      obtain rfl | ⟨rfl, open', takes⟩ := write_fails wrote
      · exact .finish fun _ => rfl
      · have calls := (activities_write (c := c) (l := l) (m := message none method params)).2
        rw [wrote] at calls
        refine .spoken (.first 0 ⟨n, callOutcome_finish (calls ▸ lt)⟩) unsaid_finish
          (j := (c.link l).spawn) fun k => ?_
        have said := sentTo_write_open (k := k) asks open' takes
        rw [wrote] at said
        exact sentTo_finish.trans said
    · dsimp only
      obtain ⟨usable', up', takes, spawn⟩ := usable_of_write usable here up wrote
      have said k : (b.request l (.call n) method' params').1.sentTo k =
          if k = (c.link l).spawn then c.sentTo k ++ [message none method params,
            message (some ((b.link l).lastId + 1)) method' params'] else c.sentTo k := by
        rw [sentTo_request_open up' takes, spawn, sentTo_write_ok asks wrote]
        split <;> simp
      rw [sendAll_request_eq usable']
      split
      · next e =>
        rw [e] at said
        exact .spoken (j := (c.link l).spawn) (.all _) unsaid_awaiting said
      · next e =>
        rw [e] at said
        exact .spoken (j := (c.link l).spawn) (.all _) unsaid_finish fun k =>
          sentTo_finish.trans (said k)

theorem recites_usable (script : IsScript ss) (usable : c.usableLink = .ok l)
    (here : l < c.links.length) (lt : n < c.calls.length) : Recites c n ss (c.sendAll n last ss) := by
  cases script with
  | @single send =>
    cases send with
    | notify => exact recites_notify usable
    | request => exact recites_request usable
  | announced => exact recites_announced usable here lt

end SendAll

section Resume

variable (holds : c.HoldsLinks) (lt : n < c.calls.length)
include holds lt

theorem recites_sendAll {last : Json} (script : ss = [] ∨ IsScript ss) :
    Recites c n ss (c.sendAll n last ss) := by
  obtain rfl | script := script
  · exact .finish fun _ => rfl
  · cases usable : c.usableLink with
    | ok l => exact recites_usable script usable (holds l (.inr (usableLink_ok usable).1)) lt
    | error e =>
      obtain ⟨send, rest, rfl⟩ : ∃ send rest, ss = send :: rest := by
        cases script <;> exact ⟨_, _, rfl⟩
      rw [sendAll, sendOne, usable]
      split
      · exact .join
      · exact .finish fun _ => rfl

theorem recites_sendJoined (script : ss = [] ∨ IsScript ss) :
    Recites c n ss (c.sendJoined n ss) := by
  cases ss with
  | nil => exact .finish fun _ => rfl
  | cons send rest =>
    cases usable : c.usableLink with
    | ok l =>
      have same : c.sendJoined n (send :: rest) = c.sendAll n .null (send :: rest) := by
        rw [sendAll, if_neg (by simp [needsStart_of_usable usable])]
        rfl
      rw [same]
      exact recites_sendAll holds lt script
    | error e =>
      rw [sendJoined, sendOne, usable]
      exact .finish fun _ => rfl

theorem recites_resumeCall (errand : p.role.errand = .sends)
    (script : p.sends = [] ∨ IsScript p.sends) : Recites c n p.sends (c.resumeCall n s p) := by
  cases p with
  | fresh job =>
    rw [resumeCall]
    split
    · exact .finish fun _ => rfl
    · cases job with
      | start =>
        rw [beginCall]
        split
        · exact .join
        · exact .finish fun _ => rfl
      | sends ss => exact recites_sendAll holds lt script
      | _ => cases errand
  | joined a ss =>
    unfold resumeCall
    dsimp only
    split
    · exact recites_sendJoined holds lt script
    · exact .finish fun _ => rfl
    · exact .finish fun _ => rfl
  | awaiting l id ss =>
    unfold resumeCall
    dsimp only
    split
    · exact recites_sendAll holds lt script
    · exact .finish fun _ => rfl
    · exact .finish fun _ => sentTo_congr rfl
  | _ => cases errand

end Resume

theorem recites_turn {told : Option Signal} (sound : Sound c none lost)
    (first : c.ready.head? = some (.call n)) (here : c.calls[n]? = some ⟨p, told⟩)
    (errand : p.role.errand = .sends) (script : p.sends = [] ∨ IsScript p.sends) :
    Recites c n p.sends c.turn := by
  obtain ⟨rest, ready⟩ := List.head?_eq_some_iff.mp first
  have lt : n < (({ c with ready := rest } : Client).setCall n .running).calls.length := by
    simpa [setCall] using (List.getElem?_eq_some_iff.mp here).1
  rw [turn_call ready here]
  have recites := recites_resumeCall (c := ({ c with ready := rest } : Client).setCall n .running)
    (s := told.getD .go) sound.bounds.holds lt errand script
  -- That a turn begins shows in no message.
  cases recites with
  | silent same left => exact .silent same left
  | spoken utters left sent => exact .spoken utters left sent

/-! ## What no call has to say -/

/-- What a client says by itself. -/
inductive IsRoutine : Json → Prop
  | introduces (c : Client) : IsRoutine c.opening
  | greets : IsRoutine greeting
  | stops (id : Nat) : IsRoutine (stopRequest id)
  | leaves : IsRoutine farewell

/-- All that was said in between is routine. -/
def Adds (b c : Client) : Prop :=
  ∀ k, ∃ rs, c.sentTo k = b.sentTo k ++ rs ∧ ∀ m ∈ rs, IsRoutine m

theorem adds_same (same : ∀ k, c.sentTo k = b.sentTo k) : Adds b c :=
  fun k => ⟨[], by rw [same, List.append_nil], nofun⟩

theorem Adds.say (h : Adds b c) (routine : IsRoutine m)
    (sent : ∀ k, c₁.sentTo k = if k = j then c.sentTo k ++ [m] else c.sentTo k) : Adds b c₁ := by
  intro k
  obtain ⟨rs, was, all⟩ := h k
  rw [sent, was]
  split
  · refine ⟨rs ++ [m], List.append_assoc .., fun m' mem => ?_⟩
    obtain mem | mem := List.mem_append.mp mem
    · exact all m' mem
    · rw [List.mem_singleton.mp mem]
      exact routine
  · exact ⟨rs, rfl, all⟩

/-- Only a call says anything else. -/
theorem Posts.isRoutine (posts : Posts c d l m d₁) (bounds : Bounds c d)
    (caller : ∀ x, d = some x → x.task.isCall = false) : IsRoutine m := by
  have idle x (turn : d = some x) : x.role.errand = .none := by
    subst turn
    by_contra other
    have call := bounds.calls x.task (by rwa [roleBy_self rfl])
    rw [caller x rfl] at call
    cases call
  have stays x (turn : d = some x) : x.role.disposes = false := by
    have none' := idle x turn
    subst turn
    by_contra disposes
    have errand := bounds.disposes x.task (by rw [roleBy_self rfl]; simpa using disposes)
    rw [roleBy_self rfl, none'] at errand
    cases errand
  cases posts with
  | tells used why =>
    cases why with
    | sends sends => cases (idle _ rfl).symm.trans sends
    | exits disposes => cases (stays _ rfl).symm.trans disposes
  | greets => exact .greets
  | asks used why =>
    generalize some _ = id at why
    cases why with
    | introduces => exact .introduces c
    | sends sends => cases (idle _ rfl).symm.trans sends
    | shutsDown disposes => cases (stays _ rfl).symm.trans disposes
    | exits disposes => cases (stays _ rfl).symm.trans disposes

/-- What was said since a moment by somebody who is no call. -/
structure Routinely (b c : Client) (d : Option Doer) : Prop where
  caller : ∀ x, d = some x → x.task.isCall = false
  adds : Adds b c

theorem invariant_routinely : Invariant Never fun c d _ => Routinely b c d := by
  refine ⟨fun {hit c d c₁ d₁ lost} sound h act => ⟨fun y turn => ?_, ?_⟩, fun _ h _ _ _ => ?_,
    fun given => given.elim⟩
  · cases d with
    | none =>
      rw [act.none_eq] at turn
      cases turn
    | some x =>
      subst turn
      rw [act.task_eq.1]
      exact h.caller x rfl
  · obtain same | ⟨l, m, posts, sent, -⟩ := act.posts
    · intro k
      rw [same]
      exact h.adds k
    · exact h.adds.say (posts.isRoutine sound.bounds h.caller) sent
  · exact ⟨h.caller, h.adds⟩

theorem adds_apart (sound : Sound c none lost) (fits : i.Fits c) (apart : ∀ n, ¬ c.IsTurn n i) :
    Adds c (c.step i) := by
  by_cases turns : i = .turn
  · subst turns
    obtain path | ⟨rest, c₁, d, begins, path⟩ := @path_turn NoHit c sound.fit
    · have start : Routinely c c none := ⟨fun x turn => (by cases turn), adds_same fun _ => rfl⟩
      exact (invariant_routinely.path path sound start).2.adds
    · have start : Routinely c c₁ d := by
        refine ⟨?_, adds_same fun _ => sentTo_congr begins.frame.2.2.2.1⟩
        rintro x rfl
        cases task : x.task with
        | call n => exact absurd ⟨rfl, by rw [begins.first, task]; rfl⟩ (apart n)
        | _ => rfl
      exact (invariant_routinely.path path (begins.sound sound) start).2.adds
  · exact adds_same fun _ => (path_input i fits turns).sentTo_none

/-! ## Steps -/

/-- What a step does to what calls have to say and to what is said. -/
inductive Delivers (c : Client) (i : Input) (c₁ : Client) : Prop
  | recites {n : Nat} (recites : Recites c n (c.unsaid n) c₁)
      (others : ∀ m, m ≠ n → c₁.unsaid m = [] ∨ c₁.unsaid m = c.unsaid m)
  | routine (adds : Adds c c₁) (left : ∀ m, c₁.unsaid m = [] ∨ c₁.unsaid m = c.unsaid m ∨
      m = c.calls.length ∧ i = .call (.sends (c₁.unsaid m)))

theorem unsaid_apart (sound : Sound c none lost) (fits : i.Fits c) (apart : ¬ c.IsTurn n i) :
    (c.step i).unsaid n = [] ∨ (c.step i).unsaid n = c.unsaid n ∨
      n = c.calls.length ∧ i = .call (.sends ((c.step i).unsaid n)) := by
  cases after : (c.step i).calls[n]? with
  | none => exact .inl (by simp [unsaid, after])
  | some q =>
    rw [unsaid_of_call after]
    obtain ⟨s, before⟩ | ⟨job, rfl, new, rfl⟩ := call_phase_before sound fits apart after
    · exact .inr (.inl (unsaid_of_call before).symm)
    · cases job with
      | sends ss => exact .inr (.inr ⟨new, rfl⟩)
      | _ => exact .inl rfl

/-- A disposal that has its turn says what is routine. -/
theorem Turned.adds {p : CallPhase} (turned : Turned n p s c c₁) (other : p.role.errand ≠ .sends) :
    Adds c c₁ ∧ c₁.unsaid n = [] := by
  have alone (m : Json) (routine : IsRoutine m) (l : Nat)
      (others : ∀ k, (c.link l).spawn ≠ k → c₁.sentTo k = c.sentTo k)
      (own : c₁.sentTo (c.link l).spawn = c.sentTo (c.link l).spawn ++ [m]) : Adds c c₁ := by
    refine (adds_same (fun _ => rfl) : Adds c c).say routine (j := (c.link l).spawn) fun k => ?_
    split
    · next e => rw [e, own]
    · next e => exact others k (Ne.symm e)
  have same (l : Nat) (others : ∀ k, (c.link l).spawn ≠ k → c₁.sentTo k = c.sentTo k)
      (own : c₁.sentTo (c.link l).spawn = c.sentTo (c.link l).spawn) : Adds c c₁ := by
    refine adds_same fun k => ?_
    by_cases e : (c.link l).spawn = k
    · rw [← e, own]
    · exact others k e
  have silent (pauses : Pauses c₁ n []) : c₁.unsaid n = [] := by
    refine unsaid_nil fun q here => ?_
    exact List.subset_nil.mp (pauses q here).1
  cases turned with
  | sends errand => exact absurd errand other
  | quits quits => exact ⟨adds_same quits.sent, silent quits.pauses⟩
  | @asks l id speaks asks =>
    constructor
    · obtain ⟨-, own⟩ | ⟨id', own, -⟩ := asks.sent
      · exact same l asks.others own
      · exact alone _ (.stops id') l asks.others own
    · refine unsaid_nil fun q here => ?_
      obtain ⟨d, waits⟩ := asks.waits q here
      rw [waits]
      rfl
  | @leaves l id d v waits agreed leaves =>
    constructor
    · obtain own | own := leaves.sent
      · exact same l leaves.others own
      · exact alone _ .leaves l leaves.others own
    · exact silent leaves.pauses

/-- A call says its script in a turn of its own, and all else that is said is routine. -/
theorem delivers_step (sound : Sound c none lost) (client : c.audience = .client) (fits : i.Fits c)
    (scripts : ∀ n, c.unsaid n = [] ∨ IsScript (c.unsaid n)) : Delivers c i (c.step i) := by
  by_cases turns : ∃ n, c.IsTurn n i
  · obtain ⟨n, rfl, first⟩ := turns
    obtain ⟨p, told, here⟩ := exists_call sound first
    have own : c.unsaid n = p.sends := unsaid_of_call here
    have others m (other : m ≠ n) : (c.step .turn).unsaid m = [] ∨
        (c.step .turn).unsaid m = c.unsaid m := by
      have apart : ¬ c.IsTurn m .turn := by
        rintro ⟨-, first'⟩
        have same := Option.some.inj (first.symm.trans first')
        exact other (Task.call.inj same).symm
      refine (unsaid_apart sound fits apart).imp_right fun h => h.resolve_right ?_
      rintro ⟨-, ⟨⟩⟩
    by_cases errand : p.role.errand = .sends
    · refine .recites ?_ others
      rw [own]
      exact recites_turn sound first here errand (own ▸ scripts n)
    · obtain ⟨adds, none'⟩ := (turned_turn sound client first here).adds errand
      refine .routine adds fun m => ?_
      by_cases same : m = n
      · exact .inl (same ▸ none')
      · exact (others m same).imp_right .inl
  · simp only [not_exists] at turns
    exact .routine (adds_apart sound fits turns) fun m => unsaid_apart sound fits (turns m)

theorem hasBroken_step (sound : Sound c none lost) (fits : i.Fits c) (h : c.HasBroken) :
    (c.step i).HasBroken := by
  obtain ⟨n, ended⟩ := h
  obtain ⟨t, here⟩ := callOutcome_eq_some.mp ended
  have apart : ¬ c.IsTurn n i := by
    rintro ⟨-, first⟩
    obtain ⟨⟨⟩⟩ | ⟨live, -⟩ := sound.queue.canGo (.call n) (List.mem_of_head? first)
    rw [standing_of_call here] at live
    cases live
  obtain ⟨s, after⟩ := call_kept sound fits apart here
  exact ⟨n, callOutcome_eq_some.mpr ⟨s, after⟩⟩

/-! ## Runs -/

/-- All that a process was sent is routine or was uttered of scripts of a kind. -/
inductive Talk (good : List Send → Prop) (broken : Prop) : List Json → Prop
  | nil : Talk good broken []
  | routine {ms : List Json} {m : Json} (talk : Talk good broken ms) (is : IsRoutine m) :
    Talk good broken (ms ++ [m])
  | script {ms us : List Json} {ss : List Send} (talk : Talk good broken ms) (kind : good ss)
      (utters : Utters broken ss us) : Talk good broken (ms ++ us)

theorem Utters.mono (h : Utters broken ss us) (imp : broken → broken') : Utters broken' ss us := by
  cases h with
  | all id => exact .all id
  | first id why => exact .first id (imp why)

theorem Talk.mono (h : Talk good broken ms) (kinds : ∀ ss, good ss → good' ss)
    (imp : broken → broken') : Talk good' broken' ms := by
  induction h with
  | nil => exact .nil
  | routine _ is ih => exact ih.routine is
  | script _ kind utters ih => exact ih.script (kinds _ kind) (utters.mono imp)

theorem Talk.adds {rs : List Json} (h : Talk good broken ms) (all : ∀ m ∈ rs, IsRoutine m) :
    Talk good broken (ms ++ rs) := by
  induction rs generalizing ms with
  | nil => rwa [List.append_nil]
  | cons m rs ih =>
    rw [List.append_cons]
    exact ih (h.routine (all m List.mem_cons_self)) fun m' mem => all m' (List.mem_cons_of_mem _ mem)

/-- What a process was sent at some point is routine, or was uttered with what stands around it. -/
theorem Talk.locate {before after : List Json} (h : Talk good broken ms)
    (sent : ms = before ++ m :: after) : IsRoutine m ∨ ∃ ss pre first rest later, good ss ∧
      Utters broken ss (first ++ m :: rest) ∧ before = pre ++ first ∧ after = rest ++ later := by
  induction h generalizing after with
  | nil => simp at sent
  | @routine ms m' _ is ih =>
    obtain ⟨as, rfl, last⟩ | ⟨as, inner, last⟩ := List.append_eq_append_iff.mp sent
    · cases as with
      | nil =>
        obtain ⟨rfl, -⟩ := List.cons.inj last
        exact .inl is
      | cons => simp at last
    · cases as with
      | nil =>
        obtain ⟨rfl, -⟩ := List.cons.inj last
        exact .inl is
      | cons a as =>
        obtain ⟨rfl, e⟩ := List.cons.inj last
        obtain routine | ⟨ss, pre, first, rest, later, kind, utters, same, rfl⟩ := ih inner
        · exact .inl routine
        · refine .inr ⟨ss, pre, first, rest, later ++ [m'], kind, utters, same, ?_⟩
          exact e.trans (List.append_assoc ..)
  | @script ms us ss _ kind utters ih =>
    obtain ⟨as, rfl, rfl⟩ | ⟨as, inner, last⟩ := List.append_eq_append_iff.mp sent
    · exact .inr ⟨ss, ms, as, after, [], kind, utters, rfl, (List.append_nil _).symm⟩
    · cases as with
      | nil =>
        refine .inr ⟨ss, ms, [], after, [], kind, ?_, ?_, (List.append_nil _).symm⟩
        · exact last ▸ utters
        · simpa using inner.symm
      | cons a as =>
        obtain ⟨rfl, e⟩ := List.cons.inj last
        obtain routine | ⟨ss', pre, first, rest, later, kind', utters', same, rfl⟩ := ih inner
        · exact .inl routine
        · refine .inr ⟨ss', pre, first, rest, later ++ us, kind', utters', same, ?_⟩
          exact e.trans (List.append_assoc ..)

/-- How a client stands whose calls have scripts of a kind. -/
structure Scripted (good : List Send → Prop) (c : Client) : Prop where
  sound : ∃ lost, Sound c none lost
  client : c.audience = .client
  unsaid : ∀ n, c.unsaid n = [] ∨ good (c.unsaid n)
  talks : ∀ k, Talk good c.HasBroken (c.sentTo k)

theorem scripted_ofConfig {config : ServerConfig} {workspace : String} {policies : List Policy} :
    Scripted good (ofConfig config workspace policies) :=
  ⟨⟨[], sound_ofConfig⟩, rfl, fun _ => .inl rfl, fun _ => .nil⟩

namespace Scripted

theorem mono (h : Scripted good c) (kinds : ∀ ss, good ss → good' ss) : Scripted good' c :=
  ⟨h.sound, h.client, fun n => (h.unsaid n).imp_right (kinds _),
    fun k => (h.talks k).mono kinds fun broken => broken⟩

theorem delivers (h : Scripted good c) (scripts : ∀ ss, good ss → IsScript ss) (fits : i.Fits c) :
    Delivers c i (c.step i) := by
  obtain ⟨lost, sound⟩ := h.sound
  exact delivers_step sound h.client fits fun n => (h.unsaid n).imp_right (scripts _)

theorem step (h : Scripted good c) (scripts : ∀ ss, good ss → IsScript ss) (fits : i.Fits c)
    (given : ∀ ss, i = .call (.sends ss) → good ss) : Scripted good (c.step i) := by
  obtain ⟨lost, sound⟩ := h.sound
  have talks k : Talk good (c.step i).HasBroken (c.sentTo k) :=
    (h.talks k).mono (fun _ kind => kind) (hasBroken_step sound fits)
  have sound' := (invariant_true.step trivial fits sound trivial).1
  have client := (audience_step sound.fit fits).trans h.client
  cases h.delivers scripts fits with
  | @recites n recites others =>
    have rest m (other : m ≠ n) : (c.step i).unsaid m = [] ∨ good ((c.step i).unsaid m) := by
      obtain none' | same := others m other
      · exact .inl none'
      · rw [same]
        exact h.unsaid m
    cases recites with
    | silent same left =>
      refine ⟨⟨_, sound'⟩, client, fun m => ?_, fun k => same k ▸ talks k⟩
      by_cases own : m = n
      · subst own
        obtain none' | same := left
        · exact .inl none'
        · rw [same]
          exact h.unsaid m
      · exact rest m own
    | @spoken j us utters left sent =>
      refine ⟨⟨_, sound'⟩, client, fun m => ?_, fun k => ?_⟩
      · by_cases own : m = n
        · exact .inl (own ▸ left)
        · exact rest m own
      · rw [sent]
        split
        · obtain none' | kind := h.unsaid n
          · rw [none'] at utters
            cases utters
            simpa using talks k
          · exact (talks k).script kind utters
        · exact talks k
  | routine adds left =>
    refine ⟨⟨_, sound'⟩, client, fun m => ?_, fun k => ?_⟩
    · obtain none' | same | ⟨-, new⟩ := left m
      · exact .inl none'
      · rw [same]
        exact h.unsaid m
      · exact .inr (given _ new)
    · obtain ⟨rs, sent, all⟩ := adds k
      rw [sent]
      exact (talks k).adds all

end Scripted

/-! ## Processes that take their input -/

section CanSend

variable {a : Nat} {method : String} {params last result : Json} {notices : List (String × Json)}

/-- What is sent over a link reaches its process. -/
structure CanSend (c : Client) (l : Nat) : Prop where
  here : l < c.links.length
  usable : c.usableLink = .ok l
  up : (c.link l).isClosed = false
  takes : (c.link l).process.inputFault = none

/-- Notifications, and then a request. -/
def announcing (notices : List (String × Json)) (method : String) (params : Json) : List Send :=
  notices.foldr (fun (name, told) ss => .notify name told :: ss) [.request method params]

/-- A call has written all that it has to say, and waits for the answer. -/
structure HasAsked (c : Client) (l n : Nat) (ss : List Send) (c' : Client) : Prop where
  sent : ∀ k, c'.sentTo k = if k = (c.link l).spawn then
    c.sentTo k ++ ss.map (·.message ((c.link l).lastId + 1)) else c.sentTo k
  waits : ∀ call, c'.calls[n]? = some call →
    call.phase = .awaiting l ((c.link l).lastId + 1) []

namespace CanSend

theorem write_ok (can : c.CanSend l) (m : Json) : ∃ b, c.write l m = (b, .ok ()) := by
  have result := write_result (c := c) (l := l) (m := m)
  rw [closed_of_up can.up, can.takes] at result
  exact ⟨_, Prod.ext rfl result⟩

/-- After a write the client can send more, and the next id is the same. -/
theorem after_write (can : c.CanSend l) (wrote : c.write l m = (b, .ok ())) :
    b.CanSend l ∧ (b.link l).spawn = (c.link l).spawn ∧ (b.link l).lastId = (c.link l).lastId := by
  obtain ⟨usable, up, -, spawn⟩ := usable_of_write can.usable can.here can.up wrote
  obtain ⟨output, signal, link⟩ := link_write_supplied (m := m) can.here
  have length := links_length_write (c := c) (l := l) (m := m)
  rw [wrote] at link length
  refine ⟨⟨length ▸ can.here, usable, up, ?_⟩, spawn, ?_⟩
  · rw [link]
    exact can.takes
  · rw [link]
    rfl

theorem register (can : c.CanSend l) (t : Task) : (c.register l t).CanSend l := by
  refine ⟨?_, can.usable, ?_, ?_⟩
  · rw [Client.register, links_length_modifyLink]
    exact can.here
  · have same : ((c.register l t).link l).isClosed = (c.link l).isClosed :=
      link_modifyLink_same Link.isClosed fun _ => rfl
    rw [same, can.up]
  · have same : ((c.register l t).link l).process = (c.link l).process :=
      link_modifyLink_same Link.process fun _ => rfl
    rw [same, can.takes]

theorem sendAll_request (can : c.CanSend l) :
    c.HasAsked l n [.request method params] (c.sendAll n last [.request method params]) := by
  obtain ⟨b, wrote⟩ := (can.register (.call n)).write_ok
    (message (some ((c.link l).lastId + 1)) method params)
  have asked : c.request l (.call n) method params = (b, .ok ((c.link l).lastId + 1)) := by
    rw [request_eq can.up, wrote]
  rw [sendAll_request_eq can.usable, asked]
  refine ⟨fun k => ?_, fun call here => phase_setCall here⟩
  have sent : (c.request l (.call n) method params).1.sentTo k = _ :=
    sentTo_request_open can.up (by simp [can.takes])
  rwa [asked] at sent

/-- All notifications are written, and then the request. -/
theorem sendAll (can : c.CanSend l) :
    c.HasAsked l n (announcing notices method params)
      (c.sendAll n last (announcing notices method params)) := by
  induction notices generalizing c last with
  | nil => exact can.sendAll_request
  | cons notice notices ih =>
    obtain ⟨name, told⟩ := notice
    obtain ⟨b, wrote⟩ := can.write_ok (message none name told)
    obtain ⟨can', spawn, lastId⟩ := can.after_write wrote
    obtain ⟨sent, waits⟩ : b.HasAsked l n _ (b.sendAll n .null _) := ih can'
    rw [announcing, List.foldr_cons, sendAll_notify can.usable, notify_eq can.up, wrote]
    rw [spawn, lastId] at sent
    rw [lastId] at waits
    refine ⟨fun k => (sent k).trans ?_, waits⟩
    rw [sentTo_write_ok hasMethod_message wrote]
    split
    · rw [List.append_assoc]
      rfl
    · rfl

/-- A call that has waited for the start goes on like one that begins. -/
theorem sendJoined (can : c.CanSend l) :
    c.sendJoined n (announcing notices method params) =
      c.sendAll n .null (announcing notices method params) := by
  have ready := needsStart_of_usable can.usable
  cases notices with
  | nil =>
    rw [announcing, List.foldr_nil, Client.sendJoined, Client.sendAll, if_neg (by simp [ready])]
  | cons notice notices =>
    rw [announcing, List.foldr_cons, Client.sendJoined, Client.sendAll, if_neg (by simp [ready])]

theorem beginCall (can : c.CanSend l) :
    c.HasAsked l n (announcing notices method params)
      (c.beginCall n (.sends (announcing notices method params))) := can.sendAll

theorem resumeCall (can : c.CanSend l) :
    c.HasAsked l n (announcing notices method params)
      (c.resumeCall n (.answered (.value result))
        (.joined a (announcing notices method params))) := by
  rw [Client.resumeCall, can.sendJoined]
  exact can.sendAll

end CanSend

/-- A call that has nothing left to say ends with the answer as it is. -/
theorem callOutcome_answered {id : Nat}
    (here : c.calls[n]? = some ⟨.awaiting l id [], some (.answered (.value result))⟩) :
    (c.runCall n).callOutcome? n = some (.value result) := by
  have lt : n < c.calls.length := (List.getElem?_eq_some_iff.mp here).1
  rw [runCall, here]
  apply callOutcome_finish
  rw [setCall, List.length_set]
  exact lt

end CanSend

end LspGateway.Client
