import LspGateway.Proofs.Client.Saying
import LspGateway.Proofs.Client.Traffic

/-! # What passes in a turn

A caller that has its turn says one thing after another, up to a request, whose answer it waits
for. A listener that has its turn reacts to one message after another, and may tell of the end of
the stream. Nothing else lets a message pass over a mere connection.
-/

namespace LspGateway

/-- What is sent as a message; a request has the given id. -/
def Send.message (id : Nat) : Send → Json
  | .notify method params => Client.message none method params
  | .request method params => Client.message (some id) method params

def Send.isRequest : Send → Bool
  | .notify _ _ => false
  | .request _ _ => true

namespace Client

variable {c c₁ : Client} {l n : Nat} {t : Task} {s : Signal} {m : Json} {ms : List Json}
  {ss : List Send} {i : Input}

/-! ## Listening -/

theorem frame_log {level : Log.Level} {text : String} : Frame c (c.log level text) := rfl

theorem frame_dispatch : Frame c (c.dispatch l m).1 := by
  unfold dispatch
  split
  · exact .refl c
  · unfold handleResponse
    split
    · split
      · exact frame_log
      · exact .refl c
    · split
      · exact frame_log
      · have forgot {id : Nat} : Frame c (c.forget l id) := rfl
        dsimp only
        split
        · exact forgot.trans frame_log
        · split
          · exact forgot.trans frame_wake
          · exact forgot
  · unfold handleNotification
    split <;> rfl
  · next id method _ =>
    unfold rejectRequest
    dsimp only
    generalize "[" ++ c.id ++ "] Rejecting server request " ++ method.plain = text
    have wrote : Frame c ((c.log .debug text).write l (rejection id method)).1 :=
      frame_log.trans frame_write
    split <;> rename_i e <;> rw [e] at wrote
    · exact wrote
    · exact wrote.trans frame_log

theorem links_length_feed {bytes : List UInt8} :
    (c.feed l bytes).links.length = c.links.length := by
  unfold feed
  split
  · obtain e | ⟨-, e⟩ := wakeListener_eq (l := l)
      (c := c.modifyProcess l fun p => { p with output := p.output.append bytes })
    · rw [e]
      exact links_length_modifyLink _
    · rw [e]
      exact (links_length_modifyLink _).trans (links_length_modifyLink _)
  · rfl

theorem links_length_write : (c.write l m).1.links.length = c.links.length := by
  unfold write
  split
  · rfl
  · dsimp only
    split
    · rfl
    · split <;> split
      · exact links_length_feed
      · rfl
      · exact links_length_feed
      · rfl

theorem links_length_dispatch : (c.dispatch l m).1.links.length = c.links.length := by
  have forgot {id : Nat} : (c.forget l id).links.length = c.links.length :=
    links_length_modifyLink _
  unfold dispatch
  split
  · rfl
  · unfold handleResponse
    split
    · split <;> rfl
    · split
      · rfl
      · dsimp only
        split
        · exact forgot
        · split
          · rw [wake_eq_prompt]
            exact forgot
          · exact forgot
  · unfold handleNotification
    split <;> rfl
  · next id method _ =>
    unfold rejectRequest
    dsimp only
    generalize "[" ++ c.id ++ "] Rejecting server request " ++ method.plain = text
    have wrote : ((c.log .debug text).write l (rejection id method)).1.links.length =
        c.links.length := links_length_write
    split <;> rename_i e <;> rw [e] at wrote <;> exact wrote

/-- What may be told of the end of a stream, unless the end was to be expected. -/
structure Tells (c : Client) (e : Event) : Prop where
  isEnd : e.isEnd
  up : (c.link 0).closed = false
  sudden : (c.link 0).shuttingDown = false
  observed : c.audience = .observer

/-- What passes when messages are taken. -/
def Passing (c : Client) (ms : List Json) (c₁ : Client) : Prop :=
  ∃ e : Option Event,
    c₁.traffic = c.traffic ++ ms.flatMap ((c.link 0).reaction c.audience) ++ e.toList ∧
      ∀ x ∈ e, Tells c x

namespace Passing

theorem silent (same : c₁.traffic = c.traffic) : Passing c [] c₁ :=
  ⟨none, by simp [same], by simp⟩

theorem stopAfter {turn : Turn} {reason : Ending} {announce : Client → Client} {e : Event}
    (isEnd : e.isEnd) (told : (announce c).traffic = c.traffic ++
      if c.audience = .observer then [e] else []) :
    Passing c [] (c.stopAfter 0 turn reason announce) := by
  unfold Client.stopAfter
  dsimp only
  split
  · exact .silent traffic_stopListening
  · next sudden =>
    simp only [Bool.or_eq_true, not_or, Bool.not_eq_true] at sudden
    by_cases observed : c.audience = .observer
    · refine ⟨some e, by simp [told, observed], fun x mem => ?_⟩
      obtain rfl : e = x := by simpa using mem
      exact ⟨isEnd, sudden.1, sudden.2, observed⟩
    · exact .silent (by simp [told, observed])

theorem stopAfterFault {turn : Turn} {f : Wire.Fault} (off : c.audience ≠ .client) :
    Passing c [] (c.stopAfterFault 0 turn f) := by
  refine stopAfter (e := .broke f) rfl ?_
  unfold announceFault
  split <;> rename_i who
  · exact absurd who off
  · simp [who, traffic_event, Event.passes]
  · simp [who]

theorem stopAfterEnd {turn : Turn} (off : c.audience ≠ .client) :
    Passing c [] (c.stopAfter 0 turn .byServer (·.announceEnd 0)) := by
  refine stopAfter (e := .ended) rfl ?_
  unfold announceEnd
  split <;> rename_i who
  · exact absurd who off
  · simp [who, traffic_event, Event.passes]
  · simp [who]

/-- What passes after some change that lets nothing pass. -/
theorem after {b : Client} (h : Passing b ms c₁) (same : b.traffic = c.traffic)
    (audience : b.audience = c.audience) (closed : (b.link 0).closed = (c.link 0).closed)
    (shut : (b.link 0).shuttingDown = (c.link 0).shuttingDown)
    (fault : (b.process 0).inputFault = (c.process 0).inputFault) : Passing c ms c₁ := by
  obtain ⟨e, traffic, tells⟩ := h
  have writable : (b.link 0).isWritable = (c.link 0).isWritable := by
    rw [Link.isWritable, closed, show (b.link 0).process.inputFault = _ from fault,
      Link.isWritable]
    rfl
  have reaction : (b.link 0).reaction b.audience = (c.link 0).reaction c.audience := by
    funext m
    rw [Link.reaction, writable, audience, Link.reaction]
  refine ⟨e, by rw [traffic, same, reaction], fun x mem => ?_⟩
  obtain ⟨isEnd, up, sudden, observed⟩ := tells x mem
  exact ⟨isEnd, closed ▸ up, shut ▸ sudden, audience ▸ observed⟩

theorem cons {b : Client} (h : Passing (b.dispatch 0 m).1 ms c₁) (here : 0 < b.links.length) :
    Passing b (m :: ms) c₁ := by
  obtain ⟨e, traffic, tells⟩ := h
  obtain ⟨ps, link⟩ := link_dispatch (m := m) here
  have audience : (b.dispatch 0 m).1.audience = b.audience := frame_dispatch.audience
  rw [traffic_dispatch, link, audience] at traffic
  refine ⟨e, ?_, fun x mem => ?_⟩
  · rw [traffic, List.flatMap_cons, List.append_assoc b.traffic]
    rfl
  · obtain ⟨isEnd, up, sudden, observed⟩ := tells x mem
    rw [link] at up sudden
    exact ⟨isEnd, up, sudden, audience ▸ observed⟩

theorem setOutput (rest : List UInt8) (h : Passing (c.setOutput 0 rest) ms c₁)
    (here : 0 < c.links.length) : Passing c ms c₁ := by
  have link := link_setOutput here rest
  refine h.after traffic_setOutput rfl ?_ ?_ ?_
  · rw [link]
  · rw [link]
  · rw [process, link]

theorem listen {turn : Turn} {fuel : Nat} {reading : Wire.Reading} (off : c.audience ≠ .client)
    (here : 0 < c.links.length) :
    Passing c (hear 0 fuel reading c) (listen 0 turn fuel reading c) := by
  induction fuel generalizing c reading with
  | zero =>
    unfold Client.listen
    split
    · exact .silent traffic_pauseListening
    · exact .silent (Eq.refl c.traffic)
  | succ fuel ih =>
    have here' (rest : List UInt8) : 0 < (c.setOutput 0 rest).links.length := by
      rwa [Client.setOutput, modifyProcess, links_length_modifyLink]
    unfold Client.listen hear
    cases found : Wire.next (c.process 0).output reading with
    | unfinished r rest =>
      cases turn with
      | first => exact .silent (traffic_pauseListening.trans traffic_setOutput)
      | later => exact setOutput rest (.stopAfterFault off) here
    | fault f rest => exact setOutput rest (.stopAfterFault off) here
    | ended rest => exact setOutput rest (.stopAfterEnd off) here
    | message m rest =>
      refine setOutput rest ?_ here
      have audience : ((c.setOutput 0 rest).dispatch 0 m).1.audience = c.audience :=
        frame_dispatch.audience
      have length : ((c.setOutput 0 rest).dispatch 0 m).1.links.length = c.links.length :=
        links_length_dispatch.trans (links_length_modifyLink _)
      have next {ks : List Json} {b : Client}
          (h : Passing ((c.setOutput 0 rest).dispatch 0 m).1 ks b) :
          Passing (c.setOutput 0 rest) (m :: ks) b :=
        cons h (here' rest)
      dsimp only
      generalize (c.setOutput 0 rest).dispatch 0 m = b at audience length next
      obtain ⟨b, _ | fault⟩ := b
      · dsimp only at audience length next ⊢
        refine next ?_
        split
        · exact .silent traffic_stopListening
        · exact ih (audience ▸ off) (length ▸ here)
      · exact next (.silent traffic_crashListening)

theorem beginListening {turn : Turn} (off : c.audience ≠ .client) (here : 0 < c.links.length) :
    Passing c (c.hearBegin 0) (c.beginListening 0 turn) := by
  unfold Client.beginListening hearBegin
  split
  · exact .silent traffic_stopListening
  · exact .listen off here

theorem turn (h : ListenerTurn c 0 c₁ ms) (off : c.audience ≠ .client)
    (here : 0 < c.links.length) : Passing c ms c₁ := by
  have running {ms : List Json} {b : Client} (h : Passing (c.setListener 0 .running) ms b) : Passing c ms b := by
    have link : (c.setListener 0 .running).link 0 = { c.link 0 with listener := ⟨.running, none⟩ } :=
      link_modifyLink_self here _
    refine h.after traffic_setListener rfl ?_ ?_ ?_
    · rw [link]
    · rw [link]
    · rw [process, link, process]
  have here' : 0 < (c.setListener 0 .running).links.length := by
    rwa [setListener, links_length_modifyLink]
  cases h with
  | ends => exact .silent traffic_endListener
  | stops => exact .silent traffic_stopListening
  | begins => exact running (.beginListening off here')
  | goesOn reading => exact running (.listen off here')

end Passing

/-! ## Speaking -/

/-- What a writer comes to. -/
theorem write_result : (c.write l m).2 =
    if (c.link l).closed then .error .closed
    else match (c.link l).process.inputFault with
      | some f => .error (.unwritable f)
      | none => .ok () := by
  unfold write
  split
  · rfl
  · dsimp only [process]
    cases (c.link l).process.inputFault with
    | none => simp
    | some f => cases f <;> simp

/-- A link after more output has arrived, of which the listener may have been told. -/
def Link.supplied (k : Link) (output : Wire.Feed) (signal : Option Signal) : Link :=
  { k with process := { k.process with output }, listener := ⟨k.listener.phase, signal⟩ }

theorem link_feed_supplied {bytes : List UInt8} (here : l < c.links.length) :
    ∃ output signal, (c.feed l bytes).link l = (c.link l).supplied output signal := by
  unfold feed
  split
  · have fed : (c.modifyProcess l fun p => { p with output := p.output.append bytes }).link l =
        (c.link l).supplied ((c.link l).process.output.append bytes) (c.link l).listener.signal :=
      link_modifyLink_self here _
    obtain e | ⟨-, e⟩ := wakeListener_eq (l := l)
      (c := c.modifyProcess l fun p => { p with output := p.output.append bytes })
    · rw [e]
      exact ⟨_, _, fed⟩
    · have here' : l < (c.modifyProcess l fun p =>
          { p with output := p.output.append bytes }).links.length := by
        rwa [modifyProcess, links_length_modifyLink]
      have told : ((c.modifyProcess l fun p =>
          { p with output := p.output.append bytes }).tellListener l .go).link l = _ :=
        link_modifyLink_self here' _
      rw [e, told, fed]
      exact ⟨_, _, rfl⟩
  · exact ⟨_, _, rfl⟩

theorem link_write_supplied (here : l < c.links.length) :
    ∃ output signal, (c.write l m).1.link l = (c.link l).supplied output signal := by
  have wrote {bytes : List UInt8} :
      ∃ output signal, ((c.event l (.wrote m)).feed l bytes).link l =
        (c.link l).supplied output signal := link_feed_supplied here
  unfold write
  split
  · exact ⟨_, _, rfl⟩
  · dsimp only
    split
    · exact ⟨_, _, rfl⟩
    · split <;> split
      · exact wrote
      · exact ⟨_, _, rfl⟩
      · exact wrote
      · exact ⟨_, _, rfl⟩

/-- A message was written, and the process may have answered. -/
structure Wrote (c : Client) (m : Json) (b : Client) : Prop where
  traffic : b.traffic = c.traffic ++ [.wrote m]
  link : ∃ output signal, b.link 0 = (c.link 0).supplied output signal
  frame : Frame c b
  calls : b.calls = c.calls
  length : b.links.length = c.links.length

/-- What becomes of a message that is written over an open connection. -/
inductive Writing (c : Client) (m : Json) : Client × Except Error Unit → Prop
  | refused (fault : (c.link 0).process.inputFault = some .gone) :
    Writing c m (c, .error (.unwritable .gone))
  | fails {b} (wrote : Wrote c m b) (fault : (c.link 0).process.inputFault = some .broken) :
    Writing c m (b, .error (.unwritable .broken))
  | succeeds {b} (wrote : Wrote c m b) (fault : (c.link 0).process.inputFault = none) :
    Writing c m (b, .ok ())

theorem writing (up : (c.link 0).closed = false) (here : 0 < c.links.length) :
    Writing c m (c.write 0 m) := by
  have wrote (takes : (c.link 0).process.inputFault ≠ some .gone) : Wrote c m (c.write 0 m).1 := by
    have writable : (c.link 0).isWritable := by simp [Link.isWritable, up, takes]
    exact ⟨by rw [traffic_write, if_pos writable], link_write_supplied here, frame_write,
      activities_write.2, links_length_write⟩
  have result := write_result (c := c) (l := 0) (m := m)
  rw [if_neg (by simp [up])] at result
  cases fault : (c.link 0).process.inputFault with
  | none =>
    rw [fault] at result wrote
    have e : c.write 0 m = ((c.write 0 m).1, .ok ()) := Prod.ext rfl result
    rw [e]
    exact .succeeds (wrote (by simp)) fault
  | some f =>
    rw [fault] at result wrote
    have e : c.write 0 m = ((c.write 0 m).1, .error (.unwritable f)) := Prod.ext rfl result
    cases f with
    | gone =>
      have same : c.write 0 m = (c, .error (.unwritable .gone)) := by
        rw [write, if_neg (by simp [up])]
        exact if_pos fault
      rw [same]
      exact .refused fault
    | broken =>
      rw [e]
      exact .fails (wrote (by simp)) fault

/-- The things that are sent before an answer has to be waited for. -/
def upToRequest : List Send → List Send
  | [] => []
  | .notify method params :: rest => .notify method params :: upToRequest rest
  | .request method params :: _ => [.request method params]

/-- What is written of the things that a caller sends in its turn: nothing over a connection that
is closed or to a process that takes nothing more, and no more than one thing if the fault shows
after that. -/
def Link.accepts (k : Link) (ss : List Send) : List Send :=
  if k.isClosed then []
  else match k.process.inputFault with
    | none => upToRequest ss
    | some .broken => ss.take 1
    | some .gone => []

theorem upToRequest_prefix (ss : List Send) : upToRequest ss <+: ss := by
  induction ss with
  | nil => exact List.prefix_refl []
  | cons s rest ih =>
    cases s with
    | notify method params => exact List.prefix_cons_inj _ |>.mpr ih
    | request method params => exact ⟨rest, rfl⟩

theorem accepts_isPrefix (k : Link) (ss : List Send) : k.accepts ss <+: ss := by
  unfold Link.accepts
  split
  · exact List.nil_prefix
  · split
    · exact upToRequest_prefix ss
    · exact List.take_prefix 1 ss
    · exact List.nil_prefix

theorem accepts_nil (k : Link) : k.accepts [] = [] := List.prefix_nil.mp (accepts_isPrefix _ _)

/-- What a call has said of all that it is to say, by where it stands. -/
def CallPhase.HasSaid (said all : List Send) : CallPhase → Prop
  | .fresh (.sends ss) => said = [] ∧ ss = all
  | .awaiting _ _ rest => said ++ rest = all
  | .done (.value _) => said = all
  | .done _ => said <+: all
  | _ => False

namespace CallPhase.HasSaid

variable {p : CallPhase} {said all : List Send} {o : Outcome}

theorem isPrefix (h : p.HasSaid said all) : said <+: all := by
  unfold HasSaid at h
  split at h
  · exact h.1 ▸ List.nil_prefix
  · exact ⟨_, h⟩
  · exact h ▸ List.prefix_refl _
  · exact h
  · exact h.elim

/-- Who ends without a value need not have said everything. -/
theorem ends (fails : ∀ j, o ≠ .value j) (h : said <+: all) : (CallPhase.done o).HasSaid said all := by
  cases o with
  | value j => exact absurd rfl (fails j)
  | _ => exact h

/-- What a call says after what it has said before. -/
theorem after (before : List Send) (h : p.HasSaid said all) (begun : ∀ job, p ≠ .fresh job) :
    p.HasSaid (before ++ said) (before ++ all) := by
  cases p with
  | fresh job => exact absurd rfl (begun job)
  | awaiting l id rest => exact (List.append_assoc ..).trans (congrArg (before ++ ·) h)
  | done o =>
    cases o with
    | value j => exact congrArg (before ++ ·) h
    | _ => exact (List.prefix_append_right_inj before).mpr h
  | _ => exact h

end CallPhase.HasSaid

/-- What has become of a caller that had its turn: what it said was written, and a new request has
a new id. -/
structure Spoke (c : Client) (n : Nat) (ss : List Send) (c₁ : Client) : Prop where
  traffic : c₁.traffic = c.traffic ++
    ((c.link 0).accepts ss).map fun s => .wrote (s.message ((c.link 0).lastId + 1))
  stands : ∃ p, c₁.calls[n]? = some ⟨p, none⟩ ∧ (∀ job, p ≠ .fresh job) ∧
    p.HasSaid ((c.link 0).accepts ss) ss
  counted : ((c.link 0).accepts ss).any Send.isRequest → (c.link 0).lastId < (c₁.link 0).lastId

namespace Spoke

theorem finished {b : Client} {o : Outcome} {said all : List Send} (here : n < b.calls.length)
    (h : (CallPhase.done o).HasSaid said all) :
    ∃ p, (b.finish n o).calls[n]? = some ⟨p, none⟩ ∧ (∀ job, p ≠ .fresh job) ∧
      p.HasSaid said all :=
  ⟨.done o, by simp [Client.finish, emit, setCall, here], by simp, h⟩

/-- A caller that fails says no more. -/
theorem fails {b : Client} {e : Error} (traffic : b.traffic = c.traffic ++
      ((c.link 0).accepts ss).map fun s => .wrote (s.message ((c.link 0).lastId + 1)))
    (counted : ((c.link 0).accepts ss).any Send.isRequest →
      (c.link 0).lastId < (b.link 0).lastId)
    (here : n < b.calls.length) : Spoke c n ss (b.finish n (.error e)) :=
  ⟨traffic_finish.trans traffic, finished here (.ends (by simp) (accepts_isPrefix _ _)), counted⟩

/-- A caller ends that has nothing to say. -/
theorem silent {b : Client} {o : Outcome} (traffic : b.traffic = c.traffic)
    (here : n < b.calls.length) : Spoke c n [] (b.finish n o) := by
  refine ⟨?_, finished here ?_, ?_⟩
  · rw [traffic_finish, traffic, accepts_nil, List.map_nil, List.append_nil]
  · rw [accepts_nil]
    cases o with
    | value j => rfl
    | _ => exact List.prefix_refl []
  · simp [accepts_nil]

end Spoke

theorem accepts_closed {k : Link} (shut : k.isClosed) : k.accepts ss = [] := if_pos shut

theorem accepts_open {k : Link} (ss : List Send) (up : k.isClosed = false) : k.accepts ss =
    match k.process.inputFault with
    | none => upToRequest ss
    | some .broken => ss.take 1
    | some .gone => [] :=
  if_neg (by simp [up])

theorem notify_eq {method : String} {params : Json} (up : (c.link l).isClosed = false) :
    c.notify l method params = c.write l (message none method params) := by
  rw [notify, if_neg (by simp [up])]

section SendAll

variable {method : String} {params last : Json} {rest : List Send}

theorem needsStart_of_usable (usable : c.usableLink = .ok l) : c.needsStart = false := by
  simp [needsStart, (usableLink_ok usable).2]

theorem sendAll_notify (usable : c.usableLink = .ok l) :
    c.sendAll n last (.notify method params :: rest) =
      match c.notify l method params with
      | (c, .ok ()) => c.sendAll n .null rest
      | (c, .error e) => c.finish n (.error e) := by
  rw [sendAll, if_neg (by simp [needsStart_of_usable usable]), sendOne, usable]
  dsimp only
  rcases c.notify l method params with ⟨b, _ | _⟩ <;> rfl

theorem sendAll_request_eq (usable : c.usableLink = .ok l) :
    c.sendAll n last (.request method params :: rest) =
      match c.request l (.call n) method params with
      | (c, .ok id) => c.setCall n (.awaiting l id rest)
      | (c, .error e) => c.finish n (.error e) := by
  rw [sendAll, if_neg (by simp [needsStart_of_usable usable]), sendOne, usable]
  dsimp only
  rcases c.request l (.call n) method params with ⟨b, _ | _⟩ <;> rfl

theorem sendAll_closed {s : Send} (last : Json) (usable : c.usableLink = .ok l) (shut : (c.link l).isClosed) :
    c.sendAll n last (s :: rest) = c.finish n (.error .closed) := by
  cases s with
  | notify method params => rw [sendAll_notify usable, notify, if_pos shut]
  | request method params => rw [sendAll_request_eq usable, request, if_pos shut]

theorem closed_of_up {k : Link} (up : k.isClosed = false) : k.closed = false := by
  simp only [Link.isClosed, Bool.or_eq_false_iff] at up
  exact up.1.1

theorem Wrote.usableLink {b : Client} (h : Wrote c m b) (usable : c.usableLink = .ok l) :
    b.usableLink = .ok l := by
  obtain ⟨used, ready⟩ := usableLink_ok usable
  rw [Client.usableLink, h.frame.held, h.frame.state, used, ready]
  rfl

/-- One more thing is said before the rest. -/
theorem Spoke.cons {b : Client} (wrote : Wrote c (message none method params) b)
    (fault : (c.link 0).process.inputFault = none) (up : (c.link 0).isClosed = false)
    (h : Spoke b n rest c₁) : Spoke c n (.notify method params :: rest) c₁ := by
  obtain ⟨output, signal, link⟩ := wrote.link
  have same : (b.link 0).accepts rest = (c.link 0).accepts rest := by rw [link]; rfl
  have more : (c.link 0).accepts (.notify method params :: rest) =
      .notify method params :: (c.link 0).accepts rest := by
    rw [accepts_open _ up, accepts_open _ up, fault]
    rfl
  have lastId : (b.link 0).lastId = (c.link 0).lastId := by rw [link]; rfl
  obtain ⟨p, here, begun, stands⟩ := h.stands
  refine ⟨?_, ⟨p, here, begun, ?_⟩, fun asks => ?_⟩
  · rw [h.traffic, wrote.traffic, same, lastId, more, List.map_cons, List.append_assoc]
    rfl
  · rw [more, ← same]
    exact stands.after [.notify method params] begun
  · rw [← lastId]
    refine h.counted ?_
    rw [same]
    simpa [more, Send.isRequest] using asks

theorem spoke_request (usable : c.usableLink = .ok 0) (here : 0 < c.links.length)
    (lt : n < c.calls.length) :
    Spoke c n (.request method params :: rest) (c.sendAll n last (.request method params :: rest)) := by
  cases up : (c.link 0).isClosed with
  | true =>
    rw [sendAll_closed _ usable up]
    exact .fails (by simp [accepts_closed up]) (by simp [accepts_closed up]) lt
  | false =>
    have accepts := accepts_open (.request method params :: rest) up
    have link : (c.register 0 (.call n)).link 0 = { c.link 0 with
        lastId := (c.link 0).lastId + 1
        pending := (c.link 0).pending ++ [((c.link 0).lastId + 1, .call n)] } :=
      link_modifyLink_self here _
    have open' : ((c.register 0 (.call n)).link 0).closed = false := by
      rw [link]
      exact closed_of_up up
    have here' : 0 < (c.register 0 (.call n)).links.length := by
      rwa [register, links_length_modifyLink]
    have fault : ((c.register 0 (.call n)).link 0).process.inputFault =
        (c.link 0).process.inputFault := by rw [link]
    have lastId {b : Client} {m : Json} (wrote : Wrote (c.register 0 (.call n)) m b) :
        (b.link 0).lastId = (c.link 0).lastId + 1 := by
      obtain ⟨output, signal, e⟩ := wrote.link
      rw [e, link]
      rfl
    rw [sendAll_request_eq usable, request_eq up]
    have w := writing (m := message (some ((c.link 0).lastId + 1)) method params) open' here'
    generalize (c.register 0 (.call n)).write 0
      (message (some ((c.link 0).lastId + 1)) method params) = w' at w
    cases w with
    | refused gone =>
      rw [← fault, gone] at accepts
      exact .fails (by simp [accepts, forget, register]) (by simp [accepts]) lt
    | fails wrote broken =>
      rw [← fault, broken] at accepts
      refine .fails ?_ (fun _ => ?_) ?_
      · simp [accepts, wrote.traffic, Send.message, forget, register]
      · rw [lastId_forget, lastId wrote]
        exact Nat.lt_succ_self _
      · exact wrote.calls ▸ lt
    | @succeeds b wrote none' =>
      rw [← fault, none', upToRequest] at accepts
      refine ⟨?_, ⟨.awaiting 0 ((c.link 0).lastId + 1) rest, ?_, by simp, ?_⟩, fun _ => ?_⟩
      · simp [accepts, wrote.traffic, Send.message, register]
      · simp [setCall, wrote.calls, register, modifyLink, lt]
      · rw [accepts]
        rfl
      · exact (lastId wrote).symm ▸ Nat.lt_succ_self _

theorem spoke_sendAll (last : Json) (usable : c.usableLink = .ok 0) (here : 0 < c.links.length)
    (lt : n < c.calls.length) : Spoke c n ss (c.sendAll n last ss) := by
  induction ss generalizing c last with
  | nil => exact .silent rfl lt
  | cons s rest ih =>
    cases s with
    | notify method params =>
      cases up : (c.link 0).isClosed with
      | true =>
        rw [sendAll_closed _ usable up]
        exact .fails (by simp [accepts_closed up]) (by simp [accepts_closed up]) lt
      | false =>
        have accepts := accepts_open (.notify method params :: rest) up
        rw [sendAll_notify usable, notify_eq up]
        have w := writing (m := message none method params) (closed_of_up up) here
        generalize c.write 0 (message none method params) = w' at w
        cases w with
        | refused fault =>
          rw [fault] at accepts
          exact .fails (by simp [accepts]) (by simp [accepts]) lt
        | fails wrote fault =>
          rw [fault] at accepts
          exact .fails (by simp [accepts, wrote.traffic, Send.message])
            (by simp [accepts, Send.isRequest]) (wrote.calls ▸ lt)
        | succeeds wrote fault =>
          exact .cons wrote fault up
            (ih .null (wrote.usableLink usable) (wrote.length ▸ here) (wrote.calls ▸ lt))
    | request method params => exact spoke_request usable here lt

end SendAll

/-! ## Turns -/

/-- What a call that sends has still to say when it is told something. -/
def CallPhase.intends : CallPhase → Signal → List Send
  | .fresh (.sends ss), s => if s = .cancelled then [] else ss
  | .awaiting _ _ rest, .answered (.value _) => rest
  | _, _ => []

/-- Only a call that sends has something to say. -/
theorem CallPhase.intends_eq_nil {p : CallPhase} (idle : p.role.errand ≠ .sends) :
    p.intends s = [] := by
  cases p with
  | fresh job =>
    cases job with
    | sends ss => exact absurd rfl idle
    | _ => rfl
  | awaiting l id rest => exact absurd rfl idle
  | _ => rfl

/-- A caller says what it has to say and is accepted, and nothing else. -/
theorem spoke_resumeCall {p : CallPhase} (usable : c.usableLink = .ok 0) (here : 0 < c.links.length)
    (lt : n < c.calls.length) (sends : p.role.errand = .sends)
    (alone : ∀ a ss, p ≠ .joined a ss) : Spoke c n (p.intends s) (c.resumeCall n s p) := by
  cases p with
  | fresh job =>
    rw [resumeCall]
    split
    · next cancelled =>
      have none' : (CallPhase.fresh job).intends s = [] := by cases job <;> simp [CallPhase.intends, cancelled]
      rw [none']
      exact .silent rfl lt
    · next goes =>
      cases job with
      | start =>
        rw [beginCall, if_neg (by simp [needsStart_of_usable usable])]
        exact .silent rfl lt
      | sends ss =>
        rw [CallPhase.intends, if_neg goes, beginCall]
        exact spoke_sendAll _ usable here lt
      | _ => cases sends
  | joined a ss => exact absurd rfl (alone a ss)
  | awaiting l id rest =>
    cases s with
    | answered o =>
      cases o with
      | value result => exact spoke_sendAll _ usable here lt
      | _ => exact .silent rfl lt
    | _ => exact .silent rfl (by simpa [forget, modifyLink] using lt)
  | _ => cases sends

/-- What a call has said in all when it has had its turn. -/
theorem hasSaid_resumeCall {p : CallPhase} {said all : List Send} (usable : c.usableLink = .ok 0)
    (here : 0 < c.links.length) (lt : n < c.calls.length) (h : p.HasSaid said all) :
    ∃ p', (c.resumeCall n s p).calls[n]? = some ⟨p', none⟩ ∧
      p'.HasSaid (said ++ (c.link 0).accepts (p.intends s)) all := by
  have ends {b : Client} {o : Outcome} (lt : n < b.calls.length) (fails : ∀ j, o ≠ .value j) :
      ∃ p', (b.finish n o).calls[n]? = some ⟨p', none⟩ ∧
        p'.HasSaid (said ++ (c.link 0).accepts []) all := by
    rw [accepts_nil, List.append_nil]
    obtain ⟨p', now, -, stands⟩ := Spoke.finished lt (.ends fails h.isPrefix)
    exact ⟨p', now, stands⟩
  cases p with
  | fresh job =>
    cases job with
    | sends ss =>
      obtain ⟨rfl, rfl⟩ := h
      rw [resumeCall, CallPhase.intends]
      split
      · exact ends lt (by simp)
      · obtain ⟨p', now, -, stands⟩ := (spoke_sendAll .null usable here lt).stands
        exact ⟨p', now, stands⟩
    | _ => exact h.elim
  | awaiting l id rest =>
    cases s with
    | answered o =>
      cases o with
      | value result =>
        obtain ⟨p', now, begun, stands⟩ := (spoke_sendAll result usable here lt).stands
        obtain rfl : said ++ rest = all := h
        exact ⟨p', now, stands.after said begun⟩
      | _ => exact ends lt (by simp)
    | _ => exact ends (by simpa [forget, modifyLink] using lt) (by simp)
  | done o =>
    refine ⟨.done o, by simp [resumeCall, setCall, lt], ?_⟩
    rw [CallPhase.intends, accepts_nil, List.append_nil]
    · exact h
    all_goals simp
  | _ => exact h.elim

/-- What a call has still to say when its turn comes. -/
def toSay (c : Client) (n : Nat) : List Send :=
  match c.calls[n]? with
  | some k => k.phase.intends (k.signal.getD .go)
  | none => []

theorem toSay_eq {p : CallPhase} {told : Option Signal} (here : c.calls[n]? = some ⟨p, told⟩) :
    c.toSay n = p.intends (told.getD .go) := by
  rw [toSay, here]

/-- In the turn of a call that sends, what it has to say passes as far as it is accepted. -/
theorem spoke_turn {rest : List Task} {p : CallPhase} {told : Option Signal}
    (mere : Mere c none) (first : c.ready = .call n :: rest) (here : c.calls[n]? = some ⟨p, told⟩)
    (sends : p.role.errand = .sends) : Spoke c n (c.toSay n) c.turn := by
  have usable : (({ c with ready := rest } : Client).setCall n .running).usableLink = .ok 0 :=
    mere.usableLink
  have one : 0 < (({ c with ready := rest } : Client).setCall n .running).links.length := by
    rw [show (({ c with ready := rest } : Client).setCall n .running).links = c.links from rfl,
      mere.links]
    exact Nat.one_pos
  have lt : n < (({ c with ready := rest } : Client).setCall n .running).calls.length := by
    simpa [setCall] using (List.getElem?_eq_some_iff.mp here).1
  have spoke := spoke_resumeCall (s := told.getD .go) usable one lt sends
    fun a ss e => mere.alone n _ a ss here e
  rw [turn_call first here, toSay_eq here]
  exact ⟨spoke.traffic, spoke.stands, spoke.counted⟩

theorem traffic_afterClosing {p : Progress} : (c.afterClosing n p).traffic = c.traffic := by
  rcases p with t | o
  · rfl
  · exact traffic_finish

/-- A connection is listened to again: the listener that waits goes on, or another one begins. -/
theorem passing_startListening (off : c.audience ≠ .client) (here : 0 < c.links.length) :
    Passing c (if (c.link 0).listener.phase = .waiting then (c.renewListener 0).hearBegin 0 else [])
      (c.startListening 0) := by
  unfold startListening
  cases phase : (c.link 0).listener.phase with
  | waiting =>
    rw [if_pos rfl]
    have link : (c.renewListener 0).link 0 =
        { c.link 0 with crash := none, superseded := false } := link_modifyLink_self here _
    have here' : 0 < (c.renewListener 0).links.length := by
      rwa [renewListener, links_length_modifyLink]
    have begins : Passing (c.renewListener 0) ((c.renewListener 0).hearBegin 0)
        ((c.renewListener 0).beginListening 0 .later) := .beginListening off here'
    refine begins.after rfl rfl ?_ ?_ ?_
    · rw [link]
    · rw [link]
    · rw [process, link, process]
  | fresh => exact .silent rfl
  | _ => exact .silent rfl

section TurnCall

variable {rest : List Task} {p : CallPhase} {told : Option Signal} {lost : List Loss}
  (sound : Sound c none lost) (mere : Mere c none) (first : c.ready = .call n :: rest)

include mere first

/-- What passes when a connection is listened to again. -/
theorem passing_turn_listen (here : c.calls[n]? = some ⟨.fresh .listen, told⟩) :
    Passing c (c.received 0 .turn) c.turn := by
  let b : Client := ({ c with ready := rest } : Client).setCall n .running
  have one : 0 < b.links.length := by
    rw [show b.links = c.links from rfl, mere.links]
    exact Nat.one_pos
  have same {ms : List Json} {d : Client} (h : Passing b ms d) : Passing c ms d :=
    h.after rfl rfl rfl rfl rfl
  have held : b.heldLink = 0 := by
    rw [heldLink, show b.held.connection = some 0 from mere.used]
    rfl
  rw [turn_call first here, resumeCall]
  split
  · next cancelled =>
    have none' : c.received 0 .turn = [] := by
      cases told with
      | none => cases cancelled
      | some s =>
        obtain rfl : s = .cancelled := cancelled
        simp [received, first, here]
    rw [none']
    exact same (.silent traffic_finish)
  · next goes =>
    have heard : c.received 0 .turn =
        if (b.link 0).listener.phase = .waiting then (b.renewListener 0).hearBegin 0 else [] := by
      have goes' : told ≠ some .cancelled := fun e => goes (by rw [e]; rfl)
      have held' : c.heldLink = 0 := held
      simp only [received, first, here, goes', held', true_and, ne_eq, not_false_eq_true]
      rfl
    rw [heard, beginCall, held]
    obtain ⟨e, traffic, tells⟩ := same (passing_startListening (c := b) mere.observed one)
    exact ⟨e, traffic_finish.trans traffic, tells⟩

include sound

/-- In the turn of a call that neither sends nor listens nothing passes. -/
theorem traffic_turn_call (here : c.calls[n]? = some ⟨p, told⟩) (sends : p.role.errand ≠ .sends)
    (listens : p.role.errand ≠ .listens) : c.turn.traffic = c.traffic := by
  have disposes : p.role.errand ≠ .disposes := by
    have := mere.errand_ne sound.bounds (.call n)
    rwa [roleBy, Client.role, standing_of_call here] at this
  rw [turn_call first here]
  cases p with
  | fresh job =>
    rw [resumeCall]
    split
    · exact traffic_finish
    · cases job with
      | close => exact traffic_afterClosing.trans traffic_closeConnection
      | dispose => exact absurd rfl disposes
      | listen => exact absurd rfl listens
      | _ => exact absurd rfl sends
  | closing t => exact traffic_afterClosing.trans traffic_resumeTeardown
  | stopping | shuttingDown | disposing => exact absurd rfl disposes
  | joined | awaiting => exact absurd rfl sends
  | running | done => rfl

end TurnCall

theorem eq_listen {p : CallPhase} (listens : p.role.errand = .listens) : p = .fresh .listen := by
  cases p with
  | fresh job => cases job <;> first | rfl | cases listens
  | _ => cases listens

end Client
end LspGateway
