import LspGateway.Proofs.Client.Conveying

/-! # What becomes of messages

A message with a method and no id reaches the observer, one with a method and an id is turned down,
and one without a method is taken for a response. Messages of the right shape do not stop the
listener: it takes all that have arrived, one after another.
-/

namespace LspGateway.Client

variable {c c₁ : Client} {lost : List Loss} {l n fuel : Nat} {i : Input} {m : Json}
  {inputs rest : List Input} {turn : Turn} {reading r : Wire.Reading}

/-- A member of a message; one that is absent counts as null. -/
def member (m : Json) (key : String) : Json := (m.get? key).getD .null

/-- An object whose id is no container, and whose error is an object or null. -/
def isRegular (m : Json) : Bool :=
  match m with
  | .obj _ =>
    (match member m "id" with
      | .arr _ | .obj _ => false
      | _ => true) &&
    match member m "error" with
      | .null | .obj _ => true
      | _ => false
  | _ => false

/-- What a message brings about in sight of the observer and of the server. -/
def due (m : Json) : List Event :=
  if member m "method" = .null then []
  else if member m "id" = .null then [.notified m]
  else [.wrote (rejection (member m "id") (member m "method"))]

section Regular

variable (regular : isRegular m)

include regular

theorem isRegular_obj : ∃ ms, m = .obj ms := by
  unfold isRegular at regular
  split at regular
  · exact ⟨_, rfl⟩
  · cases regular

theorem asKey_of_isRegular : ∃ key, (member m "id").asKey = .ok key := by
  obtain ⟨ms, rfl⟩ := isRegular_obj regular
  simp only [isRegular, Bool.and_eq_true] at regular
  cases e : member (.obj ms) "id" <;> rw [e] at regular <;> first | exact ⟨_, rfl⟩ | cases regular.1

/-- Messages by their members. -/
theorem ofJson_regular : ∃ ms, m = .obj ms ∧ Incoming.ofJson m =
    if member m "method" = .null then .ok (.response (member m "id") ms)
    else if member m "id" = .null then .ok (.notification m)
    else .ok (.request (member m "id") (member m "method")) := by
  obtain ⟨ms, rfl⟩ := isRegular_obj regular
  refine ⟨ms, rfl, ?_⟩
  simp only [Incoming.ofJson, Json.asObject]
  split
  · next response => exact (if_pos response).symm
  · next other => exact (if_neg other).symm

theorem responseOutcome_regular {ms : Json.Members} (same : m = .obj ms) :
    ∃ o, responseOutcome ms = .ok o := by
  subst same
  simp only [isRegular, Bool.and_eq_true] at regular
  unfold responseOutcome
  rw [show member (.obj ms) "error" = (Json.Members.get? ms "error").getD .null from rfl] at regular
  cases e : (Json.Members.get? ms "error").getD .null <;> rw [e] at regular <;>
    first | exact ⟨_, rfl⟩ | cases regular.2

/-- No message of the right shape ends the listener. -/
theorem dispatch_regular : (c.dispatch l m).2 = none := by
  obtain ⟨ms, same, sorted⟩ := ofJson_regular regular
  obtain ⟨key, hashes⟩ := asKey_of_isRegular regular
  obtain ⟨o, outcome⟩ := responseOutcome_regular regular same
  unfold dispatch
  rw [sorted]
  split_ifs with response notification
  · dsimp only
    unfold handleResponse
    rw [hashes]
    dsimp only
    split
    · rfl
    · split
      · rfl
      · rw [outcome]
  · rfl
  · rfl

theorem reaction_regular {k : Link} (writable : k.isWritable) : k.reaction .observer m = due m := by
  obtain ⟨ms, -, sorted⟩ := ofJson_regular regular
  rw [Link.reaction, due, sorted]
  by_cases response : member m "method" = .null
  · rw [if_pos response, if_pos response]
  · rw [if_neg response, if_neg response]
    by_cases notification : member m "id" = .null
    · rw [if_pos notification, if_pos notification]
      rfl
    · rw [if_neg notification, if_neg notification]
      exact if_pos writable

end Regular

/-- Nothing changes but what is to be seen of a client. -/
def Shows (c c₁ : Client) : Prop := ∃ shown, c₁ = { c with history := shown ++ c.history }

theorem Shows.refl (c : Client) : Shows c c := ⟨[], rfl⟩

theorem shows_emit (c : Client) (o : Output) : Shows c (c.emit o) := ⟨[o], rfl⟩

theorem Shows.trans {b : Client} (h : Shows c b) (h₁ : Shows b c₁) : Shows c c₁ := by
  obtain ⟨shown, rfl⟩ := h
  obtain ⟨more, rfl⟩ := h₁
  exact ⟨more ++ shown, by rw [List.append_assoc]⟩

theorem shows_write (id method : Json) : Shows c (c.write 0 (rejection id method)).1 := by
  rw [write_rejection]
  split
  · exact .refl c
  · split
    · exact .refl c
    · exact shows_emit c _

theorem shows_rejectRequest (id method : Json) : Shows c (c.rejectRequest 0 id method) := by
  unfold rejectRequest
  dsimp only
  generalize "[" ++ c.id ++ "] Rejecting server request " ++ method.plain = text
  have wrote : Shows c ((c.log .debug text).write 0 (rejection id method)).1 :=
    (shows_emit c _).trans (shows_write id method)
  split <;> rename_i e <;> rw [e] at wrote
  · exact wrote
  · exact wrote.trans (shows_emit _ _)

/-- What becomes of a message, whatever else goes on. -/
structure Handles (c : Client) (m : Json) : Prop where
  /-- With a method it changes nothing but what is to be seen of the client. -/
  apart : member m "method" ≠ .null → Shows c (c.dispatch 0 m).1
  /-- Without one it is taken for a response, and nothing passes. -/
  response : ∀ ms, m = .obj ms → member m "method" = .null →
    c.dispatch 0 m = c.handleResponse 0 (member m "id") ms ∧
      (c.dispatch 0 m).1.traffic = c.traffic
  /-- The listener goes on. -/
  goesOn : (c.dispatch 0 m).2 = none

theorem handles_regular (regular : isRegular m) : Handles c m := by
  obtain ⟨ms, same, sorted⟩ := ofJson_regular regular
  refine ⟨fun calls => ?_, fun ks e response => ⟨?_, ?_⟩, dispatch_regular regular⟩
  · rw [dispatch, sorted, if_neg calls]
    split_ifs with notification
    · dsimp only
      unfold handleNotification
      split
      · exact shows_emit c _
      · exact shows_emit c _
      · exact .refl c
    · exact shows_rejectRequest _ _
  · obtain rfl : ms = ks := Json.obj.inj (same.symm.trans e)
    rw [dispatch, sorted, if_pos response]
  · rw [traffic_dispatch, Link.reaction, sorted, if_pos response, List.append_nil]

/-! ## Listening on -/

theorem listener_dispatch (here : 0 < c.links.length) :
    ((c.dispatch 0 m).1.link 0).listener = (c.link 0).listener ∧
      ((c.dispatch 0 m).1.link 0).closed = (c.link 0).closed ∧
      (c.dispatch 0 m).1.process 0 = c.process 0 := by
  obtain ⟨ps, link⟩ := link_dispatch (m := m) here
  rw [process, link]
  exact ⟨rfl, rfl, rfl⟩

/-- A listener over an open connection takes all the messages that have arrived, if they are of the
right shape, and waits for more if more has to come. -/
theorem listen_regular (here : 0 < c.links.length) (up : (c.link 0).closed = false)
    (enough : (c.process 0).output.buffer.length < fuel)
    (regular : ∀ m ∈ hear 0 fuel reading c, isRegular m) :
    hear 0 fuel reading c = (Wire.scan (c.process 0).output reading).1 ∧
      ∀ r rest, (Wire.scan (c.process 0).output reading).2 = .unfinished r rest →
        ((listen 0 .first fuel reading c).link 0).listener.phase = .waiting := by
  induction fuel generalizing c reading with
  | zero => exact absurd enough (Nat.not_lt_zero _)
  | succ fuel ih =>
    have here' (rest : List UInt8) : 0 < (c.setOutput 0 rest).links.length := by
      rwa [setOutput, modifyProcess, links_length_modifyLink]
    unfold listen hear
    unfold hear at regular
    cases found : Wire.next (c.process 0).output reading with
    | unfinished r rest =>
      rw [Wire.scan_last (by simp [found]), found]
      refine ⟨rfl, fun _ _ _ => ?_⟩
      exact congrArg (·.listener.phase) (link_pauseListening (here' rest) r)
    | ended rest =>
      rw [Wire.scan_last (by simp [found]), found]
      exact ⟨rfl, fun _ _ e => by cases e⟩
    | fault f rest =>
      rw [Wire.scan_last (by simp [found]), found]
      exact ⟨rfl, fun _ _ e => by cases e⟩
    | message m rest =>
      rw [Wire.scan_message found]
      rw [found] at regular
      have shorter := Wire.length_of_next found
      have link := link_setOutput here rest
      obtain ⟨-, closed, process⟩ := listener_dispatch (m := m) (here' rest)
      have length : ((c.setOutput 0 rest).dispatch 0 m).1.links.length =
        (c.setOutput 0 rest).links.length := links_length_dispatch
      rw [link] at closed
      replace process := process.trans (congrArg Link.process link)
      have goesOn : isRegular m → ((c.setOutput 0 rest).dispatch 0 m).2 = none := dispatch_regular
      dsimp only at regular ⊢
      generalize (c.setOutput 0 rest).dispatch 0 m = a at *
      obtain ⟨a, fault⟩ := a
      cases fault with
      | some fault => exact absurd (goesOn (regular m List.mem_cons_self)) (by simp)
      | none =>
        dsimp only at closed process length regular ⊢
        rw [up] at closed
        rw [closed, if_neg (by simp), if_neg (by simp)]
        rw [closed, if_neg (by simp)] at regular
        have rest' := @ih a .start (length ▸ here' rest) closed
          (by rw [process]; dsimp only; omega)
          fun m mem => regular m (List.mem_cons_of_mem _ mem)
        rw [process] at rest'
        exact ⟨congrArg (m :: ·) rest'.1, rest'.2⟩

theorem listener_stopLater {reason : Ending} :
    ((c.stopListening 0 .later reason).link 0).listener = (c.link 0).listener := by
  have failed : ((c.failPending 0 reason).link 0).listener = (c.link 0).listener := by
    rw [link_failPending]
    exact link_modifyLink_same Link.listener fun _ => rfl
  have marked : (((c.failPending 0 reason).modifyLink 0 fun k =>
      { k with superseded := true }).link 0).listener = ((c.failPending 0 reason).link 0).listener :=
    link_modifyLink_same Link.listener fun _ => rfl
  exact marked.trans failed

theorem listener_stopAfter_later {reason : Ending} {announce : Client → Client}
    (same : ((announce c).link 0).listener = (c.link 0).listener) :
    ((c.stopAfter 0 .later reason announce).link 0).listener = (c.link 0).listener := by
  unfold stopAfter
  dsimp only
  split
  · exact listener_stopLater
  · exact listener_stopLater.trans same

/-- A later listener leaves the one that waits where it is. -/
theorem listener_listen_later (off : c.audience ≠ .client) (here : 0 < c.links.length) :
    ((listen 0 .later fuel reading c).link 0).listener = (c.link 0).listener := by
  induction fuel generalizing c reading with
  | zero => rfl
  | succ fuel ih =>
    have kept (rest : List UInt8) : ((c.setOutput 0 rest).link 0).listener = (c.link 0).listener :=
      link_modifyLink_same Link.listener fun _ => rfl
    have fault (b : Client) (f : Wire.Fault) (off : b.audience ≠ .client) :
        ((b.stopAfterFault 0 .later f).link 0).listener = (b.link 0).listener := by
      refine listener_stopAfter_later ?_
      unfold announceFault
      split
      · exact absurd ‹_› off
      · rfl
      · rfl
    unfold listen
    cases Wire.next (c.process 0).output reading with
    | unfinished r rest => exact (fault (c.setOutput 0 rest) _ off).trans (kept rest)
    | fault f rest => exact (fault (c.setOutput 0 rest) f off).trans (kept rest)
    | ended rest =>
      refine (listener_stopAfter_later ?_).trans (kept rest)
      unfold announceEnd
      split
      · exact absurd ‹_› off
      · rfl
      · rfl
    | message m rest =>
      have here' : 0 < (c.setOutput 0 rest).links.length := by
        rwa [setOutput, modifyProcess, links_length_modifyLink]
      have dispatched := (listener_dispatch (m := m) here').1.trans (kept rest)
      have length : ((c.setOutput 0 rest).dispatch 0 m).1.links.length = _ := links_length_dispatch
      have audience : ((c.setOutput 0 rest).dispatch 0 m).1.audience = c.audience :=
        frame_dispatch.audience
      dsimp only
      generalize (c.setOutput 0 rest).dispatch 0 m = a at *
      obtain ⟨b, _ | fault⟩ := a
      · dsimp only at dispatched length audience ⊢
        split
        · exact listener_stopLater.trans dispatched
        · exact (ih (audience ▸ off) (length ▸ here')).trans dispatched
      · refine (listener_stopLater.trans ?_).trans dispatched
        exact link_modifyLink_same Link.listener fun k => by split <;> rfl

/-! ## Turns -/

/-- From where a listener goes on in its turn, unless it was cancelled. -/
def Link.goesOn? (k : Link) : Option Wire.Reading :=
  if k.listener.signal = some .cancelled then none
  else if k.listener.phase = .fresh then some .start else some k.reading

theorem runListener_goesOn (goes : (c.link 0).goesOn? = some r)
    (up : ((c.setListener 0 .running).link 0).closed = false) :
    c.runListener 0 = (c.setListener 0 .running).listenFrom 0 .first r ∧
      c.hearTurn 0 = (c.setListener 0 .running).hearFeed 0 r := by
  have begins : (c.setListener 0 .running).beginListening 0 .first =
      (c.setListener 0 .running).listenFrom 0 .first .start := if_neg (by simp [up])
  have hears : (c.setListener 0 .running).hearBegin 0 =
      (c.setListener 0 .running).hearFeed 0 .start := if_neg (by simp [up])
  unfold Link.goesOn? at goes
  unfold runListener hearTurn
  rcases here : (c.link 0).listener with ⟨p, s⟩
  simp only [here] at goes ⊢
  split_ifs at goes with cancelled fresh
  · obtain rfl := Option.some.inj goes
    subst fresh
    rcases s with _ | _ | _ | _ | _ <;> first | exact ⟨begins, hears⟩ | exact absurd rfl cancelled
  · obtain rfl := Option.some.inj goes
    rcases s with _ | _ | _ | _ | _ <;> cases p <;>
      first | exact absurd rfl cancelled | exact absurd rfl fresh | exact ⟨rfl, rfl⟩

/-- From where messages are taken in the next turn, if any are. -/
def listensFrom? (c : Client) : Option Wire.Reading :=
  match c.ready with
  | .listener _ :: _ => (c.link 0).goesOn?
  | .call n :: _ =>
    match c.calls[n]? with
    | some ⟨.fresh .listen, s⟩ =>
      if s ≠ some .cancelled ∧ (c.link 0).listener.phase = .waiting then some .start else none
    | _ => none
  | _ => none

theorem link_succeed : (c.succeed n).link l = c.link l := rfl

/-- A connection that is listened to is listened to again. -/
theorem turn_listen {ts : List Task} {s : Option Signal} (mere : Mere c none)
    (first : c.ready = .call n :: ts) (here : c.calls[n]? = some ⟨.fresh .listen, s⟩)
    (goes : s ≠ some .cancelled) (waits : (c.link 0).listener.phase = .waiting)
    (up : (c.link 0).closed = false) :
    let b := (({ c with ready := ts } : Client).setCall n .running).renewListener 0
    c.turn = (b.listenFrom 0 .later .start).succeed n ∧ c.received 0 .turn = b.hearFeed 0 .start := by
  intro b
  have held : c.heldLink = 0 := by rw [heldLink, mere.used]; rfl
  have one : 0 < c.links.length := by rw [mere.links]; exact Nat.one_pos
  have link : b.link 0 = { c.link 0 with crash := none, superseded := false } :=
    link_modifyLink_self (c := ({ c with ready := ts } : Client).setCall n .running) one _
  have up' : (b.link 0).closed = false := by rw [link, up]
  have go : s.getD .go ≠ .cancelled := by
    cases s with
    | none => simp
    | some s => exact fun e => goes (congrArg some e)
  have begins : b.beginListening 0 .later = b.listenFrom 0 .later .start := if_neg (by simp [up'])
  have hears : b.hearBegin 0 = b.hearFeed 0 .start := if_neg (by simp [up'])
  have starts : (({ c with ready := ts } : Client).setCall n .running).startListening 0 =
      b.beginListening 0 .later := by
    unfold startListening
    rw [show ((({ c with ready := ts } : Client).setCall n .running).link 0).listener.phase =
      .waiting from waits]
    rfl
  refine ⟨?_, ?_⟩
  · rw [turn_call first here, resumeCall, if_neg go, beginCall,
      show (({ c with ready := ts } : Client).setCall n .running).heldLink = 0 from held, starts,
      begins]
  · simp only [received, first, here, held, waits, ne_eq, goes, not_false_eq_true, and_self,
      if_true]
    exact hears

/-- In a turn all the messages that have arrived are taken, and who listens waits for more if more
has to come. -/
theorem listens_turn (sound : Sound c none lost) (mere : Mere c none)
    (starts : c.listensFrom? = some r) (up : (c.link 0).closed = false)
    (regular : ∀ m ∈ c.received 0 .turn, isRegular m) :
    c.received 0 .turn = (Wire.scan (c.process 0).output r).1 ∧
      ∀ r' rest, (Wire.scan (c.process 0).output r).2 = .unfinished r' rest →
        (c.turn.link 0).listener.phase = .waiting := by
  have one : 0 < c.links.length := by rw [mere.links]; exact Nat.one_pos
  cases first : c.ready with
  | nil => simp [listensFrom?, first] at starts
  | cons t ts =>
    cases t with
    | listener l =>
      obtain rfl := listener_eq_zero sound mere first
      let b : Client := ({ c with ready := ts } : Client).setListener 0 .running
      have one' : 0 < b.links.length := (links_length_modifyLink _).symm ▸ one
      have link : b.link 0 = { c.link 0 with listener := ⟨.running, none⟩ } :=
        link_modifyLink_self (c := { c with ready := ts }) one _
      have up' : (b.link 0).closed = false := by rw [link, up]
      have feed : b.process 0 = c.process 0 := by rw [process, link, process]
      have goes : (({ c with ready := ts } : Client).link 0).goesOn? = some r := by
        simp only [listensFrom?, first] at starts
        exact starts
      obtain ⟨turn, heard⟩ := runListener_goesOn goes up'
      have received : c.received 0 .turn = b.hearFeed 0 r := by
        rw [← heard]
        simp only [Client.received, first, if_true]
      rw [received] at regular ⊢
      rw [turn_listener first, turn, ← feed]
      exact listen_regular one' up' (Nat.lt_succ_self _) regular
    | call n =>
      cases here : c.calls[n]? with
      | none => simp [listensFrom?, first, here] at starts
      | some k =>
        obtain ⟨p, s⟩ := k
        obtain ⟨rfl, goes, waits, rfl⟩ : p = .fresh .listen ∧ s ≠ some .cancelled ∧
            (c.link 0).listener.phase = .waiting ∧ .start = r := by
          simp only [listensFrom?, first, here] at starts
          split at starts
          · next e =>
            obtain ⟨rfl, rfl⟩ := Call.mk.inj (Option.some.inj e)
            split_ifs at starts with goes
            exact ⟨rfl, goes.1, goes.2, Option.some.inj starts⟩
          · cases starts
        obtain ⟨turn, received⟩ := turn_listen mere first here goes waits up
        let b := (({ c with ready := ts } : Client).setCall n .running).renewListener 0
        have one' : 0 < b.links.length := (links_length_modifyLink _).symm ▸ one
        have link : b.link 0 = { c.link 0 with crash := none, superseded := false } :=
          link_modifyLink_self (c := ({ c with ready := ts } : Client).setCall n .running) one _
        have up' : (b.link 0).closed = false := by rw [link, up]
        have feed : b.process 0 = c.process 0 := by rw [process, link, process]
        rw [received] at regular ⊢
        rw [turn, ← feed]
        refine ⟨(listen_regular one' up' (Nat.lt_succ_self _) regular).1, fun _ _ _ => ?_⟩
        have kept : ((b.listenFrom 0 .later .start).link 0).listener = (b.link 0).listener :=
          listener_listen_later mere.observed one'
        rw [link_succeed, kept, link]
        exact waits
    | _ => simp [listensFrom?, first] at starts

/-! ## Runs -/

/-- An observer is notified, or an answer is written. -/
def Event.isReaction : Event → Bool
  | .notified _ => true
  | .wrote m => !hasMethod m
  | _ => false

/-- Messages are taken only while the connection is open and the process can be written to. -/
def ReadsOpen (c : Client) : List Input → Prop
  | [] => True
  | i :: rest => (c.received 0 i ≠ [] → (c.link 0).isWritable) ∧ (c.step i).ReadsOpen rest

instance decidableReadsOpen : (inputs : List Input) → (c : Client) → Decidable (c.ReadsOpen inputs)
  | [], _ => isTrue trivial
  | i :: rest, c =>
    have := decidableReadsOpen rest (c.step i)
    inferInstanceAs (Decidable ((c.received 0 i ≠ [] → (c.link 0).isWritable) ∧
      (c.step i).ReadsOpen rest))

theorem isReaction_due (e : Event) (mem : e ∈ due m) : e.isReaction := by
  unfold due at mem
  split_ifs at mem
  · cases mem
  · obtain rfl := List.mem_singleton.mp mem
    rfl
  · obtain rfl := List.mem_singleton.mp mem
    simp [Event.isReaction, hasMethod_rejection]

theorem isReaction_speech (e : Event) (mem : e ∈ (c.speech i).map Event.wrote) :
    e.isReaction = false := by
  obtain ⟨m, said, rfl⟩ := List.mem_map.mp mem
  unfold speech at said
  split at said
  · obtain ⟨s, -, rfl⟩ := List.mem_map.mp said
    cases s <;> simp [Event.isReaction, Send.message, hasMethod_message]
  · cases said

/-- The messages that are taken in a step bring about what they are due. -/
theorem reactions_step (sound : Sound c none lost) (mere : Mere c none)
    (observer : c.audience = .observer) (regular : ∀ m ∈ c.received 0 i, isRegular m)
    (opens : c.received 0 i ≠ [] → (c.link 0).isWritable) :
    (c.step i).traffic.filter Event.isReaction =
      c.traffic.filter Event.isReaction ++ (c.received 0 i).flatMap due := by
  obtain ⟨e, traffic, tells⟩ := passes_step (i := i) sound mere
  have spoken : ((c.speech i).map Event.wrote).filter Event.isReaction = [] :=
    List.filter_eq_nil_iff.mpr fun e mem => by simp [isReaction_speech e mem]
  have told : e.toList.filter Event.isReaction = [] := by
    refine List.filter_eq_nil_iff.mpr fun x mem => ?_
    have isEnd := (tells x (Option.mem_toList.mp mem)).isEnd
    cases x <;> first | exact Bool.false_ne_true | cases isEnd
  have reacted : (c.received 0 i).flatMap ((c.link 0).reaction c.audience) =
      (c.received 0 i).flatMap due := by
    refine List.flatMap_congr fun m mem => ?_
    rw [observer]
    exact reaction_regular (regular m mem) (opens (List.ne_nil_of_mem mem))
  have all : ((c.received 0 i).flatMap due).filter Event.isReaction =
      (c.received 0 i).flatMap due := by
    refine List.filter_eq_self.mpr fun e mem => ?_
    obtain ⟨m, -, mem⟩ := List.mem_flatMap.mp mem
    exact isReaction_due e mem
  rw [traffic, List.filter_append, List.filter_append, List.filter_append, spoken, told, reacted,
    all, List.append_nil, List.append_nil]

theorem reactions_run (sound : Sound c none lost) (mere : Mere c none)
    (observer : c.audience = .observer) (fits : ∀ i ∈ inputs, i.Fits c)
    (regular : ∀ m ∈ c.heard 0 inputs, isRegular m) (opens : c.ReadsOpen inputs) :
    (c.run inputs).traffic.filter Event.isReaction =
      c.traffic.filter Event.isReaction ++ (c.heard 0 inputs).flatMap due := by
  induction inputs generalizing c lost with
  | nil => exact (List.append_nil _).symm
  | cons i inputs ih =>
    have fit := fits i List.mem_cons_self
    obtain ⟨sound', mere'⟩ := invariant_mere.step trivial fit sound mere
    have audience := audience_step sound.fit fit
    have fits' j (mem : j ∈ inputs) : j.Fits (c.step i) :=
      (fits j (List.mem_cons_of_mem i mem)).congr audience
    rw [heard] at regular
    rw [run_cons, ih sound' mere' (audience.trans observer) fits'
        (fun m mem => regular m (List.mem_append_right _ mem)) opens.2,
      reactions_step sound mere observer (fun m mem => regular m (List.mem_append_left _ mem))
        opens.1, heard, List.flatMap_append, List.append_assoc]

/-- What becomes of the messages that are taken over a connection, up to some moment. -/
structure Sorts (first : Client) (inputs : List Input) : Prop where
  /-- Notifications reach the observer as they are, requests of the server are turned down, each
  once and in the order in which they came. -/
  reactions : (first.run inputs).traffic.filter Event.isReaction =
    (first.heard 0 inputs).flatMap due
  /-- All the messages that have arrived are taken, and who listens waits for more if more has to
  come. -/
  goesOn : ∀ before after r, inputs = before ++ .turn :: after →
    (first.run before).listensFrom? = some r → ((first.run before).link 0).closed = false →
    (first.run before).received 0 .turn =
        (Wire.scan ((first.run before).process 0).output r).1 ∧
      ∀ r' rest, (Wire.scan ((first.run before).process 0).output r).2 = .unfinished r' rest →
        ((first.run (before ++ [.turn])).link 0).listener.phase = .waiting

/-- Every message of the right shape is a notification, a request of the server or a response, and
is dealt with as such; none ends the listener. -/
theorem messages_sorted {name : String} {policy : Policy}
    (fits : ∀ i ∈ inputs, i.Fits (ofProcess name policy true))
    (regular : ∀ m ∈ (ofProcess name policy true).heard 0 inputs, isRegular m)
    (opens : (ofProcess name policy true).ReadsOpen inputs) :
    Sorts (ofProcess name policy true) inputs ∧ ∀ (c : Client) m, isRegular m → Handles c m := by
  refine ⟨⟨reactions_run sound_ofProcess mere_ofProcess rfl fits regular opens, ?_⟩,
    fun c m regular => handles_regular regular⟩
  rintro before after r rfl starts up
  obtain ⟨⟨lost, sound, -⟩, mere, -⟩ := mere_run fits
  have turn : (ofProcess name policy true).run (before ++ [.turn]) =
    ((ofProcess name policy true).run before).turn := run_append
  rw [turn]
  refine listens_turn sound mere starts up fun m mem => regular m ?_
  rw [heard_append, heard]
  exact List.mem_append_right _ (List.mem_append_left _ mem)

/-- While a request with the id 1 waits, the server notifies, asks with this id and with others that
count as false, and answers. -/
def mingled : List Input :=
  [.call .listen, .turn, .turn, .call (.sends [.request "a" .null]), .turn,
    .output (Wire.encodeAll [.obj [("method", .str "n"), ("id", .null)],
      .obj [("id", .int 1), ("method", .str "m")], .obj [("id", .int 0), ("method", .str "m")]]),
    .turn, .output (Wire.encodeAll [.obj [("id", .str ""), ("method", .str "m")],
      .obj [("method", .null), ("id", .int 1), ("result", .str "b")]]), .turn, .turn]

theorem messages_sorted_mingled :
    Sorts (ofProcess "lsp" default true) mingled ∧
      ((ofProcess "lsp" default true).heard 0 mingled).flatMap due =
        [.notified (.obj [("method", .str "n"), ("id", .null)]),
          .wrote (rejection (.int 1) (.str "m")), .wrote (rejection (.int 0) (.str "m")),
          .wrote (rejection (.str "") (.str "m"))] ∧
      ((ofProcess "lsp" default true).run mingled).callOutcome? 1 = some (.value (.str "b")) :=
  ⟨(messages_sorted (by decide +kernel) (by decide +kernel) (by decide +kernel)).1,
    by decide +kernel, by decide +kernel⟩

end LspGateway.Client
