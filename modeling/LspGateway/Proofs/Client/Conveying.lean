import LspGateway.Proofs.Client.Exchange
import LspGateway.Proofs.Client.Sparing
import LspGateway.Proofs.Wire.Frames

/-! # What gets across

Step by step, a connection conveys what the caller that has its turn says, and what the messages
that are taken bring about. Over a run this makes one stream of whole messages, in the order in
which they were sent.
-/

namespace LspGateway.Client

variable {c c₁ : Client} {lost : List Loss} {l n : Nat} {t : Task} {i : Input} {m : Json}
  {inputs rest : List Input} {ss said all : List Send}

/-! ## Steps -/

instance : Decidable (c.IsTurn n i) :=
  inferInstanceAs (Decidable (i = .turn ∧ c.ready.head? = some (.call n)))

/-- What a call gets across in a step: what it has to say in its turn, as far as it is accepted. -/
def uttered (c : Client) (n : Nat) (i : Input) : List Send :=
  if c.IsTurn n i then (c.link 0).accepts (c.toSay n) else []

/-- The messages of the call that has its turn. -/
def speech (c : Client) (i : Input) : List Json :=
  match c.ready.head? with
  | some (.call n) => (c.uttered n i).map (·.message ((c.link 0).lastId + 1))
  | _ => []

theorem speech_call {ts : List Task} (first : c.ready = .call n :: ts) :
    c.speech .turn = ((c.link 0).accepts (c.toSay n)).map (·.message ((c.link 0).lastId + 1)) := by
  have turns : c.IsTurn n .turn := ⟨rfl, by rw [first]; rfl⟩
  simp [speech, first, uttered, turns]

theorem speech_silent (other : ∀ n, ¬ c.IsTurn n i) : c.speech i = [] := by
  unfold speech
  split
  · next n head => simp [uttered, other n]
  · rfl

/-- What passes in a step. -/
def Passes (c : Client) (i : Input) (c₁ : Client) : Prop :=
  ∃ e : Option Event,
    c₁.traffic = c.traffic ++ (c.speech i).map .wrote ++
        (c.received 0 i).flatMap ((c.link 0).reaction c.audience) ++ e.toList ∧
      ∀ x ∈ e, Tells c x

theorem Passing.passes (h : Passing c (c.received 0 i) c₁) (silent : c.speech i = []) :
    Passes c i c₁ := by
  obtain ⟨e, traffic, tells⟩ := h
  exact ⟨e, by rw [traffic, silent, List.map_nil, List.append_nil], tells⟩

theorem passes_quiet (traffic : c₁.traffic = c.traffic) (silent : c.speech i = [])
    (deaf : c.received 0 i = []) : Passes c i c₁ :=
  Passing.passes (deaf ▸ .silent traffic) silent

/-- There is one listener only. -/
theorem listener_eq_zero {ts : List Task} (sound : Sound c none lost) (mere : Mere c none)
    (first : c.ready = .listener l :: ts) : l = 0 := by
  have canGo := (sound.queue.canGo _ (by rw [first]; exact List.mem_cons_self)).resolve_left
    (by simp [Task.isRelay])
  have here : l < c.links.length := by
    by_contra beyond
    rw [standing, link_of_le (Nat.le_of_not_lt beyond)] at canGo
    cases canGo.1
  have := mere.links
  omega

/-- In a turn what the caller says passes, or what follows from the messages that are taken. -/
theorem passes_turn (sound : Sound c none lost) (mere : Mere c none) : Passes c .turn c.turn := by
  have one : 0 < c.links.length := by rw [mere.links]; exact Nat.one_pos
  cases first : c.ready with
  | nil =>
    refine passes_quiet (by rw [turn, first]) ?_ (by simp [received, first])
    exact speech_silent fun n turns => by simp [IsTurn, first] at turns
  | cons t ts =>
    have runs : c.turn = ({ c with ready := ts } : Client).runTask t := by rw [turn, first]
    have other (apart : ∀ n, t ≠ .call n) : c.speech .turn = [] :=
      speech_silent fun n turns => apart n (by simpa [IsTurn, first] using turns)
    have canGo := sound.queue.canGo t (by rw [first]; exact List.mem_cons_self)
    cases t with
    | listener l =>
      obtain rfl := listener_eq_zero sound mere first
      refine Passing.passes ?_ (other (by simp))
      rw [turn_listener first]
      have heard : c.received 0 .turn = ({ c with ready := ts } : Client).hearTurn 0 := by
        simp [received, first]
      rw [heard]
      have passing := Passing.turn (listenerTurn (c := { c with ready := ts }) (l := 0))
        mere.observed one
      exact passing.after rfl rfl rfl rfl rfl
    | drain l =>
      refine passes_quiet ?_ (other (by simp)) (by simp [received, first])
      rw [runs]
      exact traffic_runDrain
    | attempt a =>
      refine passes_quiet ?_ (other (by simp)) (by simp [received, first])
      rw [runs]
      show (({ c with ready := ts } : Client).runAttempt a).traffic = _
      simp only [runAttempt, mere.attempts, List.getElem?_nil]
      rfl
    | relay a =>
      refine passes_quiet ?_ (other (by simp)) (by simp [received, first])
      rw [runs]
      show (({ c with ready := ts } : Client).runRelay a).traffic = _
      unfold runRelay
      split
      · exact traffic_wakeCalls
      · rfl
    | call n =>
      have waits := canGo.resolve_left (by simp [Task.isRelay])
      obtain ⟨p, told, here⟩ := call_of_told waits.2
      by_cases sends : p.role.errand = .sends
      · have spoke := spoke_turn mere first here sends
        have deaf : c.received 0 .turn = [] :=
          (silent_turn (l := 0) first (by simp) (by
            rw [role, standing_of_call here]
            exact sends ▸ by simp)).1
        refine ⟨none, ?_, by simp⟩
        rw [spoke.traffic, deaf, speech_call first, List.map_map]
        simp [Function.comp_def]
      · have silent : c.speech .turn = [] := by
          rw [speech_call first, toSay_eq here, CallPhase.intends_eq_nil sends, accepts_nil,
            List.map_nil]
        by_cases listens : p.role.errand = .listens
        · obtain rfl := eq_listen listens
          exact (passing_turn_listen mere first here).passes silent
        · refine passes_quiet (traffic_turn_call sound mere first here sends listens) silent ?_
          exact (silent_turn (l := 0) first (by simp)
            (by rwa [role, standing_of_call here])).1

theorem traffic_onLastLink {f : Client → Nat → Client} (h : ∀ l, (f c l).traffic = c.traffic) :
    (c.onLastLink f).traffic = c.traffic := by
  unfold onLastLink
  split
  · rfl
  · exact h _

/-- Outside of turns nothing passes. -/
theorem traffic_input (outside : i ≠ .turn) : (c.step i).traffic = c.traffic := by
  cases i with
  | turn => exact absurd rfl outside
  | call job => rfl
  | cancel n => exact traffic_cancelCall
  | output bytes => exact traffic_onLastLink fun l => traffic_feed
  | errors bytes => exact traffic_onLastLink fun l => traffic_feedErrors
  | outputEnd => exact traffic_onLastLink fun l => traffic_endOutput
  | exit code => exact traffic_onLastLink fun l => traffic_exit
  | inputFault fault => exact traffic_onLastLink fun l => rfl
  | expectEnd => rfl
  | time moment due => exact traffic_wakeCalls.trans traffic_wakeAttempts

theorem passes_step (sound : Sound c none lost) (mere : Mere c none) : Passes c i (c.step i) := by
  by_cases turns : i = .turn
  · exact turns ▸ passes_turn sound mere
  · refine passes_quiet (traffic_input turns) (speech_silent fun n own => turns own.1) ?_
    cases i with
    | turn => exact absurd rfl turns
    | _ => rfl

/-! ## What is written -/

def Event.written? : Event → Option Json
  | .wrote m => some m
  | _ => none

/-- The messages that were written to the process, oldest first. -/
def written (c : Client) : List Json := c.traffic.filterMap Event.written?

/-- What is written on account of a message that is taken: a request of the server is turned
down. -/
def Link.answer (k : Link) (m : Json) : List Json :=
  match Incoming.ofJson m with
  | .ok (.request id method) => if k.isWritable then [rejection id method] else []
  | _ => []

theorem written_reaction (k : Link) (who : Audience) (m : Json) :
    (k.reaction who m).filterMap Event.written? = k.answer m := by
  unfold Link.reaction Link.answer
  rcases Incoming.ofJson m with _ | ⟨_, _⟩ | _ | ⟨_, _⟩
  · rfl
  · rfl
  · dsimp only
    split <;> rfl
  · dsimp only
    split <;> rfl

/-- What is written in a step. -/
def posted (c : Client) (i : Input) : List Json :=
  c.speech i ++ (c.received 0 i).flatMap (c.link 0).answer

theorem written_step (sound : Sound c none lost) (mere : Mere c none) :
    (c.step i).written = c.written ++ c.posted i := by
  obtain ⟨e, traffic, tells⟩ := passes_step sound mere
  have none' : e.toList.filterMap Event.written? = [] := by
    cases e with
    | none => rfl
    | some x =>
      have isEnd := (tells x rfl).isEnd
      cases x <;> first | rfl | cases isEnd
  have spoken : ((c.speech i).map Event.wrote).filterMap Event.written? = c.speech i := by
    rw [List.filterMap_map]
    exact List.filterMap_some
  rw [written, traffic, List.filterMap_append, List.filterMap_append, List.filterMap_append, none',
    spoken, List.filterMap_flatMap, List.append_nil, List.append_assoc]
  simp only [written_reaction]
  rfl

/-- A request of the client has an id; so has an answer to the server, but no method. -/
def requestId? (m : Json) : Option Nat := if hasMethod m then idOf? m else none

theorem requestId_message {id : Option Nat} {method : String} {params : Json} :
    requestId? (message id method params) = id := by
  rw [requestId?, if_pos hasMethod_message, idOf_message]

theorem requestId_answer (k : Link) (m : Json) : (k.answer m).filterMap requestId? = [] := by
  unfold Link.answer
  split
  · split
    · simp [requestId?, hasMethod_rejection]
    · rfl
  · rfl

/-- A caller makes one request at most before it waits. -/
theorem requestId_accepts (k : Link) (ss : List Send) (id : Nat) :
    ((k.accepts ss).map (·.message id)).filterMap requestId? =
      if (k.accepts ss).any Send.isRequest then [id] else [] := by
  have one (s : Send) : ([s].map (·.message id)).filterMap requestId? =
      if [s].any Send.isRequest then [id] else [] := by
    cases s <;> simp [Send.message, requestId_message, Send.isRequest]
  unfold Link.accepts
  split
  · rfl
  · split
    · induction ss with
      | nil => rfl
      | cons s ss ih =>
        cases s with
        | notify method params =>
          simpa [upToRequest, Send.message, requestId_message, Send.isRequest] using ih
        | request method params => exact one _
    · cases ss with
      | nil => rfl
      | cons s ss => exact one s
    · rfl

/-- A request has a new id, and only the call that has its turn makes one. -/
theorem requestId_posted (sound : Sound c none lost) (mere : Mere c none) :
    (c.posted i).filterMap requestId? = [] ∨
      (c.posted i).filterMap requestId? = [(c.link 0).lastId + 1] ∧
        (c.link 0).lastId < ((c.step i).link 0).lastId := by
  have spoken : (c.posted i).filterMap requestId? = (c.speech i).filterMap requestId? := by
    have answers : ((c.received 0 i).flatMap (c.link 0).answer).filterMap requestId? = [] := by
      rw [List.filterMap_flatMap]
      simp [requestId_answer]
    rw [posted, List.filterMap_append, answers, List.append_nil]
  rw [spoken]
  by_cases own : ∃ n, c.IsTurn n i
  · obtain ⟨n, rfl, head⟩ := own
    obtain ⟨ts, first⟩ := List.head?_eq_some_iff.mp head
    have waits := (sound.queue.canGo _ (by rw [first]; exact List.mem_cons_self)).resolve_left
      (by simp [Task.isRelay])
    obtain ⟨p, told, here⟩ := call_of_told waits.2
    rw [speech_call first, requestId_accepts]
    split
    · next asks =>
      refine .inr ⟨rfl, ?_⟩
      refine (spoke_turn mere first here ?_).counted asks
      by_contra idle
      rw [toSay_eq here, CallPhase.intends_eq_nil idle, accepts_nil] at asks
      cases asks
    · exact .inl rfl
  · exact .inl (by rw [speech_silent fun n turns => own ⟨n, turns⟩]; rfl)

/-! ## Runs -/

/-- What is written in a run, step by step. -/
def postedIn (c : Client) : List Input → List Json
  | [] => []
  | i :: rest => c.posted i ++ (c.step i).postedIn rest

/-- What a call gets across in a run. -/
def utteredIn (c : Client) (n : Nat) : List Input → List Send
  | [] => []
  | i :: rest => c.uttered n i ++ (c.step i).utteredIn n rest

theorem utteredIn_append : c.utteredIn n (inputs ++ rest) =
    c.utteredIn n inputs ++ (c.run inputs).utteredIn n rest := by
  induction inputs generalizing c with
  | nil => rfl
  | cons i inputs ih => rw [List.cons_append, utteredIn, utteredIn, ih, List.append_assoc, run_cons]

section Run

variable (sound : Sound c none lost) (mere : Mere c none)

include sound mere

theorem written_run (fits : ∀ i ∈ inputs, i.Fits c) :
    (c.run inputs).written = c.written ++ c.postedIn inputs := by
  induction inputs generalizing c lost with
  | nil => exact (List.append_nil _).symm
  | cons i inputs ih =>
    have fit := fits i List.mem_cons_self
    obtain ⟨sound', mere'⟩ := invariant_mere.step trivial fit sound mere
    have fits' j (mem : j ∈ inputs) : j.Fits (c.step i) :=
      (fits j (List.mem_cons_of_mem i mem)).congr (audience_step sound.fit fit)
    rw [run_cons, ih sound' mere' fits', written_step sound mere, postedIn, List.append_assoc]

/-- Requests have ascending ids, each greater than those given before. -/
theorem requestId_postedIn (fits : ∀ i ∈ inputs, i.Fits c) :
    ((c.postedIn inputs).filterMap requestId?).Pairwise (· < ·) ∧
      ∀ id ∈ (c.postedIn inputs).filterMap requestId?, (c.link 0).lastId < id := by
  induction inputs generalizing c lost with
  | nil => simp [postedIn]
  | cons i inputs ih =>
    have fit := fits i List.mem_cons_self
    obtain ⟨sound', mere'⟩ := invariant_mere.step trivial fit sound mere
    have fits' j (mem : j ∈ inputs) : j.Fits (c.step i) :=
      (fits j (List.mem_cons_of_mem i mem)).congr (audience_step sound.fit fit)
    obtain ⟨ascending, above⟩ := ih sound' mere' fits'
    have more : (c.link 0).lastId ≤ ((c.step i).link 0).lastId := lastId_step sound fit
    rw [postedIn, List.filterMap_append]
    obtain none' | ⟨one, new⟩ := requestId_posted (i := i) sound mere
    · rw [none', List.nil_append]
      exact ⟨ascending, fun id mem => Nat.lt_of_le_of_lt more (above id mem)⟩
    · rw [one]
      refine ⟨List.pairwise_cons.mpr ⟨fun id mem => ?_, ascending⟩, fun id mem => ?_⟩
      · exact Nat.lt_of_le_of_lt new (above id mem)
      · obtain rfl | mem := List.mem_cons.mp mem
        · exact Nat.lt_succ_self _
        · exact Nat.lt_of_le_of_lt more (above id mem)

theorem hasSaid_step {k : Call} (fit : i.Fits c) (here : c.calls[n]? = some k)
    (h : k.phase.HasSaid said all) :
    ∃ k', (c.step i).calls[n]? = some k' ∧ k'.phase.HasSaid (said ++ c.uttered n i) all := by
  by_cases own : c.IsTurn n i
  · obtain ⟨rfl, head⟩ := own
    obtain ⟨ts, first⟩ := List.head?_eq_some_iff.mp head
    obtain ⟨p, told⟩ := k
    have usable : (({ c with ready := ts } : Client).setCall n .running).usableLink = .ok 0 :=
      mere.usableLink
    have one : 0 < (({ c with ready := ts } : Client).setCall n .running).links.length := by
      rw [show (({ c with ready := ts } : Client).setCall n .running).links = c.links from rfl,
        mere.links]
      exact Nat.one_pos
    have lt : n < (({ c with ready := ts } : Client).setCall n .running).calls.length := by
      simpa [setCall] using (List.getElem?_eq_some_iff.mp here).1
    obtain ⟨p', now, stands⟩ := hasSaid_resumeCall (s := told.getD .go) usable one lt h
    refine ⟨⟨p', none⟩, ?_, ?_⟩
    · rw [← now]
      exact congrArg (fun b => b.calls[n]?) (turn_call first here)
    · rw [uttered, if_pos ⟨rfl, head⟩, toSay_eq here]
      exact stands
  · obtain ⟨s, now⟩ := call_kept sound fit own here
    refine ⟨_, now, ?_⟩
    rwa [uttered, if_neg own, List.append_nil]

/-- What a call gets across is what it was to say, in its order and without anything twice. -/
theorem hasSaid_run {k : Call} (fits : ∀ i ∈ inputs, i.Fits c) (here : c.calls[n]? = some k)
    (h : k.phase.HasSaid said all) :
    ∃ k', (c.run inputs).calls[n]? = some k' ∧
      k'.phase.HasSaid (said ++ c.utteredIn n inputs) all := by
  induction inputs generalizing c lost k said with
  | nil => exact ⟨k, here, by rwa [utteredIn, List.append_nil]⟩
  | cons i inputs ih =>
    have fit := fits i List.mem_cons_self
    obtain ⟨sound', mere'⟩ := invariant_mere.step trivial fit sound mere
    have fits' j (mem : j ∈ inputs) : j.Fits (c.step i) :=
      (fits j (List.mem_cons_of_mem i mem)).congr (audience_step sound.fit fit)
    obtain ⟨k', now, stands⟩ := hasSaid_step sound mere fit here h
    obtain ⟨k'', then', stands'⟩ := ih sound' mere' fits' now stands
    exact ⟨k'', then', by rwa [utteredIn, ← List.append_assoc]⟩

end Run

/-! ## After the end -/

theorem invariant_closed : Invariant Always fun c _ _ => (c.link l).closed := by
  refine ⟨fun _ closed act => act.closed_mono closed,
    fun {c d lost k id t} _ closed _ _ _ => ?_, fun {c rest c₁ d lost} _ _ closed begins => ?_⟩
  · have kept : ((c.forget k id).link l).closed = (c.link l).closed :=
      link_modifyLink_same Link.closed fun _ => rfl
    exact kept.trans closed
  · have kept : (c₁.link l).closed = (c.link l).closed := by
      let r (k j : Link) : Prop := j.closed = k.closed
      cases begins with
      | listener => exact rel_link (c := c) (r := r) (fun _ => rfl) rfl rfl l
      | drain => exact rel_link (c := c) (r := r) (fun _ => rfl) rfl rfl l
      | _ => rfl
    exact kept.trans closed

/-- Nothing is written over a connection that was closed. -/
theorem posted_closed (closed : (c.link 0).closed) : c.posted i = [] := by
  have shut : (c.link 0).isClosed := by simp [Link.isClosed, closed]
  have still : (c.link 0).isWritable = false := by simp [Link.isWritable, closed]
  have silent : c.speech i = [] := by
    unfold speech
    split
    · unfold uttered
      split
      · rw [accepts_closed shut, List.map_nil]
      · rfl
    · rfl
  rw [posted, silent, List.nil_append, List.flatMap_eq_nil_iff]
  intro m _
  unfold Link.answer
  split
  · rw [still]
    rfl
  · rfl

theorem postedIn_closed (sound : Sound c none lost) (fits : ∀ i ∈ inputs, i.Fits c)
    (closed : (c.link 0).closed) : c.postedIn inputs = [] := by
  induction inputs generalizing c lost with
  | nil => rfl
  | cons i inputs ih =>
    have fit := fits i List.mem_cons_self
    obtain ⟨sound', closed'⟩ := invariant_closed.step trivial fit sound closed
    have fits' j (mem : j ∈ inputs) : j.Fits (c.step i) :=
      (fits j (List.mem_cons_of_mem i mem)).congr (audience_step sound.fit fit)
    rw [postedIn, posted_closed closed, ih sound' fits' closed', List.nil_append]

/-- Who has something to say over a connection that is closed only learns that it is. -/
theorem resumeCall_refused {p : CallPhase} {s : Signal} (usable : c.usableLink = .ok 0)
    (shut : (c.link 0).isClosed) (intends : p.intends s ≠ []) :
    c.resumeCall n s p = c.finish n (.error .closed) := by
  cases p with
  | fresh job =>
    cases job with
    | sends ss =>
      rw [CallPhase.intends] at intends
      split at intends
      · exact absurd rfl intends
      · next goes =>
        cases ss with
        | nil => exact absurd rfl intends
        | cons s ss =>
          rw [resumeCall, if_neg goes]
          exact sendAll_closed .null usable shut
    | _ => exact absurd rfl intends
  | awaiting l id rest =>
    cases s with
    | answered o =>
      cases o with
      | value result =>
        cases rest with
        | nil => exact absurd rfl intends
        | cons s ss => exact sendAll_closed result usable shut
      | _ => exact absurd rfl intends
    | _ => exact absurd rfl intends
  | _ => exact absurd rfl intends

theorem turn_refused {ts : List Task} (mere : Mere c none) (first : c.ready = .call n :: ts)
    (shut : (c.link 0).isClosed) (speaks : c.toSay n ≠ []) :
    c.turn = (({ c with ready := ts } : Client).setCall n .running).finish n (.error .closed) := by
  cases here : c.calls[n]? with
  | none => exact absurd (by rw [toSay, here]) speaks
  | some k =>
    obtain ⟨p, told⟩ := k
    rw [toSay_eq here] at speaks
    rw [turn_call first here]
    exact resumeCall_refused mere.usableLink shut speaks

/-- How messages get to the process over a connection, up to some moment. -/
structure Conveys (first : Client) (inputs : List Input) : Prop where
  /-- What callers say in their turns and the answers to requests of the server are written as
  whole messages, in this order and each once. -/
  written : (first.run inputs).written = first.postedIn inputs
  /-- The frames of these messages can be told apart again. -/
  frames : (∀ m ∈ (first.run inputs).written, Wire.Sendable m) →
    Wire.scan ⟨Wire.encodeAll (first.run inputs).written, true⟩ .start =
      ((first.run inputs).written, .ended [])
  /-- Requests are written with ascending ids. -/
  ascending : ((first.run inputs).written.filterMap requestId?).Pairwise (· < ·)
  /-- What a call says is what it was to say, from the first thing on and nothing twice; if it
  ended with a value, it has said everything. -/
  said : ∀ before after ss, inputs = before ++ .call (.sends ss) :: after →
    first.utteredIn (first.run before).calls.length inputs <+: ss ∧
      ∀ j, (first.run inputs).callOutcome? (first.run before).calls.length = some (.value j) →
        first.utteredIn (first.run before).calls.length inputs = ss
  /-- Nothing is written after the connection was closed. -/
  closed : ∀ before after, inputs = before ++ after → ((first.run before).link 0).closed →
    (first.run inputs).written = (first.run before).written
  /-- Who has something to say after the connection was closed, or when nobody listens any more,
  learns that, and nothing else changes. -/
  refused : ∀ before after n, inputs = before ++ .turn :: after →
    (first.run before).ready.head? = some (.call n) → ((first.run before).link 0).isClosed →
    (first.run before).toSay n ≠ [] →
    (first.run (before ++ [.turn])).written = (first.run before).written ∧
      (first.run (before ++ [.turn])).link 0 = (first.run before).link 0 ∧
      (first.run (before ++ [.turn])).callOutcome? n = some (.error .closed)

section Connection

variable {name : String} {policy : Policy} {observed : Bool} {before after : List Input}

/-- A call has nothing to say before it begins. -/
theorem utteredIn_before (fits : ∀ i ∈ inputs, i.Fits (ofProcess name policy observed))
    (new : ((ofProcess name policy observed).run inputs).calls.length ≤ n) :
    (ofProcess name policy observed).utteredIn n inputs = [] := by
  induction inputs using List.reverseRecOn with
  | nil => rfl
  | append_singleton inputs i ih =>
    have fits' i (h : i ∈ inputs) := fits i (List.mem_append_left _ h)
    obtain ⟨⟨lost, sound, -⟩, -, later⟩ := mere_run fits
    have fit := later i List.mem_cons_self
    rw [run_append] at new
    have fewer : ((ofProcess name policy observed).run inputs).calls.length ≤ n := by
      refine Nat.le_trans ?_ new
      by_cases quiet : ∀ job, i ≠ .call job
      · exact Nat.le_of_eq (calls_length_step sound fit quiet).symm
      · simp only [not_forall, not_not] at quiet
        obtain ⟨job, rfl⟩ := quiet
        simp [run, Client.step, addCall, push]
    rw [utteredIn_append, ih fits' fewer, List.nil_append, utteredIn, utteredIn, List.append_nil,
      uttered]
    split
    · rw [toSay, List.getElem?_eq_none fewer]
      exact accepts_nil _
    · rfl

end Connection

/-- Two callers and a request of the server; then a caller that is cancelled, one that learns of a
fault after it has written, and one that comes too late. -/
def crowded : List Input :=
  [.call .listen, .turn, .turn, .call (.sends [.request "a" .null]),
    .call (.sends [.notify "b" .null, .request "c" .null]), .turn, .cancel 1, .turn,
    .output (Wire.encode (.obj [("id", .int 1), ("method", .str "m")])), .turn, .turn,
    .inputFault (some .broken), .call (.sends [.notify "d" .null]), .turn, .call .close,
    .call (.sends [.request "e" .null]), .turn, .turn]

end LspGateway.Client
