import LspGateway.Proofs.Client.Regardless
import LspGateway.Proofs.Client.Sorting

/-! # Cancelling some of the callers

Who waits for the start with nothing to send, or for the answer to the last thing that it has
sent, can be cancelled without harm to the others. Two runs in which the others do the same show
the same of them, of the client and of its processes, be those callers cancelled or not.
-/

namespace LspGateway.Client

/-! ## Responses that come too late

A caller that is cancelled after it has sent a request is told so, and nobody else waits for the
answer then. When the response arrives it is dropped, be the request still on the list or not.
-/

section Dropping

variable {c c₁ b : Client} {d : Option Doer} {lost : List Loss} {l n id fuel : Nat} {t : Task}
  {ss : List Send} {s : Option Signal} {m : Json} {before after : List Input}
  {reading : Wire.Reading}

/-! ### What a listener hands over -/

/-- The messages that a listener takes until it has to wait or to end, each with the client that it
is handed to. -/
def hands (l : Nat) : Nat → Wire.Reading → Client → List (Client × Json)
  | 0, _, _ => []
  | fuel + 1, reading, c =>
    match Wire.next (c.process l).output reading with
    | .message m rest =>
      (c.setOutput l rest, m) ::
        match (c.setOutput l rest).dispatch l m with
        | (c, none) => if (c.link l).closed then [] else hands l fuel .start c
        | (_, some _) => []
    | _ => []

/-- The messages that a listener takes in its turn, each with the client that it is handed to. -/
def handsTurn (c : Client) (l : Nat) : List (Client × Json) :=
  let b := c.setListener l .running
  let hands := Client.hands l ((b.process l).output.buffer.length + 1)
  match (c.link l).listener with
  | ⟨_, some .cancelled⟩ => []
  | ⟨.fresh, _⟩ => if (b.link l).closed then [] else hands .start b
  | _ => hands (c.link l).reading b

/-- The messages that a client takes from a link in a step, each with the client that it is handed
to. -/
def handed (c : Client) (l : Nat) : List (Client × Json) :=
  match c.ready with
  | .listener k :: rest => if k = l then ({ c with ready := rest } : Client).handsTurn l else []
  | _ => []

theorem map_hands : (hands l fuel reading c).map Prod.snd = hear l fuel reading c := by
  induction fuel generalizing c reading with
  | zero => rfl
  | succ fuel ih =>
    unfold hands hear
    cases Wire.next (c.process l).output reading with
    | message m rest =>
      dsimp only
      rcases (c.setOutput l rest).dispatch l m with ⟨a, _ | fault⟩
      · dsimp only
        split
        · rfl
        · rw [List.map_cons, ih]
      · rfl
    | _ => rfl

theorem map_handsTurn : (c.handsTurn l).map Prod.snd = c.hearTurn l := by
  unfold handsTurn hearTurn
  rcases (c.link l).listener with ⟨p, _ | _ | _ | _ | _⟩ <;> cases p <;>
    first
    | rfl
    | exact map_hands
    | (dsimp only [hearBegin]; split; rfl; exact map_hands)

/-- They are the messages that are received. -/
theorem map_handed (sound : Sound c none lost) (client : c.audience = .client) :
    (c.handed l).map Prod.snd = c.received l .turn := by
  unfold handed received
  rcases first : c.ready with _ | ⟨_ | _ | _ | n | _, rest⟩
  case cons.call =>
    dsimp only
    split
    · next s here =>
      have listens : (roleBy c none (.call n)).errand = .listens := by
        simp [roleBy, role, standing, here, Call.standing, CallPhase.role, Role.begun, Job.errand]
      exact absurd client (sound.bounds.observes _ (.inl listens))
    · rfl
  case cons.listener k =>
    dsimp only
    split
    · exact map_handsTurn
    · rfl
  all_goals rfl

/-! ### Requests nobody waits for -/

/-- The id was used, and who still waits for the answer has been told something. -/
structure Forsaken (l id : Nat) (c : Client) (d : Option Doer) : Prop where
  used : id ≤ (c.link l).lastId
  told : ∀ t, (roleBy c d t).expects = some (l, id) → (c.told t).isSome

theorem invariant_forsaken : Invariant Always fun c d _ => Forsaken l id c d := by
  refine ⟨fun {hit c d c₁ d₁ lost} sound h act => ⟨Nat.le_trans h.used act.lastId_le, fun t waits => ?_⟩,
    fun {c d lost k i t} _ h _ _ _ => ⟨?_, fun t waits => ?_⟩,
    fun {c rest c₁ d lost} _ _ h begins => ⟨?_, fun t waits => ?_⟩⟩
  · obtain waits | ⟨x, k, method, params, -, -, e, -⟩ := act.expects sound.queue waits
    · have told := h.told t waits
      have apart : turnOf d ≠ some t := fun own => by
        rw [(sound.queue.apart t own).2.2.2] at told
        cases told
      obtain same | ⟨s, same, -⟩ | ⟨dead, -⟩ := act.stirs apart
      · rwa [Client.told, same]
      · rw [Client.told, same]
        rfl
      · rw [sound.queue.live told] at dead
        cases dead
    · cases e
      exact absurd h.used (Nat.not_succ_le_self _)
  · rw [lastId_forget]
    exact h.used
  · rw [roleBy_congr fun u => congrArg Standing.role standing_forget] at waits
    rw [Client.told, standing_forget]
    exact h.told t waits
  · rw [(begins.link_kept l).2]
    exact h.used
  · obtain ⟨own, waits⟩ := begins.expects waits
    rw [Client.told, begins.standing own]
    exact h.told t waits

/-- Nobody waits for the answer any more when the caller was cancelled. -/
theorem forsaken_cancel (sound : Sound c none lost)
    (here : c.calls[n]? = some ⟨.awaiting l id ss, s⟩) :
    Forsaken l id (c.step (.cancel n)) none := by
  obtain ⟨sound', -⟩ := invariant_true.step (i := .cancel n) trivial trivial sound trivial
  have lt : n < c.calls.length := (List.getElem?_eq_some_iff.mp here).1
  obtain ⟨s', after⟩ : ∃ s',
      (c.step (.cancel n)).calls[n]? = some ⟨.awaiting l id ss, some s'⟩ := by
    refine ⟨.cancelled, ?_⟩
    show (c.cancelCall n).calls[n]? = _
    unfold cancelCall
    rw [here]
    dsimp only
    have yields : Call.yields ⟨.awaiting l id ss, s⟩ = true := by cases s <;> rfl
    rw [if_pos yields]
    split <;> exact List.getElem?_set_self lt
  have claims : claim (c.step (.cancel n)) none (.call n) = some (l, id) := by
    simp [claim, role, standing, after, Call.standing, CallPhase.role]
  refine ⟨(sound'.requests.known _ l id claims).2, fun t waits => ?_⟩
  obtain rfl : t = .call n := sound'.requests.own t _ (l, id) waits claims
  simp [told, standing, after, Call.standing]

/-! ### Responses nobody waits for -/

/-- Whoever waits for this answer has been told something. -/
def IsForsaken (l id : Nat) (c : Client) : Prop :=
  ∀ t, (id, t) ∈ (c.link l).pending → (c.role t).expects.isSome ∧ (c.told t).isSome

theorem Forsaken.isForsaken (h : Forsaken l id c none) (r : Requests c none lost) :
    IsForsaken l id c := by
  intro t mem
  have waits : (c.role t).expects = some (l, id) := r.pending l id t mem
  exact ⟨by rw [waits]; rfl, h.told t waits⟩

namespace IsForsaken

theorem congr (h : IsForsaken l id c) (pending : (c₁.link l).pending ⊆ (c.link l).pending)
    (same : ∀ t, (c.role t).expects.isSome → (c.told t).isSome → c₁.standing t = c.standing t) :
    IsForsaken l id c₁ := by
  intro t mem
  obtain ⟨waits, told⟩ := h t (pending mem)
  rw [role, Client.told, same t waits told]
  exact ⟨waits, told⟩

theorem dispatch (h : IsForsaken l id c) : IsForsaken l id (c.dispatch l m).1 := by
  refine h.congr pending_dispatch fun t waits told => ?_
  refine standing_dispatch (isCaller_of_expects waits) fun ⟨_, heeds⟩ => ?_
  rw [(heeds_iff waits).mp heeds] at told
  cases told

/-- It stays so as long as the listener takes messages. -/
theorem hands (h : IsForsaken l id c) (handed : (b, m) ∈ hands l fuel reading c) :
    IsForsaken l id b := by
  induction fuel generalizing c reading with
  | zero => cases handed
  | succ fuel ih =>
    unfold Client.hands at handed
    split at handed
    · next k rest _ =>
      have set : IsForsaken l id (c.setOutput l rest) :=
        h.congr (by rw [pending_setOutput]; exact fun _ h => h) fun t waits _ =>
          standing_setOutput (isCaller_of_expects waits)
      obtain e | later := List.mem_cons.mp handed
      · cases e
        exact set
      · have after : IsForsaken l id ((c.setOutput l rest).dispatch l k).1 := set.dispatch
        generalize (c.setOutput l rest).dispatch l k = a at later after
        obtain ⟨a, _ | fault⟩ := a
        · dsimp only at later
          split at later
          · cases later
          · exact ih after later
        · cases later
    · cases handed

theorem handsTurn (h : IsForsaken l id c) (handed : (b, m) ∈ c.handsTurn l) :
    IsForsaken l id b := by
  have begun : IsForsaken l id (c.setListener l .running) :=
    h.congr (by rw [pending_setListener]; exact fun _ h => h) fun t waits _ =>
      standing_setListener (isCaller_of_expects waits)
  unfold Client.handsTurn at handed
  dsimp only at handed
  split at handed
  · cases handed
  · split at handed
    · cases handed
    · exact begun.hands handed
  · exact begun.hands handed

theorem handed (h : IsForsaken l id c) (handed : (b, m) ∈ c.handed l) : IsForsaken l id b := by
  unfold Client.handed at handed
  split at handed
  · split at handed
    · next k rest _ _ =>
      have popped : IsForsaken l id ({ c with ready := rest } : Client) :=
        h.congr (fun _ h => h) fun t waits _ => standing_caller (isCaller_of_expects waits) rfl rfl
      exact popped.handsTurn handed
    · cases handed
  · cases handed

/-- A response is sorted by the id that it names. -/
theorem id_of_ofJson {j : Json} {ms : Json.Members} (sorted : Incoming.ofJson m = .ok (.response j ms)) :
    j = member m "id" := by
  cases m with
  | obj ks =>
    simp only [Incoming.ofJson, Json.asObject] at sorted
    split at sorted
    · cases sorted
      rfl
    · split at sorted <;> cases sorted
  | _ => cases sorted

/-- Nothing comes of the response but that the request is struck off the list. -/
theorem dropped (h : IsForsaken l id c) (answers : (answerTo? id m).isSome) :
    c.dispatch l m = ((c.forget l id).dropResponse (member m "id"), none) := by
  obtain ⟨j, ms, sorted, hit⟩ : ∃ j ms, Incoming.ofJson m = .ok (.response j ms) ∧ isId j id := by
    unfold answerTo? at answers
    split at answers
    · next j ms sorted =>
      refine ⟨j, ms, sorted, ?_⟩
      by_contra miss
      rw [if_neg miss] at answers
      cases answers
    · cases answers
  obtain rfl := id_of_ofJson sorted
  obtain ⟨key, hashes⟩ := isKey_of_isId hit
  rw [Client.dispatch, sorted]
  dsimp only
  unfold handleResponse
  rw [hashes]
  dsimp only
  split
  · next none' =>
    have self : c.forget l id = c := by
      refine modifyLink_self ?_
      have all : (c.link l).pending.filter (·.1 != id) = (c.link l).pending := by
        refine List.filter_eq_self.mpr fun p mem => ?_
        have miss := List.find?_eq_none.mp none' p mem
        rw [bne_iff_ne]
        rintro rfl
        exact miss hit
      rw [all]
    rw [self]
  · next k t found =>
    have hit' : isId (member m "id") k :=
      List.find?_some (p := fun q : Nat × Task => isId (member m "id") q.1) found
    obtain rfl : k = id := isId_inj hit' hit
    obtain ⟨waits, told⟩ := h t (List.mem_of_find?_eq_some found)
    have waits' : ((c.forget l k).role t).expects.isSome := by
      rwa [role, standing_forget]
    have told' : (c.forget l k).isTold t := by
      rwa [isTold_eq waits', Client.told, standing_forget]
    rw [if_pos told']

end IsForsaken

/-- The response to a request whose caller was cancelled is dropped when it arrives. -/
theorem dropped_run (sound : Sound c none lost)
    (fits : ∀ i ∈ before ++ .cancel n :: after, i.Fits c)
    (here : (c.run before).calls[n]? = some ⟨.awaiting l id ss, s⟩)
    (handed : (b, m) ∈ (c.run (before ++ .cancel n :: after)).handed l)
    (answers : (answerTo? id m).isSome) :
    b.dispatch l m = ((b.forget l id).dropResponse (member m "id"), none) := by
  have fits₁ i (mem : i ∈ before) : i.Fits c := fits i (by simp [mem])
  obtain ⟨sound₁, -⟩ := invariant_true.run throughout_always fits₁ sound trivial
  have fits₂ i (mem : i ∈ after) : i.Fits ((c.run before).step (.cancel n)) := by
    have fits : i.Fits c := fits i (by simp [mem])
    exact fits.congr ((audience_step (i := .cancel n) sound₁.fit trivial).trans
      (audience_run sound fits₁))
  obtain ⟨sound₂, -⟩ := invariant_true.step (i := .cancel n) trivial trivial sound₁ trivial
  have forsaken : Forsaken l id ((c.run before).step (.cancel n)) none := forsaken_cancel sound₁ here
  obtain ⟨sound₃, h⟩ := invariant_forsaken.run throughout_always fits₂ sound₂ forsaken
  rw [run_append, run_cons] at handed
  exact ((h.isForsaken sound₃.requests).handed handed).dropped answers

end Dropping

variable {q : Nat → CallPhase → Bool} {W W' : Nat → Bool} {c x y : Client} {lost lost' : List Loss}
  {a l n id : Nat} {t : Task} {k : Call} {o : Outcome} {i : Input} {is js : List Input}

/-! ## What the others do -/

/-- Whatever the call is told, it asks for nothing more. -/
def CallPhase.isSpent : CallPhase → Bool
  | .joined _ [] => true
  | .awaiting _ _ [] => true
  | .done _ => true
  | _ => false

/-- The call waits for the attempt, or has ended. -/
def CallPhase.joins (a : Nat) : CallPhase → Bool
  | .joined b _ => a = b
  | .done _ => true
  | _ => false

/-- The call is in such a phase. -/
def isAside (q : Nat → CallPhase → Bool) (c : Client) (n : Nat) : Bool :=
  c.calls[n]?.any fun k => q n k.phase

/-- A call in such a phase is cancelled or has its turn. -/
def leavesOut (q : Nat → CallPhase → Bool) (c : Client) : Input → Bool
  | .cancel n => c.isAside q n
  | .turn =>
    match c.ready with
    | .call n :: _ => c.isAside q n
    | _ => false
  | _ => false

/-- The inputs of a run that concern no call in such a phase. -/
def others (q : Nat → CallPhase → Bool) (c : Client) : List Input → List Input
  | [] => []
  | i :: rest =>
    if c.leavesOut q i then (c.step i).others q rest else i :: (c.step i).others q rest

/-- The states and capabilities that a client goes through. -/
def course (c : Client) : List Input → List (State × Json)
  | [] => [(c.state, c.capabilities)]
  | i :: rest =>
    if (c.step i).state = c.state ∧ (c.step i).capabilities = c.capabilities then
      (c.step i).course rest
    else (c.state, c.capabilities) :: (c.step i).course rest

/-- What has happened between a client and its processes, newest first. -/
def dealings (c : Client) : List (Nat × Event) :=
  c.history.filterMap fun
    | .event spawn e => some (spawn, e)
    | _ => none

/-! ## A call that is left out -/

/-- A call that ends in its turn, and does no more there than to withdraw its request. -/
inductive Call.IsParked : Call → Prop
  | joined {a : Nat} {ss : List Send} {s : Option Signal}
    (ends : ss = [] ∨ ∀ o, s ≠ some (.answered o)) : Call.IsParked ⟨.joined a ss, s⟩
  | sent {l id : Nat} {s : Option Signal} : Call.IsParked ⟨.awaiting l id [], s⟩
  | done {o : Outcome} {s : Option Signal} : Call.IsParked ⟨.done o, s⟩

theorem without_finish (here : W n) : (c.finish n o).without W = c.without W := by
  rw [finish, emit_without, Output.isSeen, here]
  exact without_putCall here _

/-- Nothing is to be seen of the turn of a call that is left out. -/
theorem turn_parked {rest : List Task} (r : Requests c none lost) (first : c.ready = .call n :: rest)
    (here : c.calls[n]? = some k) (parked : k.IsParked) (out : W n) :
    SameBut W c.turn c ∧ ∃ o s, c.turn.calls[n]? = some ⟨.done o, s⟩ := by
  have lt : n < c.calls.length := (List.getElem?_eq_some_iff.mp here).1
  let b := ({ c with ready := rest } : Client).setCall n .running
  have begun : SameBut W b c := by
    have popped : ({ c with ready := rest } : Client).without W = c.without W := by
      have gone : c.ready.filter (fun t => !t.isOf W) = rest.filter fun t => !t.isOf W := by
        rw [first, List.filter_cons, if_neg (by simp [Task.isOf, out])]
      rw [without, without, gone]
    exact (without_putCall out _).trans popped
  have ends {b' : Client} (o : Outcome) (same : SameBut W b' c)
      (length : b'.calls.length = c.calls.length) :
      SameBut W (b'.finish n o) c ∧ ∃ o' s, (b'.finish n o).calls[n]? = some ⟨.done o', s⟩ :=
    ⟨(without_finish out).trans same, o, callOutcome_eq_some.mp (callOutcome_finish (length ▸ lt))⟩
  have length : b.calls.length = c.calls.length := List.length_set ..
  obtain ⟨p, s⟩ := k
  rw [turn_call first here]
  cases parked with
  | @joined a ss s quiet =>
    unfold resumeCall
    rcases s with _ | _ | ⟨j | e | _⟩ | _ | _
    · exact ends .cancelled begun length
    · exact ends .cancelled begun length
    · obtain rfl | untold := quiet
      · exact ends .done begun length
      · exact absurd rfl (untold _)
    · exact ends (.error e) begun length
    · exact ends .cancelled begun length
    · exact ends .cancelled begun length
    · exact ends .cancelled begun length
  | @sent l id s =>
    have forgot : SameBut W (b.forget l id) c := by
      refine (without_forget fun t mem => ?_).trans begun
      have waits : claim c none (.call n) = some (l, id) := by
        simp [claim, role, standing, here, Call.standing, CallPhase.role]
      rw [← r.own _ _ _ waits (r.pending l id t mem)]
      exact out
    unfold resumeCall
    rcases s with _ | _ | ⟨j | e | _⟩ | _ | _
    · exact ends .cancelled forgot length
    · exact ends .cancelled forgot length
    · exact ends (.value j) begun length
    · exact ends (.error e) begun length
    · exact ends .cancelled begun length
    · exact ends .cancelled forgot length
    · exact ends .cancelled forgot length
  | @done o s =>
    refine ⟨(without_putCall out _).trans begun, o, none, ?_⟩
    exact List.getElem?_set_self (length ▸ lt)

/-- Nothing is to be seen of it when a call that is left out is cancelled. -/
theorem cancel_parked (here : c.calls[n]? = some k) (parked : k.IsParked) (out : W n) :
    SameBut W (c.cancelCall n) c := by
  have told (p : CallPhase) : SameBut W (c.putCall n ⟨p, some .cancelled⟩) c := without_putCall out _
  have queued (p : CallPhase) : SameBut W ((c.putCall n ⟨p, some .cancelled⟩).push (.call n)) c :=
    (without_push (t := .call n) out).trans (told p)
  obtain ⟨p, s⟩ := k
  unfold cancelCall
  rw [here]
  cases parked <;> dsimp only <;> split <;>
    first | exact .refl c | (split; exact queued _; exact told _)

theorem isAside_eq : c.isAside q n = true ↔ ∃ k, c.calls[n]? = some k ∧ q n k.phase := by
  rw [isAside, Option.any_eq_true]

/-! ## Steps -/

/-- Two clients that differ in these calls only, all of which are left out. -/
structure Beside (q : Nat → CallPhase → Bool) (W : Nat → Bool) (x y : Client) : Prop where
  same : SameBut W x y
  left : ∀ n, W n → x.isAside q n
  right : ∀ n, W n → y.isAside q n

theorem Beside.symm (h : Beside q W x y) : Beside q W y x := ⟨h.same.symm, h.right, h.left⟩

/-- Of calls that are left out the ones that have ended are left out too. -/
def KeepsEnded (q : Nat → CallPhase → Bool) : Prop := ∀ n p o, q n p → q n (.done o)

/-- What is left out of a run is not to be seen. -/
theorem Beside.aside (h : Beside q W x y) (ends : KeepsEnded q) (sound : Sound x none lost)
    (fits : i.Fits x) (out : x.leavesOut q i)
    (parked : ∀ (n : Nat) k, x.calls[n]? = some k → q n k.phase → k.IsParked) :
    ∃ V, Beside q V (x.step i) y ∧ SameBut V (x.step i) x := by
  -- The call that is left out, and where it stands after that.
  obtain ⟨n, aside, later, same⟩ : ∃ n, x.isAside q n ∧ (x.step i).isAside q n ∧
      ∀ V : Nat → Bool, V n → SameBut V (x.step i) x := by
    unfold leavesOut at out
    split at out
    · next n =>
      obtain ⟨k, here, phase⟩ := isAside_eq.mp out
      obtain ⟨s, after⟩ := call_kept sound fits (fun turn => by cases turn.1) here
      exact ⟨n, out, isAside_eq.mpr ⟨_, after, phase⟩,
        fun V hides => cancel_parked here (parked n k here phase) hides⟩
    · split at out
      · next n rest first =>
        obtain ⟨k, here, phase⟩ := isAside_eq.mp out
        have turned (V : Nat → Bool) (hides : V n) :=
          turn_parked sound.requests first here (parked n k here phase) hides
        obtain ⟨o, s, after⟩ := (turned (fun _ => true) rfl).2
        exact ⟨n, out, isAside_eq.mpr ⟨_, after, ends n _ o phase⟩, fun V hides => (turned V hides).1⟩
      · cases out
    · cases out
  have stays m (there : x.isAside q m) (other : m ≠ n) : (x.step i).isAside q m := by
    obtain ⟨k, here, phase⟩ := isAside_eq.mp there
    by_cases own : x.IsTurn m i
    · obtain ⟨rfl, head⟩ := own
      obtain ⟨rest, first⟩ := List.head?_eq_some_iff.mp head
      obtain ⟨o, s, after⟩ := (turn_parked (W := fun _ => true) sound.requests first here
        (parked m k here phase) rfl).2
      exact isAside_eq.mpr ⟨_, after, ends m _ o phase⟩
    · obtain ⟨s, after⟩ := call_kept sound fits own here
      exact isAside_eq.mpr ⟨_, after, phase⟩
  refine ⟨fun m => W m || m == n, ⟨?_, fun m hides => ?_, fun m hides => ?_⟩, same _ (by simp)⟩
  · exact (same _ (by simp)).trans (h.same.mono fun m hides => by simp [hides])
  · by_cases e : m = n
    · exact e ▸ later
    · exact stays m (h.left m (by simpa [e] using hides)) e
  · by_cases hides' : W m
    · exact h.right m hides'
    · obtain rfl : m = n := by simpa [hides'] using hides
      rwa [isAside, ← h.same.call (Bool.eq_false_iff.mpr hides')]

theorem SameBut.onLastLink (h : SameBut W x y) {f : Client → Nat → Client}
    (rest : ∀ {c l}, f (c.without W) l = (f c l).without W) :
    SameBut W (x.onLastLink f) (y.onLastLink f) := by
  have length := h.links_length
  unfold Client.onLastLink
  cases hx : x.links with
  | nil =>
    obtain hy : y.links = [] := List.eq_nil_of_length_eq_zero (by rw [← length, hx]; rfl)
    rw [hy]
    exact h
  | cons k ks =>
    cases hy : y.links with
    | nil => rw [hx, hy] at length; cases length
    | cons k' ks' =>
      obtain e : ks.length = ks'.length := by rw [hx, hy] at length; exact Nat.succ.inj length
      dsimp only
      rw [← e]
      exact h.keep (f · ks.length) rest

/-- The queue without the calls that are left out begins with who is next. -/
theorem Beside.ready (h : Beside q W x y) (left : x.leavesOut q .turn = false)
    (right : y.leavesOut q .turn = false) :
    x.ready = [] ∧ y.ready = [] ∨ ∃ t xs ys, x.ready = t :: xs ∧ y.ready = t :: ys ∧
      t.isOf W = false ∧ SameBut W { x with ready := xs } { y with ready := ys } := by
  have seen {c : Client} (out : c.leavesOut q .turn = false) (aside : ∀ n, W n → c.isAside q n)
      {t : Task} {ts : List Task} (first : c.ready = t :: ts) : t.isOf W = false := by
    cases t with
    | call n =>
      simp only [leavesOut, first] at out
      exact Bool.eq_false_iff.mpr fun hides => by simp [aside n hides] at out
    | _ => rfl
  have same : (x.ready.filter fun t => !t.isOf W) = y.ready.filter fun t => !t.isOf W :=
    (congrArg Client.ready h.same.eq :)
  cases hx : x.ready with
  | nil =>
    cases hy : y.ready with
    | nil => exact .inl ⟨rfl, rfl⟩
    | cons u ys => simp [hx, hy, seen right h.right hy] at same
  | cons t xs =>
    have out := seen left h.left hx
    cases hy : y.ready with
    | nil => simp [hx, hy, out] at same
    | cons u ys =>
      rw [hx, hy, List.filter_cons, List.filter_cons, out, seen right h.right hy] at same
      obtain ⟨rfl, rest⟩ := List.cons.inj same
      refine .inr ⟨t, xs, ys, rfl, rfl, out, ?_⟩
      have left := congrArg (fun c : Client => { c with ready := xs.filter fun t => !t.isOf W })
        h.same.eq
      exact left.trans (congrArg (fun ts => { y.without W with ready := ts }) rest)

/-- Both do the same in the turn of somebody who is not left out. -/
theorem Beside.turn (h : Beside q W x y) (left : x.leavesOut q .turn = false)
    (right : y.leavesOut q .turn = false) (sound : Sound x none lost) (sound' : Sound y none lost')
    (client : x.audience = .client)
    (regular : ∀ l < x.links.length, ∀ m ∈ x.received l .turn, isRegular m) :
    SameBut W x.turn y.turn := by
  obtain ⟨hx, hy⟩ | ⟨t, xs, ys, hx, hy, out, same⟩ := h.ready left right
  · rw [Client.turn, hx, Client.turn, hy]
    exact h.same
  · rw [Client.turn, hx, Client.turn, hy]
    cases t with
    | listener l =>
      have here : l < x.links.length := by
        obtain ⟨⟨⟩⟩ | ⟨live, -⟩ := sound.queue.canGo (.listener l) (by simp [hx])
        exact has_of_live live
      refine same.runListener (sound.requests.once l) (sound'.requests.once l) fun m mem => ?_
      refine regular l here m ?_
      simp only [received, hx, if_true]
      exact mem
    | drain l => exact same.runDrain
    | attempt n => exact same.runAttempt
    | call n =>
      refine same.runCall out fun k here e => ?_
      have listens : (roleBy x none (.call n)).errand = .listens := by
        have here : x.calls[n]? = some k := here
        simp [roleBy, role, standing, here, Call.standing, e, CallPhase.role, Role.begun, Job.errand]
      exact sound.bounds.observes _ (.inl listens) client
    | relay a => exact same.keep (·.runRelay a) runRelay_without

/-- What is not left out does the same to both. -/
theorem Beside.step (h : Beside q W x y) (left : x.leavesOut q i = false)
    (right : y.leavesOut q i = false) (sound : Sound x none lost) (sound' : Sound y none lost')
    (client : x.audience = .client) (fits : i.Fits x) (fits' : i.Fits y)
    (regular : ∀ l < x.links.length, ∀ m ∈ x.received l i, isRegular m) :
    Beside q W (x.step i) (y.step i) := by
  have stays {c : Client} {lost : List Loss} (sound : Sound c none lost) (fits : i.Fits c)
      (out : c.leavesOut q i = false) (aside : ∀ n, W n → c.isAside q n) n (hides : W n) :
      (c.step i).isAside q n := by
    obtain ⟨k, here, phase⟩ := isAside_eq.mp (aside n hides)
    have apart : ¬ c.IsTurn n i := by
      rintro ⟨rfl, head⟩
      obtain ⟨rest, first⟩ := List.head?_eq_some_iff.mp head
      simp [leavesOut, first, aside n hides] at out
    obtain ⟨s, after⟩ := call_kept sound fits apart here
    exact isAside_eq.mpr ⟨_, after, phase⟩
  refine ⟨?_, stays sound fits left h.left, stays sound' fits' right h.right⟩
  have same := h.same
  cases i with
  | turn => exact h.turn left right sound sound' client regular
  | call job =>
    have out {c : Client} (aside : ∀ n, W n → c.isAside q n) : W c.calls.length = false := by
      refine Bool.eq_false_iff.mpr fun hides => ?_
      obtain ⟨k, here, -⟩ := isAside_eq.mp (aside _ hides)
      exact absurd (List.getElem?_eq_some_iff.mp here).1 (Nat.lt_irrefl _)
    rw [SameBut, Client.step, Client.step, ← addCall_without (out h.left), same.eq,
      addCall_without (out h.right)]
  | cancel n =>
    have out : W n = false := Bool.eq_false_iff.mpr fun hides => by
      simp [leavesOut, h.left n hides] at left
    exact same.keep (·.cancelCall n) (cancelCall_without out)
  | output bytes => exact same.onLastLink (feed_without bytes)
  | errors bytes => exact same.onLastLink (feedErrors_without bytes)
  | outputEnd => exact same.onLastLink endOutput_without
  | exit code => exact same.onLastLink (exit_without code)
  | inputFault fault => exact same.onLastLink modifyProcess_without
  | expectEnd => exact absurd client fits
  | time moment due => exact same.keep (·.passTo moment due) passTo_without

/-! ## Runs -/

/-- All the messages that are taken are of the right shape. -/
def HearsRegular (c : Client) : List Input → Prop
  | [] => True
  | i :: rest =>
    (∀ l < c.links.length, ∀ m ∈ c.received l i, isRegular m) ∧ (c.step i).HearsRegular rest

instance decidableHearsRegular : (is : List Input) → (c : Client) → Decidable (c.HearsRegular is)
  | [], _ => isTrue trivial
  | i :: rest, c =>
    have := decidableHearsRegular rest (c.step i)
    inferInstanceAs (Decidable ((∀ l < c.links.length, ∀ m ∈ c.received l i, isRegular m) ∧
      (c.step i).HearsRegular rest))

/-- Two runs in which the others do the same, input by input: one of them goes on with something
that is left out, or both go on with the same. -/
theorem others_induction {P : Client → List Input → Client → List Input → Prop}
    (left : ∀ {x i is y js}, P x (i :: is) y js → x.leavesOut q i → P (x.step i) is y js)
    (right : ∀ {x is y j js}, P x is y (j :: js) → y.leavesOut q j → P x is (y.step j) js)
    (both : ∀ {x y i is js}, P x (i :: is) y (i :: js) → x.leavesOut q i = false →
      y.leavesOut q i = false → P (x.step i) is (y.step i) js)
    (h : P x is y js) (same : x.others q is = y.others q js) : P (x.run is) [] (y.run js) [] := by
  induction is generalizing x y js with
  | nil =>
    induction js generalizing y with
    | nil => exact h
    | cons j js ih =>
      by_cases out : y.leavesOut q j
      · exact (ih (right h out) (same.trans (if_pos out)) :)
      · cases same.trans (if_neg out)
  | cons i is ih =>
    by_cases out : x.leavesOut q i
    · exact ih (left h out) ((if_pos out).symm.trans same)
    · replace same := (if_neg out).symm.trans same
      induction js generalizing y with
      | nil => cases same
      | cons j js ihj =>
        by_cases out' : y.leavesOut q j
        · exact (ihj (right h out') (same.trans (if_pos out')) :)
        · obtain ⟨rfl, rest⟩ := List.cons.inj (same.trans (if_neg out'))
          exact (ih (both h (Bool.eq_false_iff.mpr out) (Bool.eq_false_iff.mpr out')) rest :)

/-- A client, and what is still to come. -/
structure Ahead (c : Client) (is : List Input) : Prop where
  sound : ∃ lost, Sound c none lost
  sharing : Sharing c none
  joining : Joining none c
  client : c.audience = .client
  fits : ∀ i ∈ is, i.Fits c

theorem Ahead.step (h : Ahead c (i :: is)) : Ahead (c.step i) is := by
  obtain ⟨lost, sound⟩ := h.sound
  obtain ⟨here, later⟩ := Input.Fits.step h.fits sound
  obtain ⟨sound', sharing'⟩ := invariant_sharing.step trivial here sound h.sharing
  exact ⟨⟨_, sound'⟩, sharing', h.joining.step h.sharing sound here,
    (audience_step sound.fit here).trans h.client, later⟩

theorem course_aside (same : SameBut W (c.step i) c) : c.course (i :: is) = (c.step i).course is := by
  have capabilities : (c.step i).capabilities = c.capabilities :=
    (congrArg Client.capabilities same.eq :)
  rw [course, if_pos ⟨same.state, capabilities⟩]

theorem course_step (before : SameBut W x y) (after : SameBut W' (x.step i) (y.step i))
    (rest : (x.step i).course is = (y.step i).course js) :
    x.course (i :: is) = y.course (i :: js) := by
  have capabilities {a b : Client} {W : Nat → Bool} (h : SameBut W a b) :
      a.capabilities = b.capabilities := (congrArg Client.capabilities h.eq :)
  rw [course, course, before.state, capabilities before, after.state, capabilities after, rest]

theorem dealings_without : (c.without W).dealings = c.dealings := by
  rw [dealings, without_history, List.filterMap_filter, dealings]
  refine congrArg (List.filterMap · c.history) (funext fun o => ?_)
  cases o <;> simp [Output.isSeen]

/-- The calls that are left out of a run are among these, in a phase in which all they have still
to do is to end. -/
def spent (V : Nat → Bool) (n : Nat) (p : CallPhase) : Bool := V n && p.isSpent

/-- The calls that are left out of a run are among these, and wait for the attempt. -/
def waiters (V : Nat → Bool) (a n : Nat) (p : CallPhase) : Bool := V n && p.joins a

theorem isParked_of_isSpent (spent : k.phase.isSpent) : k.IsParked := by
  obtain ⟨p, s⟩ := k
  cases p with
  | joined a ss =>
    cases ss with
    | nil => exact .joined (.inl rfl)
    | cons => cases spent
  | awaiting l id ss =>
    cases ss with
    | nil => exact .sent
    | cons => cases spent
  | done o => exact .done
  | _ => cases spent

theorem keepsEnded_spent {V : Nat → Bool} : KeepsEnded (spent V) := by
  intro n p o h
  simp only [spent, Bool.and_eq_true] at h ⊢
  exact ⟨h.1, rfl⟩

theorem keepsEnded_waiters {V : Nat → Bool} : KeepsEnded (waiters V a) := by
  intro n p o h
  simp only [waiters, Bool.and_eq_true] at h ⊢
  exact ⟨h.1, rfl⟩

theorem beside_refl : Beside q (fun _ => false) c c := by
  refine ⟨.refl c, ?_, ?_⟩ <;> (intro n h; cases h)

/-- What two runs show is the same for all but these callers. -/
structure AlikeBut (V : Nat → Bool) (x : Client) (is : List Input) (y : Client) (js : List Input) :
    Prop where
  outcomes : ∀ n, V n = false → (x.run is).callOutcome? n = (y.run js).callOutcome? n
  attempts : ∀ a, (x.run is).attemptOutcome? a = (y.run js).attemptOutcome? a
  /-- The client goes through the same states and capabilities. -/
  course : x.course is = y.course js
  /-- Its processes receive the same messages and signals. -/
  dealings : (x.run is).dealings = (y.run js).dealings

namespace AlikeBut

variable {V : Nat → Bool}

theorem symm (h : AlikeBut V x is y js) : AlikeBut V y js x is :=
  ⟨fun n other => (h.outcomes n other).symm, fun a => (h.attempts a).symm, h.course.symm,
    h.dealings.symm⟩

theorem nil (beside : Beside q W x y) (among : ∀ n p, q n p → V n) : AlikeBut V x [] y [] := by
  refine ⟨fun n other => ?_, fun a => beside.same.attemptOutcome, ?_, ?_⟩
  · have out : W n = false := Bool.eq_false_iff.mpr fun hides => by
      obtain ⟨k, -, phase⟩ := isAside_eq.mp (beside.left n hides)
      rw [among n k.phase phase] at other
      cases other
    show x.callOutcome? n = y.callOutcome? n
    rw [callOutcome?, beside.same.call out, callOutcome?]
  · have capabilities : x.capabilities = y.capabilities :=
      (congrArg Client.capabilities beside.same.eq :)
    rw [Client.course, Client.course, beside.same.state, capabilities]
  · show x.dealings = y.dealings
    rw [← dealings_without, beside.same.eq, dealings_without]

theorem aside (h : AlikeBut V (x.step i) is y js) (same : SameBut W (x.step i) x) :
    AlikeBut V x (i :: is) y js :=
  ⟨h.outcomes, h.attempts, (course_aside same).trans h.course, h.dealings⟩

theorem step (h : AlikeBut V (x.step i) is (y.step i) js) (before : SameBut W x y)
    (after : SameBut W' (x.step i) (y.step i)) : AlikeBut V x (i :: is) y (i :: js) :=
  ⟨h.outcomes, h.attempts, course_step before after h.course, h.dealings⟩

end AlikeBut

/-- The inputs of a run up to the first state in which it is to stop. -/
def upTo (stops : Client → Bool) (c : Client) : List Input → List Input
  | [] => []
  | i :: rest => if stops c then [] else i :: (c.step i).upTo stops rest

section Until

variable {stops : Client → Bool}

theorem upTo_cons (goes : stops c = false) :
    c.upTo stops (i :: is) = i :: (c.step i).upTo stops is := by
  rw [upTo, if_neg (Bool.eq_false_iff.mp goes)]

theorem upTo_stops (h : stops c) : c.upTo stops is = [] := by
  cases is with
  | nil => rfl
  | cons i is => exact if_pos h

theorem upTo_never : c.upTo (fun _ => false) is = is := by
  induction is generalizing c with
  | nil => rfl
  | cons i is ih => rw [upTo_cons rfl, ih]

/-- Two runs in which the others do the same are alike as long as nothing comes of those who are
left out. -/
theorem alike_run {V : Nat → Bool} (ahead : Ahead c is) (ahead' : Ahead c js)
    (regular : c.HearsRegular is) (ends : KeepsEnded q) (among : ∀ n p, q n p → V n)
    (seen : ∀ {W x y}, SameBut W x y → stops x = stops y)
    (parked : ∀ {b bs}, Ahead b bs → stops b = false → ∀ n k, b.calls[n]? = some k →
      q n k.phase → k.IsParked)
    (same : c.others q is = c.others q js) :
    AlikeBut V c (c.upTo stops is) c (c.upTo stops js) := by
  -- What is still to come decides, unless the runs have stopped.
  let Goal := AlikeBut V c (c.upTo stops is) c (c.upTo stops js)
  let Goes x xs y ys := stops x = false ∧ (∃ W, Beside q W x y) ∧
    (AlikeBut V x (x.upTo stops xs) y (y.upTo stops ys) → Goal)
  let P x xs y ys := Ahead x xs ∧ Ahead y ys ∧ x.HearsRegular xs ∧ (Goes x xs y ys ∨ Goal)
  have either {x y : Client} {xs ys : List Input} {W : Nat → Bool} (beside : Beside q W x y)
      (decides : AlikeBut V x (x.upTo stops xs) y (y.upTo stops ys) → Goal) :
      Goes x xs y ys ∨ Goal := by
    cases halt : stops x with
    | false => exact .inl ⟨halt, ⟨W, beside⟩, decides⟩
    | true =>
      refine .inr (decides ?_)
      rw [upTo_stops halt, upTo_stops ((seen beside.same).symm.trans halt)]
      exact .nil beside among
  have last : P (c.run is) [] (c.run js) [] := by
    refine others_induction (P := P) ?_ ?_ ?_
      ⟨ahead, ahead', regular, either beside_refl fun h => h⟩ same
    · rintro x i xs y ys ⟨left, right, regular, ⟨goes, ⟨W, beside⟩, decides⟩ | done⟩ out
      · obtain ⟨lost, sound⟩ := left.sound
        obtain ⟨W', beside', still⟩ :=
          beside.aside ends sound (left.fits i List.mem_cons_self) out (parked left goes)
        refine ⟨left.step, right, regular.2, either beside' fun alike => decides ?_⟩
        rw [upTo_cons goes]
        exact alike.aside still
      · exact ⟨left.step, right, regular.2, .inr done⟩
    · rintro x xs y j ys ⟨left, right, regular, ⟨goes, ⟨W, beside⟩, decides⟩ | done⟩ out
      · obtain ⟨lost, sound⟩ := right.sound
        have goes' : stops y = false := (seen beside.same).symm.trans goes
        obtain ⟨W', beside', still⟩ :=
          beside.symm.aside ends sound (right.fits j List.mem_cons_self) out (parked right goes')
        refine ⟨left, right.step, regular, either beside'.symm fun alike => decides ?_⟩
        rw [upTo_cons goes']
        exact (alike.symm.aside still).symm
      · exact ⟨left, right.step, regular, .inr done⟩
    · rintro x y i xs ys ⟨left, right, regular, ⟨goes, ⟨W, beside⟩, decides⟩ | done⟩ out out'
      · obtain ⟨lost, sound⟩ := left.sound
        obtain ⟨lost', sound'⟩ := right.sound
        have goes' : stops y = false := (seen beside.same).symm.trans goes
        have beside' := beside.step out out' sound sound' left.client
          (left.fits i List.mem_cons_self) (right.fits i List.mem_cons_self) regular.1
        refine ⟨left.step, right.step, regular.2, either beside' fun alike => decides ?_⟩
        rw [upTo_cons goes, upTo_cons goes']
        exact alike.step beside.same beside'.same
      · exact ⟨left.step, right.step, regular.2, .inr done⟩
  obtain ⟨-, -, -, ⟨-, ⟨W, beside⟩, decides⟩ | done⟩ := last
  · exact decides (.nil beside among)
  · exact done

end Until

/-- It does no harm to the others when callers are cancelled that wait for the start with nothing
to send, or for the answer to the last thing that they have sent. -/
theorem alike_spent {V : Nat → Bool} (ahead : Ahead c is) (ahead' : Ahead c js)
    (regular : c.HearsRegular is) (same : c.others (spent V) is = c.others (spent V) js) :
    AlikeBut V c is c js := by
  have alike : AlikeBut V c (c.upTo (fun _ => false) is) c (c.upTo (fun _ => false) js) :=
    alike_run ahead ahead' regular keepsEnded_spent
      (fun n p h => by simp only [spent, Bool.and_eq_true] at h; exact h.1) (fun _ => rfl)
      (fun _ _ n k _ h => by
        simp only [spent, Bool.and_eq_true] at h
        exact isParked_of_isSpent h.2) same
  rwa [upTo_never, upTo_never] at alike

/-- The attempt has come to its end. -/
def hasEnded (a : Nat) (c : Client) : Bool := (c.attemptOutcome? a).isSome

/-- As long as an attempt goes on, none of those who wait for it is told anything but that it is
cancelled. -/
theorem isParked_of_joins (h : Ahead c is) (goes : hasEnded a c = false)
    (here : c.calls[n]? = some k) (joins : k.phase.joins a) : k.IsParked := by
  obtain ⟨p, s⟩ := k
  cases p with
  | joined a' ss =>
    obtain rfl : a = a' := by simpa [CallPhase.joins] using joins
    refine .joined (.inr fun o e => ?_)
    subst e
    obtain cancelled | ⟨o', -, ended⟩ := h.joining.told n a ss _ here
    · cases cancelled
    · rw [hasEnded, ended] at goes
      cases goes
  | done o => exact .done
  | _ => cases joins

/-- The end of an attempt is settled with the first state in which it has one. -/
theorem attemptOutcome_upTo (h : Ahead c is) :
    (c.run is).attemptOutcome? a = (c.run (c.upTo (hasEnded a) is)).attemptOutcome? a := by
  induction is generalizing c with
  | nil => rfl
  | cons i is ih =>
    cases ended : hasEnded a c with
    | false =>
      rw [upTo_cons ended]
      exact ih h.step
    | true =>
      obtain ⟨o, outcome⟩ := Option.isSome_iff_exists.mp ended
      obtain ⟨lost, sound⟩ := h.sound
      rw [upTo_stops ended]
      exact (invariant_outcome.run throughout_always h.fits sound
        ⟨h.sharing, outcome⟩).2.2.trans outcome.symm

/-- An attempt goes on to the same end when callers that wait for it are cancelled, whatever they
have to send afterwards. -/
theorem alike_waiters {V : Nat → Bool} (ahead : Ahead c is) (ahead' : Ahead c js)
    (regular : c.HearsRegular is) (same : c.others (waiters V a) is = c.others (waiters V a) js) :
    AlikeBut V c (c.upTo (hasEnded a) is) c (c.upTo (hasEnded a) js) :=
  alike_run ahead ahead' regular keepsEnded_waiters
    (fun n p h => by simp only [waiters, Bool.and_eq_true] at h; exact h.1)
    (fun same => by rw [hasEnded, same.attemptOutcome, hasEnded])
    (fun ahead goes n k here h => by
      simp only [waiters, Bool.and_eq_true] at h
      exact isParked_of_joins ahead goes here h.2) same

section Run

variable {config : ServerConfig} {workspace : String} {policies : List Policy}

/-- What it means to the others that callers are cancelled in one of two runs. -/
structure SparesOthers (first : Client) (is js : List Input) : Prop where
  /-- If those callers have nothing more to ask for, the runs are alike for all others. -/
  alike : ∀ V : Nat → Bool, first.others (spent V) is = first.others (spent V) js →
    AlikeBut V first is first js
  /-- The response to a request whose caller was cancelled does no more than that it is dropped. -/
  drops : ∀ before n after later l id s b m, js = before ++ .cancel n :: after ++ later →
    (first.run before).calls[n]? = some ⟨.awaiting l id [], s⟩ →
    (b, m) ∈ (first.run (before ++ .cancel n :: after)).handed l → (answerTo? id m).isSome →
    b.dispatch l m = ((b.forget l id).dropResponse (member m "id"), none)
  /-- If they wait for an attempt, whatever they have to send, the runs are alike until it has
  ended, and it ends alike. -/
  goesOn : ∀ (V : Nat → Bool) a, first.others (waiters V a) is = first.others (waiters V a) js →
    AlikeBut V first (first.upTo (hasEnded a) is) first (first.upTo (hasEnded a) js) ∧
      (first.run is).attemptOutcome? a = (first.run js).attemptOutcome? a

/-- Cancelling one caller never harms another. -/
theorem others_spared (fits : ∀ i ∈ is, i.Fits (ofConfig config workspace policies))
    (fits' : ∀ j ∈ js, j.Fits (ofConfig config workspace policies))
    (regular : (ofConfig config workspace policies).HearsRegular is) :
    SparesOthers (ofConfig config workspace policies) is js := by
  have ahead {xs : List Input} (fits : ∀ i ∈ xs, i.Fits (ofConfig config workspace policies)) :
      Ahead (ofConfig config workspace policies) xs :=
    ⟨⟨[], sound_ofConfig⟩, serving_ofConfig.1, joining_ofConfig, rfl, fits⟩
  refine ⟨fun V same => alike_spent (ahead fits) (ahead fits') regular same, ?_, fun V a same => ?_⟩
  · rintro before n after later l id s b m rfl here handed answers
    exact dropped_run sound_ofConfig (fun j mem => fits' j (List.mem_append_left _ mem)) here handed
      answers
  · have alike := alike_waiters (ahead fits) (ahead fits') regular same
    refine ⟨alike, ?_⟩
    rw [attemptOutcome_upTo (ahead fits), alike.attempts a, attemptOutcome_upTo (ahead fits')]

end Run

/-- Two callers start the server and two send a request, which are answered in turn. -/
def attending : List Input :=
  [.call .start, .call .start, .turn, .turn, .turn, .turn, .turn,
    .output (Wire.encode (.obj [("id", .int 1), ("result", .null)])), .turn, .turn, .turn, .turn, .turn,
    .call (.sends [.request "a" .null]), .call (.sends [.request "b" .null]), .turn, .turn,
    .output (Wire.encodeAll [.obj [("id", .int 2), ("result", .int 2)],
      .obj [("id", .int 3), ("result", .int 3)]]), .turn, .turn, .turn]

/-- The same, but the first who starts the server and the first who sends a request are cancelled
while they wait. -/
def deserting : List Input :=
  [.call .start, .call .start, .turn, .turn, .turn, .turn, .turn, .cancel 0, .turn,
    .output (Wire.encode (.obj [("id", .int 1), ("result", .null)])), .turn, .turn, .turn, .turn,
    .call (.sends [.request "a" .null]), .call (.sends [.request "b" .null]), .turn, .turn,
    .cancel 2, .turn,
    .output (Wire.encodeAll [.obj [("id", .int 2), ("result", .int 2)],
      .obj [("id", .int 3), ("result", .int 3)]]), .turn, .turn]

theorem others_spared_deserting :
    (∀ i ∈ attending, i.Fits plainClient) ∧ (∀ j ∈ deserting, j.Fits plainClient) ∧
    plainClient.HearsRegular attending ∧ SparesOthers plainClient attending deserting ∧
    AlikeBut (fun n => n = 0 ∨ n = 2) plainClient attending plainClient deserting ∧
    (plainClient.run attending).attemptOutcome? 0 = (plainClient.run deserting).attemptOutcome? 0 ∧
    (plainClient.run attending).callOutcome? 2 = some (.value (.int 2)) ∧
    (plainClient.run deserting).callOutcome? 2 = some .cancelled ∧
    (plainClient.run deserting).callOutcome? 3 = some (.value (.int 3)) := by
  have fits : ∀ i ∈ attending, i.Fits plainClient := by decide +kernel
  have fits' : ∀ j ∈ deserting, j.Fits plainClient := by decide +kernel
  have regular : plainClient.HearsRegular attending := by decide +kernel
  have spares : SparesOthers plainClient attending deserting := others_spared fits fits' regular
  have same : plainClient.others (spent fun n => n = 0 ∨ n = 2) attending =
      plainClient.others (spent fun n => n = 0 ∨ n = 2) deserting := by decide +kernel
  exact ⟨fits, fits', regular, spares, spares.alike _ same, (spares.alike _ same).attempts 0,
    by decide +kernel, by decide +kernel, by decide +kernel⟩

end LspGateway.Client
