import LspGateway.Proofs.Client.Resigning

/-! # How a connection is closed

A call that closes a connection gives up what is pending and closes standard input. It tells a
process to terminate that is still there after its time to leave, and kills one that was still
there two seconds after that.
-/

namespace LspGateway.Client

variable {c c₁ : Client} {d : Option Doer} {lost : List Loss} {m n : Nat} {t u : Teardown}
  {s : Signal} {o : Outcome} {i : Input} {p : CallPhase} {told : Option Signal}
  {first : Client} {inputs : List Input} {stage : Stage} {blows : List Event}
  {r : Client × Progress}

/-- A call has begun in a turn of its own to wait as it does. -/
def Began (first : Client) (inputs : List Input) (n : Nat) (stage : Stage) : Prop :=
  ∃ before after blows, inputs = before ++ .turn :: after ∧
    (first.run before).ready.head? = some (.call n) ∧
    (first.run (before ++ [.turn])).blows = (first.run before).blows ++ blows ∧
    stage.BeginsAt (first.run before).now blows ∧
    (stage.awaitsExit → (first.run (before ++ [.turn])).isAlive 0)

/-- A call has waited for a process that was still there when its time was up. -/
def Outwaits (first : Client) (inputs : List Input) (n : Nat) (stage : Stage) : Prop :=
  ∃ before moment due after d, inputs = before ++ .time moment due :: after ∧
    stage.deadline? = some d ∧ d ≤ due ∧
    (first.run before).calls[n]? = some ⟨.closing ⟨0, none, stage⟩, none⟩ ∧
    (first.run before).isAlive 0

/-- A call has come to its outcome in a turn of its own. -/
def Concluded (first : Client) (inputs : List Input) (n : Nat) (o : Outcome) : Prop :=
  ∃ before after blows, inputs = before ++ .turn :: after ∧
    (first.run before).ready.head? = some (.call n) ∧
    (first.run (before ++ [.turn])).blows = (first.run before).blows ++ blows ∧
    Concludes (first.run (before ++ [.turn])) 0 blows o

theorem Concluded.later (h : Concluded first inputs n o) : Concluded first (inputs ++ [i]) n o := by
  obtain ⟨before, after, blows, rfl, rest⟩ := h
  exact ⟨before, after ++ [i], blows, List.append_assoc .., rest⟩

theorem Began.later (h : Began first inputs n stage) : Began first (inputs ++ [i]) n stage := by
  obtain ⟨before, after, blows, rfl, rest⟩ := h
  exact ⟨before, after ++ [i], blows, List.append_assoc .., rest⟩

theorem Outwaits.later (h : Outwaits first inputs n stage) :
    Outwaits first (inputs ++ [i]) n stage := by
  obtain ⟨before, moment, due, after, d, rfl, rest⟩ := h
  exact ⟨before, moment, due, after ++ [i], d, List.append_assoc .., rest⟩

/-- A call that closes a connection has not only waited for the listener, nor failed for it. -/
inductive Past (c : Client) (n : Nat) : Prop
  | waits {t : Teardown} {s : Option Signal} (here : c.calls[n]? = some ⟨.closing t, s⟩)
    (stage : t.stage ≠ .listener)
  | done {o : Outcome} (ended : c.callOutcome? n = some o)
    (whole : ∀ fault, o ≠ .error (.misuse fault))

/-- How far a call has come that closes a connection. -/
structure WindsUp (first : Client) (inputs : List Input) (n : Nat) : Prop where
  stands : (∃ s, (first.run inputs).calls[n]? = some ⟨.fresh .close, s⟩) ∨
    (∃ t s, (first.run inputs).calls[n]? = some ⟨.closing t, s⟩) ∨
    ∃ o, (first.run inputs).callOutcome? n = some o
  goes : (first.run inputs).told (.call n) ≠ some .cancelled
  ended : ∀ o, (first.run inputs).callOutcome? n = some o →
    o ≠ .cancelled ∧ Concluded first inputs n o
  began : ∀ (t : Teardown) s, (first.run inputs).calls[n]? = some ⟨.closing t, s⟩ →
    Began first inputs n t.stage
  late : ∀ t : Teardown, (first.run inputs).calls[n]? = some ⟨.closing t, some .timedOut⟩ →
    t.stage.awaitsExit → Outwaits first inputs n t.stage
  shut : Past (first.run inputs) n → IsShut (first.run inputs) 0

namespace WindsUp

/-- The call has not had its turn. -/
theorem keep (h : WindsUp first inputs n) (sound : Sound (first.run inputs) none lost)
    (mere : Mere (first.run inputs) none) (steady : Steady (first.run inputs))
    (fits : i.Fits (first.run inputs)) (spares : i ≠ .cancel n)
    (here : n < (first.run inputs).calls.length) (apart : ¬ (first.run inputs).IsTurn n i) :
    WindsUp first (inputs ++ [i]) n := by
  have next : first.run (inputs ++ [i]) = (first.run inputs).step i := run_append
  have safe : ¬ i.hits (first.run inputs) n := by
    cases i with
    | cancel m => exact fun struck => spares (congrArg Input.cancel struck.1.symm)
    | call job => exact fun struck => absurd here (struck ▸ Nat.lt_irrefl _)
    | _ => exact fun struck => struck
  have stood {q : Call} (after : ((first.run inputs).step i).calls[n]? = some q) :
      ∃ s, (first.run inputs).calls[n]? = some ⟨q.phase, s⟩ := by
    obtain before | ⟨job, -, rfl, -⟩ := call_phase_before sound fits apart after
    · exact before
    · exact absurd here (Nat.lt_irrefl _)
  have ended {o : Outcome} (after : ((first.run inputs).step i).callOutcome? n = some o) :
      (first.run inputs).callOutcome? n = some o := by
    obtain ⟨s, after⟩ := callOutcome_eq_some.mp after
    exact callOutcome_eq_some.mpr (stood after)
  refine ⟨?_, ?_, fun o done => ?_, fun t s after => ?_, fun t after waits => ?_, fun past => ?_⟩
  · rw [next]
    obtain ⟨s, fresh⟩ | ⟨t, s, waits⟩ | ⟨o, ended⟩ := h.stands
    · exact .inl (call_kept sound fits apart fresh)
    · exact .inr (.inl ⟨t, call_kept sound fits apart waits⟩)
    · obtain ⟨s, ended⟩ := callOutcome_eq_some.mp ended
      exact .inr (.inr ⟨o, callOutcome_eq_some.mpr (call_kept sound fits apart ended)⟩)
  · rw [next]
    exact uncancelled_step sound fits safe h.goes
  · obtain ⟨goes, concluded⟩ := h.ended o (ended (next ▸ done))
    exact ⟨goes, concluded.later⟩
  · obtain ⟨s', before⟩ := stood (next ▸ after)
    exact (h.began t s' before).later
  · rw [next] at after
    obtain before | ⟨before, alive, moment, due, d, rfl, deadline, le⟩ :=
      steady.late sound mere after waits
    · exact (h.late t before waits).later
    · obtain ⟨link, drain, -⟩ := steady.plain n t none before
      obtain ⟨l, drained, stage⟩ := t
      obtain ⟨rfl, rfl⟩ : l = 0 ∧ drained = none := ⟨link, drain⟩
      exact ⟨inputs, moment, due, [], d, rfl, deadline, le, before, alive⟩
  · rw [next] at past ⊢
    refine (h.shut ?_).step sound fits ((steady.moves sound mere).ages 0)
    cases past with
    | waits after stage =>
      obtain ⟨s, before⟩ := stood after
      exact .waits before stage
    | done after whole => exact .done (ended after) whole

/-- What the turn of the call comes to. -/
theorem rises (h : WindsUp first inputs n) (sound : Sound (first.run inputs) none lost)
    (mere : Mere (first.run inputs) none) (steady : Steady (first.run inputs))
    (head : (first.run inputs).ready.head? = some (.call n)) :
    ∃ p t s blows r, (first.run inputs).calls[n]? = some ⟨p, some s⟩ ∧ s ≠ .cancelled ∧
      CarriesOut (first.run inputs) p t ∧ Rises (first.run inputs) n t s blows r := by
  obtain ⟨p, s, here⟩ := exists_call sound head
  obtain ⟨ts, ready⟩ := List.head?_eq_some_iff.mp head
  obtain ⟨⟨⟩⟩ | ⟨live, -⟩ := sound.queue.canGo (.call n) (List.mem_of_head? head)
  have goes : s ≠ .cancelled := by
    rintro rfl
    exact h.goes (congrArg Standing.told (standing_of_call here))
  obtain ⟨t, carries⟩ : ∃ t, CarriesOut (first.run inputs) p t := by
    obtain ⟨s', fresh⟩ | ⟨t, s', waits⟩ | ⟨o, ended⟩ := h.stands
    · cases here.symm.trans fresh
      exact ⟨_, .begins⟩
    · cases here.symm.trans waits
      exact ⟨_, .goesOn⟩
    · obtain ⟨s', ended⟩ := callOutcome_eq_some.mp ended
      cases here.symm.trans ended
      rw [standing_of_call here] at live
      cases live
  obtain ⟨blows, r, rises⟩ := steady.rises sound mere ready here carries
  exact ⟨p, t, s, blows, r, here, goes, carries, rises⟩

/-- The call has had its turn. -/
theorem turn (h : WindsUp first inputs n) (sound : Sound (first.run inputs) none lost)
    (mere : Mere (first.run inputs) none) (steady : Steady (first.run inputs))
    (head : (first.run inputs).ready.head? = some (.call n)) :
    WindsUp first (inputs ++ [.turn]) n := by
  obtain ⟨p, t, s, blows, r, here, goes, carries, rises⟩ := h.rises sound mere steady head
  obtain ⟨comes, rung, -, enters, stops⟩ := rises
  have ages := (steady.moves (i := .turn) sound mere).ages 0
  have steady' : Steady (r.1.afterClosing n r.2) :=
    comes ▸ steady.step sound mere (i := .turn) trivial
  have length : n < r.1.calls.length := by
    have grows := calls_le_step (i := .turn) sound trivial
    rw [step, comes, length_afterClosing] at grows
    exact Nat.lt_of_lt_of_le (List.getElem?_eq_some_iff.mp here).1 grows
  have next : first.run (inputs ++ [.turn]) = r.1.afterClosing n r.2 := run_append.trans comes
  have struck : (first.run (inputs ++ [.turn])).blows = (first.run inputs).blows ++ blows := by
    rw [next, blows_afterClosing]
    exact rung.sent
  cases progress : r.2 with
  | waits u =>
    have waits : (first.run (inputs ++ [.turn])).calls[n]? = some ⟨.closing u, none⟩ := by
      rw [next, progress]
      exact List.getElem?_set_self length
    have none' : (first.run (inputs ++ [.turn])).callOutcome? n = none := by
      rw [callOutcome?, waits]
    obtain ⟨link, drain, begins, alive⟩ := rung.waits u progress
    refine ⟨.inr (.inl ⟨u, none, waits⟩), ?_, fun o done => ?_, fun v s' after => ?_,
      fun v after => ?_, fun past => ?_⟩
    · rw [Client.told, standing_of_call waits]
      simp [Call.standing]
    · cases none'.symm.trans done
    · cases waits.symm.trans after
      refine ⟨inputs, [], blows, rfl, head, struck, begins, fun stage => ?_⟩
      rw [next, isAlive_of_links links_afterClosing]
      have here := (steady'.plain n u none (next ▸ waits)).1
      exact here ▸ link ▸ alive stage
    · cases waits.symm.trans after
    · rw [next] at waits past ⊢
      cases past with
      | waits after stage => exact steady'.shut n _ _ after stage
      | done ended =>
        rw [← next, none'] at ended
        cases ended
  | «over» o =>
    have ended : (first.run (inputs ++ [.turn])).callOutcome? n = some o := by
      rw [next, progress]
      exact callOutcome_finish length
    have stands : (first.run (inputs ++ [.turn])).calls[n]? = some ⟨.done o, none⟩ := by
      rw [next, progress]
      exact List.getElem?_set_self length
    have own : t.link = 0 := by
      cases carries with
      | begins => exact heldLink_of_used mere
      | goesOn => exact (steady.plain n t _ here).1
    refine ⟨.inr (.inr ⟨o, ended⟩), ?_, fun o' ended' => ?_, fun v s' after => ?_,
      fun v after => ?_, fun past => ?_⟩
    · rw [Client.told, standing_of_call stands]
      simp [Call.standing]
    · obtain rfl := Option.some.inj (ended.symm.trans ended')
      refine ⟨?_, inputs, [], blows, rfl, head, struck, ?_⟩
      · rintro rfl
        exact goes (stops progress)
      · rw [next]
        exact (own ▸ rung.ends o progress).of_links links_afterClosing
    · cases stands.symm.trans after
    · cases stands.symm.trans after
    · cases past with
      | waits after => cases stands.symm.trans after
      | done ended' whole =>
        obtain rfl := Option.some.inj (ended.symm.trans ended')
        have same := links_afterClosing (n := n) (r := r)
        by_cases early : t.stage = .listener
        · cases enters early with
          | waits => cases progress
          | crashed =>
            cases progress
            exact absurd rfl (whole _)
          | cancelled => exact absurd (stops rfl) goes
          | shut entered =>
            rw [next]
            rw [own] at entered
            exact entered.of_links same
        · have shut : IsShut (first.run inputs) 0 := by
            cases carries with
            | begins => exact absurd rfl early
            | goesOn => exact h.shut (.waits here early)
          rw [run_append]
          exact shut.step (i := .turn) sound trivial ages

end WindsUp

section OfProcess

variable {name : String} {policy : Policy} {observed : Bool} {before after : List Input}

theorem windsUp_run
    (fits : ∀ i ∈ before ++ .call .close :: after, i.Fits (ofProcess name policy observed)) :
    let first := ofProcess name policy observed
    let n := (first.run before).calls.length
    .cancel n ∉ after → WindsUp first (before ++ .call .close :: after) n ∧
      n < (first.run (before ++ .call .close :: after)).calls.length := by
  induction after using List.reverseRecOn with
  | nil =>
    intro first n _
    have new : (first.run (before ++ [.call .close])).calls[n]? =
        some ⟨.fresh .close, some .go⟩ := by
      simp [run, Client.step, addCall, push, n]
    have none' : (first.run (before ++ [.call .close])).callOutcome? n = none := by
      rw [callOutcome?, new]
    refine ⟨⟨.inl ⟨_, new⟩, ?_, fun o ended => ?_, fun t s here => ?_, fun t here => ?_,
      fun past => ?_⟩, (List.getElem?_eq_some_iff.mp new).1⟩
    · rw [Client.told, standing_of_call new]
      simp [Call.standing]
    · cases none'.symm.trans ended
    · cases new.symm.trans here
    · cases new.symm.trans here
    · cases past with
      | waits here => cases new.symm.trans here
      | done ended => cases none'.symm.trans ended
  | append_singleton after i ih =>
    intro first n spares
    have e : before ++ .call .close :: (after ++ [i]) = before ++ .call .close :: after ++ [i] := by
      simp
    rw [e] at fits ⊢
    have fits' j (mem : j ∈ before ++ .call .close :: after) := fits j (List.mem_append_left _ mem)
    obtain ⟨windsUp, here⟩ := ih fits' fun mem => spares (List.mem_append_left _ mem)
    obtain ⟨⟨lost, sound, -⟩, mere, later⟩ := mere_run fits
    have steady := steady_run fits'
    have fit := later i (by simp)
    refine ⟨?_, ?_⟩
    · by_cases own : (first.run (before ++ .call .close :: after)).IsTurn n i
      · obtain ⟨rfl, head⟩ := own
        exact windsUp.turn sound mere steady head
      · refine windsUp.keep sound mere steady fit ?_ here own
        rintro rfl
        exact spares (List.mem_append_right _ (List.mem_singleton.mpr rfl))
    · rw [run_append]
      exact Nat.lt_of_lt_of_le here (calls_le_step sound fit)

end OfProcess

/-! ## Requests that are pending -/

/-- Over a connection that is about to be closed nothing more is read for a request. -/
theorem muted_turn (sound : Sound c none lost) (mere : Mere c none) (steady : Steady c)
    (closing : Closing c.turn none) (first : c.ready.head? = some (.call n))
    (here : c.calls[n]? = some ⟨.fresh .close, some s⟩) (goes : s ≠ .cancelled) : Muted c.turn := by
  obtain ⟨ts, ready⟩ := List.head?_eq_some_iff.mp first
  obtain ⟨blows, r, comes, -, -, enters, stops⟩ := steady.rises sound mere ready here .begins
  have entered := enters rfl
  have same : c.turn.link 0 = r.1.link 0 := link_of_links (by rw [comes, links_afterClosing])
  have own : (⟨c.heldLink, none, .listener⟩ : Teardown).link = 0 := heldLink_of_used mere
  rw [own] at entered
  cases entered with
  | waits stage closed told =>
    exact ⟨by rwa [same], fun _ _ => by rwa [same]⟩
  | crashed closed crash =>
    refine ⟨by rwa [same], fun some => absurd ?_ some⟩
    refine ((closing.links 0).crashed ?_).1
    rw [same, crash]
    rfl
  | cancelled => exact absurd (stops rfl) goes
  | shut shut =>
    exact ⟨by rw [same]; exact shut.closed, fun some => absurd (same ▸ shut.pending) some⟩

/-- A request that is pending when a call begins to close the connection is told of nothing else
any more. -/
theorem fated_turn {id : Nat} (sound : Sound c none lost) (mere : Mere c none)
    (lingers : ∀ l id n, ⟨l, id, .call n⟩ ∈ lost → Lingers n l id c none)
    (first : c.ready.head? = some (.call n)) (here : c.calls[n]? = some ⟨.fresh .close, some s⟩)
    (pending : (id, .call m) ∈ (c.link 0).pending) (untold : c.told (.call m) = none) :
    Fated c.turn m id := by
  have fated : Fated c m id :=
    ⟨sound.requests.pending 0 id _ pending, fun _ => pending, fun s told => by
      rw [untold] at told
      cases told⟩
  obtain ⟨ts, ready⟩ := List.head?_eq_some_iff.mp first
  refine fated.quiet (i := .turn) sound mere (not_lost lingers fated.isSome) trivial ?_ (by simp) ?_
  · rintro ⟨-, head⟩
    cases first.symm.trans head
    have waits := fated.isSome
    rw [role, standing_of_call here] at waits
    cases waits
  · intro _ u rest ready'
    obtain ⟨rfl, -⟩ := List.cons.inj (ready.symm.trans ready')
    have errand : (c.role (.call n)).errand = .closes := by
      rw [role, standing_of_call here]
      rfl
    exact ⟨by simp, by simp [errand]⟩

/-! ## Calls that close a connection -/

/-- Why a call sends the signals that it sends in a turn. -/
inductive Warranted (first : Client) (inputs : List Input) (n : Nat) : List Event → Prop
  | nothing : Warranted first inputs n []
  | terminates {d : Nat} (began : Began first inputs n (.grace d))
    (late : Outwaits first inputs n (.grace d)) (alive : (first.run inputs).isAlive 0) :
    Warranted first inputs n [.terminated]
  | kills {d : Nat} (began : Began first inputs n (.terminated d))
    (late : Outwaits first inputs n (.terminated d)) : Warranted first inputs n [.killed]

theorem WindsUp.warranted (h : WindsUp first inputs n) (sound : Sound (first.run inputs) none lost)
    (mere : Mere (first.run inputs) none) (steady : Steady (first.run inputs))
    (head : (first.run inputs).ready.head? = some (.call n)) :
    ∃ blows, (first.run (inputs ++ [.turn])).blows = (first.run inputs).blows ++ blows ∧
      Warranted first inputs n blows := by
  obtain ⟨p, t, s, blows, r, here, -, carries, rises⟩ := h.rises sound mere steady head
  obtain ⟨comes, rung, strikes, -, -⟩ := rises
  refine ⟨blows, ?_, ?_⟩
  · rw [run_append, ← rung.sent]
    exact (congrArg Client.blows comes).trans blows_afterClosing
  · have plain (stage : t.stage ≠ .listener) :
        (first.run inputs).calls[n]? = some ⟨.closing t, some s⟩ := by
      cases carries with
      | begins => exact absurd rfl stage
      | goesOn => exact here
    cases strikes with
    | nothing => exact .nothing
    | @terminates d stage late alive =>
      subst late
      have here := plain (by rw [stage]; nofun)
      have began := h.began t _ here
      have late := h.late t here (by rw [stage]; rfl)
      have own := (steady.plain n t _ here).1
      rw [stage] at began late
      exact .terminates began late (own ▸ alive)
    | @kills d stage late =>
      subst late
      have here := plain (by rw [stage]; nofun)
      have began := h.began t _ here
      have late := h.late t here (by rw [stage]; rfl)
      rw [stage] at began late
      exact .kills began late

/-- How a call closes a connection, up to some moment. -/
structure Escalates (first : Client) (inputs : List Input) (n : Nat) : Prop where
  /-- A request that is pending when the call begins fails, unless its caller cancels it. -/
  fails : ∀ before after m id, inputs = before ++ .turn :: after →
    (first.run before).calls[n]? = some ⟨.fresh .close, some .go⟩ →
    (first.run before).ready.head? = some (.call n) →
    (id, .call m) ∈ ((first.run before).link 0).pending →
    (first.run before).told (.call m) = none → .cancel m ∉ after → Past (first.run inputs) n →
    (∃ reason, (first.run inputs).told (.call m) = some (.answered (.error (.ended reason)))) ∨
      ∃ reason, (first.run inputs).callOutcome? m = some (.error (.ended reason))
  /-- Once the call has not only waited for the listener, nothing is pending and standard input is
  closed. -/
  shuts : Past (first.run inputs) n → IsShut (first.run inputs) 0
  /-- It waits a second for standard input, a second for the process to leave, or two seconds after
  it has told the process to terminate. -/
  waits : ∀ (t : Teardown) s, (first.run inputs).calls[n]? = some ⟨.closing t, s⟩ →
    Began first inputs n t.stage
  /-- It tells a process to terminate that was still there when its time to leave was up and is
  still there, and kills one that was still there when its time to terminate was up. -/
  signals : (first.run inputs).ready.head? = some (.call n) → ∃ blows,
    (first.run (inputs ++ [.turn])).blows = (first.run inputs).blows ++ blows ∧
      Warranted first inputs n blows
  /-- It has ended when the process had exited or says that it had gone, or on what the listener
  has ended on. -/
  ends : ∀ o, (first.run inputs).callOutcome? n = some o →
    o ≠ .cancelled ∧ Concluded first inputs n o

section OfProcess

variable {name : String} {policy : Policy} {observed : Bool} {before after : List Input}

/-- A call that closes a connection and is not cancelled goes on to a harder way only when the
time for the last one is up. -/
theorem close_escalates
    (fits : ∀ i ∈ before ++ .call .close :: after, i.Fits (ofProcess name policy observed))
    (spares : .cancel ((ofProcess name policy observed).run before).calls.length ∉ after) :
    Escalates (ofProcess name policy observed) (before ++ .call .close :: after)
      ((ofProcess name policy observed).run before).calls.length := by
  obtain ⟨windsUp, -⟩ := windsUp_run fits spares
  have steady := steady_run fits
  generalize ((ofProcess name policy observed).run before).calls.length = n at *
  generalize before ++ .call .close :: after = inputs at *
  have whole : ∀ i ∈ inputs ++ [], i.Fits (ofProcess name policy observed) := by
    rwa [List.append_nil]
  obtain ⟨⟨lost, sound, -⟩, mere, -⟩ := mere_run whole
  refine ⟨?_, windsUp.shut, windsUp.began, windsUp.warranted sound mere steady, windsUp.ended⟩
  rintro before after m id rfl fresh head pending untold safe past
  have fits' j (mem : j ∈ before) := fits j (List.mem_append_left _ mem)
  obtain ⟨⟨lost', sound', lingers⟩, mere', -⟩ := mere_run fits
  have e : before ++ .turn :: after = (before ++ [.turn]) ++ after := by simp
  rw [e] at fits windsUp past sound ⊢
  have next : (ofProcess name policy observed).run (before ++ [.turn]) =
      ((ofProcess name policy observed).run before).turn := run_append
  have closing : Closing ((ofProcess name policy observed).run before).turn none := by
    rw [← next]
    exact (invariant_closing.run throughout_always
      (fun j mem => fits j (List.mem_append_left _ mem)) sound_ofProcess closing_ofProcess).2
  have fated := fated_turn sound' mere' lingers head fresh pending untold
  have muted := muted_turn sound' mere' (steady_run fits') closing head fresh nofun
  obtain ⟨-, fated | ended⟩ := resigned_run fits (next ▸ muted) (.inl (next ▸ fated)) safe
  · have clear := (windsUp.shut past).pending
    generalize (ofProcess name policy observed).run (before ++ [.turn] ++ after) = c at *
    cases told : c.told (.call m) with
    | none =>
      have pending := fated.pending told
      rw [clear] at pending
      cases pending
    | some s =>
      match s, fated.fate s told with
      | .answered (.error (.ended reason)), _ => exact .inl ⟨reason, rfl⟩
  · exact .inr ended

end OfProcess

/-- A process that leaves only when it is killed. -/
def stubborn : Policy := { Policy.plain with exitsOnClose := false, onTerminate := .ignores }

/-- A request is pending when the connection is closed. -/
def outlasted : List Input :=
  [.call .listen, .turn, .turn, .call (.sends [.request "m" .null]), .turn]

/-- The listener ends, and the time is up twice. -/
def exhausted : List Input :=
  [.turn, .turn, .turn, .turn, .time second second, .turn, .time (3 * second) (3 * second), .turn]

theorem close_escalates_stubborn :
    Escalates (ofProcess "lsp" stubborn true) (outlasted ++ .call .close :: exhausted) 2 ∧
      ((ofProcess "lsp" stubborn true).run (outlasted ++ .call .close :: exhausted)).blows =
        [.terminated, .killed] ∧
      ((ofProcess "lsp" stubborn true).run
        (outlasted ++ .call .close :: exhausted)).callOutcome? 1 =
          some (.error (.ended .deliberate)) ∧
      ((ofProcess "lsp" stubborn true).run
        (outlasted ++ .call .close :: exhausted)).callOutcome? 2 = some .done :=
  ⟨@close_escalates "lsp" stubborn true outlasted exhausted (by decide +kernel) (by decide +kernel),
    by decide +kernel, by decide +kernel, by decide +kernel⟩

/-- Two calls close the connection at once, and the time of both is up. -/
def closedTwice : List Input :=
  [.call .listen, .turn, .turn, .call .close, .call .close, .turn, .turn, .turn, .turn, .turn,
    .time second second, .turn, .turn, .time (3 * second) (3 * second), .turn]

/-- The later of two calls kills a process that has exited when the other one killed it. -/
theorem close_kills_exited :
    ((ofProcess "lsp" stubborn true).run closedTwice).isAlive 0 = false ∧
      ((ofProcess "lsp" stubborn true).run closedTwice).ready = [.call 2] ∧
      ((ofProcess "lsp" stubborn true).run (closedTwice ++ [.turn])).blows =
        ((ofProcess "lsp" stubborn true).run closedTwice).blows ++ [.killed] ∧
      ((ofProcess "lsp" stubborn true).run (closedTwice ++ [.turn])).callOutcome? 2 =
        some .done := by
  decide +kernel

end LspGateway.Client
