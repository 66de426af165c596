import LspGateway.Proofs.Client.Answers
import LspGateway.Proofs.Client.Handshake

/-! # Answers find their requests

Over a mere connection a call gets the first answer to its request that is read while
it waits, and an answer is for one call at most.
-/

namespace LspGateway.Client

variable {hit : Nat → Prop} {c c₁ b : Client} {d d₁ : Option Doer} {ls lost : List Loss} {x : Doer}
  {l k m n id : Nat} {t u : Task} {s : Signal} {o : Outcome} {i : Input} {ms ks : List Json}
  {inputs rest : List Input}

/-- The messages of a link that are taken in a run. -/
def heard (c : Client) (l : Nat) : List Input → List Json
  | [] => []
  | i :: rest => c.received l i ++ (c.step i).heard l rest

theorem heard_append :
    c.heard l (inputs ++ rest) = c.heard l inputs ++ (c.run inputs).heard l rest := by
  induction inputs generalizing c with
  | nil => rfl
  | cons i inputs ih => rw [List.cons_append, heard, ih, heard, List.append_assoc, run_cons]

/-! ## Who waits for an answer -/

/-- How an activity that waits for an answer stands after messages were taken. -/
inductive Knows (l id : Nat) (t : Task) (ms : List Json) (c : Client) : Prop
  | waits (silent : ms.findSome? (answerTo? id) = none) (awaits : Awaits c l id t)
  /-- Its answer cannot come any more. -/
  | lost (expects : (c.role t).expects = some (l, id)) (untold : c.told t = none)
    (gone : (id, t) ∉ (c.link l).pending)
  | told {s : Signal} (expects : (c.role t).expects = some (l, id)) (told : c.told t = some s)
    (why : ∀ o, s = .answered o → o.isReply → ms.findSome? (answerTo? id) = some (.ok o))

namespace Knows

theorem expects (h : Knows l id t ms c) : (c.role t).expects = some (l, id) := by
  cases h with
  | waits _ awaits => exact awaits.expects
  | lost expects => exact expects
  | told expects => exact expects

/-- An answer that was told is the first one that was heard. -/
theorem why (h : Knows l id t ms c) (told : c.told t = some (.answered o)) (reply : o.isReply) :
    ms.findSome? (answerTo? id) = some (.ok o) := by
  cases h with
  | waits _ awaits => cases awaits.untold.symm.trans told
  | lost _ untold => cases untold.symm.trans told
  | told _ told' why => exact why o (Option.some.inj (told'.symm.trans told)) reply

theorem isSome (h : Knows l id t ms c) : (c.role t).expects.isSome := by
  rw [h.expects]
  rfl

theorem congr (h : Knows l id t ms c) (same : c₁.standing t = c.standing t)
    (pending : (c₁.link l).pending = (c.link l).pending) : Knows l id t ms c₁ := by
  have role : c₁.role t = c.role t := by rw [role, same, role]
  have told : c₁.told t = c.told t := by rw [Client.told, same, Client.told]
  cases h with
  | waits silent awaits => exact .waits silent (awaits.congr same pending)
  | lost expects untold gone => exact .lost (by rwa [role]) (by rwa [told]) (by rwa [pending])
  | told expects told' why => exact .told (by rwa [role]) (by rwa [told]) why

/-- What decided before goes on to decide. -/
theorem tell (h : Knows l id t ms c) (told : c.told t ≠ none)
    (same : c₁.standing t = c.standing t) : Knows l id t (ms ++ ks) c₁ := by
  have role : c₁.role t = c.role t := by rw [role, same, role]
  have told' : c₁.told t = c.told t := by rw [Client.told, same, Client.told]
  cases h with
  | waits _ awaits => exact absurd awaits.untold told
  | lost _ untold => exact absurd untold told
  | told expects told'' why =>
    refine .told (by rwa [role]) (by rwa [told']) fun o e reply => ?_
    rw [List.findSome?_append, why o e reply]
    rfl

/-- What is heard decides for who waits, and changes nothing for the others. -/
theorem listens (h : Knows l id t ms c) (heard : Awaits c l id t → Heard c l id t ks c₁)
    (apart : ¬ (t ∈ (c.link l).pending.map Prod.snd ∧ c.told t = none) →
      c₁.standing t = c.standing t)
    (only : ∀ i, (i, t) ∈ (c.link l).pending → i = id)
    (left : (id, t) ∈ (c₁.link l).pending → (id, t) ∈ (c.link l).pending) :
    Knows l id t (ms ++ ks) c₁ := by
  cases h with
  | waits silent awaits =>
    have first : (ms ++ ks).findSome? (answerTo? id) = ks.findSome? (answerTo? id) := by
      rw [List.findSome?_append, silent]
      rfl
    have role (same : (c₁.standing t).role = (c.standing t).role) :
        (c₁.role t).expects = some (l, id) := by
      rw [Client.role, same]
      exact awaits.expects
    cases heard awaits with
    | waits silent' awaits' => exact .waits (first.trans silent') awaits'
    | ends silent' reason told =>
      refine .told (role (by rw [told])) (by rw [Client.told, told]) fun o e reply => ?_
      cases e
      cases reply
    | @answered r answer told gone =>
      cases r with
      | ok o =>
        refine .told (role (by rw [told]; rfl)) (by rw [Client.told, told]; rfl) fun o' e _ => ?_
        obtain rfl := Signal.answered.inj e
        exact first.trans answer
      | error fault =>
        refine .lost (role (by rw [told]; rfl)) ?_ fun mem => ?_
        · rw [Client.told, told]
          exact awaits.untold
        · exact gone (List.mem_map.mpr ⟨_, mem, rfl⟩)
  | lost expects untold gone =>
    have same : c₁.standing t = c.standing t := by
      refine apart fun h => gone ?_
      obtain ⟨⟨i, u⟩, mem, e⟩ := List.mem_map.mp h.1
      obtain rfl : u = t := e
      exact only i mem ▸ mem
    exact .lost (by rwa [role, same]) (by rwa [Client.told, same]) fun mem => gone (left mem)
  | told expects told why =>
    have same : c₁.standing t = c.standing t := apart fun h => by
      rw [told] at h
      cases h.2
    exact (Knows.told expects told why).tell (by simp [told]) same

end Knows

/-! ## While nobody listens -/

theorem Path.pending_new (path : Path hit c d ls c₁ d₁) (apart : turnOf d ≠ some t)
    (h : (id, t) ∈ (c₁.link l).pending) : (id, t) ∈ (c.link l).pending := by
  induction path with
  | nil => exact h
  | step act _ ih => exact act.pending_new apart (ih (act.apart apart) h)
  | loses _ _ _ _ ih =>
    have := ih apart h
    rw [pending_forget] at this
    split at this
    · exact List.mem_of_mem_filter this
    · exact this

/-- Who waits for an answer waits for it until its turn. -/
theorem Path.role_kept (path : Path hit c d ls c₁ d₁) (apart : turnOf d ≠ some t)
    (waits : (c.role t).expects.isSome) : c₁.role t = c.role t := by
  induction path with
  | nil => rfl
  | step act _ ih =>
    obtain same | ⟨-, job, -, rfl, -⟩ := act.role_other apart
    · exact (ih (act.apart apart) (by rwa [same])).trans same
    · simp [role, standing, Standing.absent, Role.idle] at waits
  | @loses c d l id u ls c₂ d₂ _ _ _ _ ih =>
    have same : (c.forget l id).role t = c.role t := congrArg Standing.role standing_forget
    exact (ih apart (by rwa [same])).trans same

theorem Path.told_kept (path : Path hit c d ls c₁ d₁) (q : Queue c (turnOf d))
    (apart : turnOf d ≠ some t) (told : (c.told t).isSome) : (c₁.told t).isSome := by
  induction path with
  | nil => exact told
  | step act _ ih =>
    refine ih (act.queue q) (act.apart apart) ?_
    obtain same | ⟨s, same, -⟩ | ⟨dead, -⟩ := act.stirs apart
    · rwa [Client.told, same]
    · rw [Client.told, same]
      rfl
    · rw [q.live told] at dead
      cases dead
  | @loses c d l id t ls c₂ d₂ idle pending untold path ih =>
    have same u : (c.forget l id).standing u = c.standing u := standing_forget
    exact ih (q.congr same rfl fun u => has_modifyLink.mpr) apart (by rwa [Client.told, same])

/-- Nobody learns of an answer while nobody listens. -/
theorem Knows.path (h : Knows l id t ms c) (path : Path hit c d [] c₁ none) (sound : Sound c d lost)
    (apart : turnOf d ≠ some t) (quiet : ∀ l, ¬ Hears d l) (unlost : (id, t) ∈ (c.link l).pending → ⟨l, id, t⟩ ∉ lost) : Knows l id t ms c₁ := by
  have role := path.role_kept apart h.isSome
  have expects : (c₁.role t).expects = some (l, id) := role ▸ h.expects
  cases told : c₁.told t with
  | some s =>
    refine .told expects told fun o e reply => ?_
    subst e
    exact h.why (path.told_reply sound.queue quiet (by rw [expects]; rfl) told reply) reply
  | none =>
    have sound₁ := (invariant_true.path path sound trivial).1
    rw [List.append_nil] at sound₁
    cases h with
    | waits silent awaits =>
      refine .waits silent (sound₁.requests.awaits expects told ?_)
      exact (sound₁.requests.waits t l id expects told).resolve_right (unlost awaits.pending)
    | lost _ _ gone => exact .lost expects told fun mem => gone (path.pending_new apart mem)
    | told _ told' =>
      have := path.told_kept sound.queue apart (by rw [told']; rfl)
      rw [told] at this
      cases this

/-! ## Steps -/

/-- The listener has its turn. -/
theorem Knows.listenerTurn (h : Knows l id t ms c) (r : Requests c none lost)
    (turn : ListenerTurn c l c₁ ks) : Knows l id t (ms ++ ks) c₁ := by
  refine h.listens (·.listenerTurn turn) (turn.apart h.isSome) ?_ fun mem => turn.pending mem
  intro i mem
  have claims : (c.role t).expects = some (l, i) := r.pending l i t mem
  rw [h.expects] at claims
  exact (Prod.mk.inj (Option.some.inj claims)).2.symm

/-- A call listens: what has arrived is taken if the listener waits. -/
theorem Knows.startListening (h : Knows l id t ms c)
    (only : ∀ i, (i, t) ∈ (c.link l).pending → i = id) :
    Knows l id t (ms ++ if (c.link l).listener.phase = .waiting then (c.renewListener l).hearBegin l
      else []) (c.startListening l) := by
  have caller := isCaller_of_expects h.isSome
  by_cases waiting : (c.link l).listener.phase = .waiting
  · have later : c.startListening l = (c.renewListener l).beginListening l .later := by
      unfold Client.startListening
      simp only [waiting]
      rfl
    have same : (c.renewListener l).standing t = c.standing t := standing_caller caller rfl rfl
    have pending : ((c.renewListener l).link l).pending = (c.link l).pending :=
      link_modifyLink_same Link.pending fun _ => rfl
    have renewed : Knows l id t ms (c.renewListener l) := h.congr same pending
    rw [later, if_pos waiting]
    refine renewed.listens (·.beginListening) (standing_beginListening renewed.isSome) ?_ fun mem =>
      pending_beginListening mem
    rwa [pending]
  · rw [if_neg waiting, List.append_nil]
    unfold Client.startListening
    dsimp only
    split
    · exact h
    · contradiction
    · refine h.congr (standing_caller caller rfl rfl) ?_
      exact link_modifyLink_same Link.pending fun _ => rfl

/-- The turn of someone who neither waits nor listens. -/
theorem Knows.turn (h : Knows l id t ms c) (sound : Sound c none lost)
    (apart : c.ready.head? ≠ some t) (none' : c.lossOfTurn = none)
    (quiet : ∀ u rest, c.ready = u :: rest →
      (∀ l, u ≠ .listener l) ∧ (c.role u).errand ≠ .listens)
    (unlost : (id, t) ∈ (c.link l).pending → ⟨l, id, t⟩ ∉ lost) : Knows l id t ms c.turn := by
  have path := @path_turn NoHit c sound.fit
  rw [none'] at path
  obtain path | ⟨rest, c₁, d, begins, path⟩ := path
  · refine h.path path sound turnOf_none_ne ?_ unlost
    rintro l ⟨x, turn, -⟩
    cases turn
  · have own : turnOf d ≠ some t := by
      intro own
      obtain ⟨x, rfl, rfl⟩ := Option.map_eq_some_iff.mp own
      rw [begins.first] at apart
      exact apart rfl
    have begun := begins.sound sound
    refine Knows.path (h.congr (begins.standing own) begins.pending) path begun own ?_
      (by rwa [begins.pending])
    rintro l ⟨x, rfl, task | errand⟩
    · exact (quiet _ _ begins.first).1 l task
    · refine (quiet _ _ begins.first).2 ?_
      rwa [begins.turn.2.2.1] at errand

theorem Knows.standing (h : Knows l id t ms c) (same : c₁.standing t = c.standing t)
    (links : c₁.links = c.links) : Knows l id t ms c₁ :=
  h.congr same (congrArg Link.pending (link_of_links links))

/-- The turn of another call that listens, or would have if it had not been cancelled. -/
theorem Knows.turn_listen {rest : List Task} (h : Knows 0 id (.call n) ms c) (mere : Mere c none)
    (first : c.ready = .call m :: rest) (here : c.calls[m]? = some ⟨.fresh .listen, some s⟩)
    (apart : m ≠ n) (only : ∀ i, (i, .call n) ∈ (c.link 0).pending → i = id) :
    Knows 0 id (.call n) (ms ++ c.received 0 .turn) c.turn := by
  let b : Client := ({ c with ready := rest } : Client).setCall m .running
  have put {b : Client} {p : CallPhase} : (b.setCall m p).standing (.call n) = b.standing (.call n) := by
    rw [setCall_eq, standing_putCall, if_neg fun h => apart (Task.call.inj h.1).symm]
  have begun : Knows 0 id (.call n) ms b := h.standing put rfl
  have held : b.heldLink = 0 := by rw [heldLink, show b.held = c.held from rfl, mere.used]; rfl
  rw [turn_call first here, Option.getD_some, resumeCall]
  split
  · next cancelled =>
    have silent : c.received 0 .turn = [] := by simp [received, first, here, cancelled]
    rw [silent, List.append_nil]
    exact begun.standing put rfl
  · next go =>
    have taken : c.received 0 .turn = if (b.link 0).listener.phase = .waiting then
        (b.renewListener 0).hearBegin 0 else [] := by
      have held : c.heldLink = 0 := held
      simp [received, first, here, go, held, b]
      rfl
    rw [taken, beginCall]
    have started : Knows 0 id (.call n) _ (b.startListening 0) := begun.startListening only
    rw [show (({ c with ready := rest } : Client).setCall m .running).heldLink = 0 from held]
    exact started.standing put rfl

/-- Who listens is a listener, or a call that is to listen. -/
theorem listens_of_role (listens : (c.role t).errand = .listens) :
    ∃ m s, t = .call m ∧ c.calls[m]? = some ⟨.fresh .listen, s⟩ := by
  cases t with
  | call m =>
    rcases here : c.calls[m]? with _ | ⟨p, s⟩
    · simp [role, standing, here, Standing.absent, Role.idle] at listens
    · have errand : p.role.errand = .listens := by
        simpa [role, standing, here, Call.standing] using listens
      refine ⟨m, s, rfl, ?_⟩
      cases p with
      | fresh job => cases job <;> first | exact here | cases errand
      | _ => cases errand
  | attempt m =>
    rcases here : c.attempts[m]? with _ | ⟨p, s⟩
    · simp [role, standing, here, Standing.absent, Role.idle] at listens
    · simp only [role, standing, here, Option.map_some, Option.getD_some, Attempt.standing] at listens
      cases p <;> cases listens
  | _ => cases listens

/-- Nothing is taken and no request is lost in the turn of someone who does not listen. -/
theorem silent_turn {rest : List Task} (first : c.ready = u :: rest) (listener : ∀ k, u ≠ .listener k)
    (other : (c.role u).errand ≠ .listens) : c.received l .turn = [] ∧ c.lossOfTurn = none := by
  cases u with
  | listener k => exact absurd rfl (listener k)
  | call m =>
    have other s : c.calls[m]? ≠ some ⟨.fresh .listen, s⟩ := by
      intro here
      refine other ?_
      simp [role, standing, here, Call.standing, CallPhase.role, Job.errand, Role.begun]
    constructor
    · unfold received
      rw [first]
      dsimp only
      split
      · next s here => exact absurd here (other s)
      · rfl
    · unfold lossOfTurn
      rw [first]
      dsimp only
      unfold lossOfCall
      split
      · next job s here =>
        split
        · rfl
        · cases job with
          | listen => exact absurd here (other _)
          | _ => rfl
      · rfl
  | _ => exact ⟨by rw [received, first], by rw [lossOfTurn, first]⟩

/-- One step of someone else, or from outside. -/
theorem Knows.step (h : Knows 0 id (.call n) ms c) (sound : Sound c none lost) (mere : Mere c none)
    (unlost : (id, .call n) ∈ (c.link 0).pending → ⟨0, id, .call n⟩ ∉ lost) (fits : i.Fits c)
    (apart : i = .turn → c.ready.head? ≠ some (.call n)) :
    Knows 0 id (.call n) (ms ++ c.received 0 i) (c.step i) := by
  by_cases turns : i = .turn
  · subst turns
    have apart := apart rfl
    have only i (mem : (i, .call n) ∈ (c.link 0).pending) : i = id := by
      have claims : (c.role (.call n)).expects = some (0, i) := sound.requests.pending 0 i _ mem
      rw [h.expects] at claims
      exact (Prod.mk.inj (Option.some.inj claims)).2.symm
    rcases ready : c.ready with _ | ⟨u, rest⟩
    · have rests : c.step .turn = c := by simp [Client.step, Client.turn, ready]
      rw [rests]
      simpa [received, ready] using h
    · have canGo : c.CanGo u := sound.queue.canGo u (by simp [ready])
      by_cases listener : ∃ k, u = .listener k
      · obtain ⟨k, rfl⟩ := listener
        obtain ⟨⟨⟩⟩ | ⟨pending, -⟩ := canGo
        obtain rfl : k = 0 := by
          have := lt_of_listener pending
          have := mere.links
          omega
        let b : Client := { c with ready := rest }
        have requests : Requests b none lost :=
          sound.requests.congr (fun _ => rfl) (fun _ => rfl) (fun _ _ => rfl) (fun _ => rfl)
            fun _ => rfl
        have step : c.step .turn = b.runListener 0 := turn_listener ready
        have taken : c.received 0 .turn = b.hearTurn 0 := by simp [received, ready, b]
        rw [step, taken]
        have waits : Knows 0 id (.call n) ms b := h.standing rfl rfl
        exact waits.listenerTurn requests Client.listenerTurn
      · by_cases listens : (c.role u).errand = .listens
        · obtain ⟨m, s, rfl, here⟩ := listens_of_role listens
          obtain ⟨⟨⟩⟩ | ⟨-, told⟩ := canGo
          obtain ⟨s, rfl⟩ : ∃ s', s = some s' := by
            simpa [told, Client.told, Client.standing, here, Call.standing,
              Option.isSome_iff_exists] using told
          refine h.turn_listen mere ready here (fun e => apart ?_) only
          rw [ready, e]
          rfl
        · obtain ⟨silent, none'⟩ :=
            silent_turn (l := 0) ready (fun k e => listener ⟨k, e⟩) listens
          rw [silent, List.append_nil]
          refine h.turn sound apart none' (fun v rest' first => ?_) unlost
          obtain ⟨rfl, -⟩ := List.cons.inj (ready.symm.trans first)
          exact ⟨fun k e => listener ⟨k, e⟩, listens⟩
  · have silent : c.received 0 i = [] := by cases i <;> first | rfl | exact absurd rfl turns
    rw [silent, List.append_nil]
    refine h.path (path_input i fits turns) sound turnOf_none_ne ?_ unlost
    rintro l ⟨x, turn, -⟩
    cases turn

/-- Who waits for an answer and did not have its turn has waited before. -/
theorem role_before (sound : Sound c none lost) (fits : i.Fits c)
    (apart : ¬ (i = .turn ∧ c.ready.head? = some t)) (waits : ((c.step i).role t).expects.isSome) :
    (c.step i).role t = c.role t := by
  by_cases turns : i = .turn
  · subst turns
    obtain path | ⟨rest, c₁, d, begins, path⟩ := @path_turn NoHit c sound.fit
    · exact path.role_waits turnOf_none_ne waits
    · have own := apart_of_head begins fun head => apart ⟨rfl, head⟩
      rw [Client.step, path.role_waits own waits, role, begins.standing own, role]
  · exact (path_input i fits turns).role_waits turnOf_none_ne waits

theorem role_finish : (c.finish n o).role (.call n) = .idle := by
  show ((c.putCall n ⟨.done o, none⟩).role (.call n)) = .idle
  rw [role, standing_putCall]
  split
  · rfl
  · next absent =>
    rw [standing, List.getElem?_eq_none (Nat.le_of_not_lt fun h => absent ⟨rfl, h⟩)]
    rfl

theorem role_turn_listen {rest : List Task} (first : c.ready = .call m :: rest)
    (here : c.calls[m]? = some ⟨.fresh .listen, some s⟩) : c.turn.role (.call m) = .idle := by
  rw [turn_call first here, Option.getD_some, resumeCall]
  split <;> exact role_finish

/-- Who asks for something in its turn does not listen. -/
theorem Begins.not_hears {rest : List Task} (begins : Begins c rest c₁ d) (own : turnOf d = some t)
    (waits : (c.turn.role t).expects.isSome) : ¬ Hears d k := by
  rintro ⟨x, rfl, task | errand⟩
  · obtain rfl := Option.some.inj own
    rw [task] at waits
    cases waits
  · obtain rfl := Option.some.inj own
    rw [begins.turn.2.2.1] at errand
    obtain ⟨m, s, task, here⟩ := listens_of_role errand
    have told := begins.turn.1
    rw [task, Client.told, Client.standing, here] at told
    obtain rfl : s = some x.signal := told
    have first := begins.first
    rw [task] at first waits
    rw [role_turn_listen first here] at waits
    cases waits

/-- Who has asked for something in its turn was told nothing so far. -/
theorem Knows.begin (sound : Sound c none lost) (first : c.ready.head? = some t)
    (expects : (c.turn.role t).expects = some (l, id)) : Knows l id t [] c.turn := by
  have waits : (c.turn.role t).expects.isSome := by rw [expects]; rfl
  cases told : c.turn.told t with
  | none =>
    obtain ⟨sound₁, -⟩ := invariant_true.step (i := .turn) trivial trivial sound trivial
    by_cases pending : (id, t) ∈ (c.turn.link l).pending
    · exact .waits rfl (sound₁.requests.awaits expects told pending)
    · exact .lost expects told pending
  | some s =>
    refine .told expects told fun o e reply => ?_
    subst e
    exfalso
    obtain ⟨rest, ready⟩ := List.head?_eq_some_iff.mp first
    obtain ⟨c₁, d, begins, path⟩ := @path_turn_of_ready NoHit c sound.fit t rest ready
    have begun := begins.sound sound
    have own : turnOf d = some t := by
      cases d with
      | none =>
        cases begins with
        | relay ready' =>
          obtain ⟨rfl, -⟩ := List.cons.inj (ready.symm.trans ready')
          cases waits
      | some x =>
        have := begins.first
        rw [ready] at this
        exact congrArg some (List.cons.inj this).1.symm
    have answered := path.told_reply begun.queue (fun _ => begins.not_hears own waits) waits told reply
    rw [(begun.queue.apart t own).2.2.2] at answered
    cases answered

/-! ## A call that sends one request -/

theorem standing_of_call {q : Call} (here : c.calls[n]? = some q) :
    c.standing (.call n) = q.standing := by
  rw [standing, here]
  rfl

theorem callOutcome_finish (here : n < c.calls.length) : (c.finish n o).callOutcome? n = some o := by
  simp [finish, emit, setCall, callOutcome?, here]

/-- A request that cannot be sent ends with an error of the connection. -/
theorem request_error {method : String} {params : Json} {e : Error}
    (h : c.request l t method params = (c₁, .error e)) : (Outcome.error e).isReply = false := by
  have wrote {b b' : Client} {m : Json} {e : Error} (h : b.write l m = (b', .error e)) :
      (Outcome.error e).isReply = false := by
    have closed {f : Error} (h : (b, Except.error f) = (b', (.error e : Except Error Unit))) :
        e = f := by simpa using (Prod.mk.inj h).2.symm
    unfold write at h
    split at h
    · rw [closed h]
      rfl
    · dsimp only at h
      split at h
      · rw [closed h]
        rfl
      · split at h
        · obtain rfl : Error.unwritable .broken = e := by simpa using (Prod.mk.inj h).2
          rfl
        · simp at h
  unfold request at h
  dsimp only at h
  split at h
  · obtain ⟨-, rfl⟩ : _ ∧ Error.closed = e := by simpa using h
    rfl
  · split at h
    · simp at h
    · next w =>
      obtain ⟨-, rfl⟩ : _ ∧ _ = e := by simpa using h
      exact wrote w

/-- A request that is sent over a mere connection waits for its answer, or has failed. -/
theorem sendAll_request (method : String) (params : Json) (usable : c.usableLink = .ok 0)
    (here : n < c.calls.length) :
    (∃ id, (c.sendAll n .null [.request method params]).calls[n]? =
        some ⟨.awaiting 0 id [], none⟩) ∨
      ∃ (b : Client) (o : Outcome), c.sendAll n .null [.request method params] = b.finish n o ∧
        n < b.calls.length ∧ o.isReply = false := by
  have warm : c.needsStart = false := by simp [needsStart, (usableLink_ok usable).2]
  rw [sendAll, if_neg (by simp [warm]), sendOne, usable]
  dsimp only
  have calls := (activities_request (c := c) (l := 0) (t := .call n) method params).2
  rcases e : c.request 0 (.call n) method params with ⟨b, _ | id⟩ <;> rw [e] at calls
  · exact .inr ⟨b, _, rfl, by rwa [calls], request_error e⟩
  · left
    refine ⟨id, ?_⟩
    show (b.calls.set n ⟨.awaiting 0 id [], none⟩)[n]? = _
    rw [List.getElem?_set_self (by rwa [calls])]

/-- How far a call has come that sends one request. -/
inductive Requesting (n : Nat) (c : Client) : Prop
  | fresh {method : String} {params : Json} {s : Option Signal}
    (here : c.calls[n]? = some ⟨.fresh (.sends [.request method params]), s⟩)
  | waits {id : Nat} {s : Option Signal} (here : c.calls[n]? = some ⟨.awaiting 0 id [], s⟩)
  | ceased {o : Outcome} (ended : c.callOutcome? n = some o)

/-- What is left of a call after its turn: it waits, or ends with what it was told or with no
answer. -/
theorem Requesting.turn (h : Requesting n c) (sound : Sound c none lost) (mere : Mere c none)
    (first : c.ready.head? = some (.call n)) :
    Requesting n c.turn ∧ ∀ o, c.turn.callOutcome? n = some o → o.isReply →
      ∃ id, c.calls[n]? = some ⟨.awaiting 0 id [], some (.answered o)⟩ := by
  obtain ⟨rest, ready⟩ := List.head?_eq_some_iff.mp first
  obtain ⟨⟨⟩⟩ | ⟨live, told⟩ := sound.queue.canGo (.call n) (by simp [ready])
  obtain ⟨p, s, here⟩ := call_of_told told
  have lt : n < (({ c with ready := rest } : Client).setCall n .running).calls.length := by
    simpa [setCall] using (List.getElem?_eq_some_iff.mp here).1
  have silent {b : Client} {o : Outcome} (lt : n < b.calls.length) (no : o.isReply = false) :
      Requesting n (b.finish n o) ∧ ∀ o', (b.finish n o).callOutcome? n = some o' → o'.isReply →
        ∃ id, c.calls[n]? = some ⟨.awaiting 0 id [], some (.answered o')⟩ := by
    refine ⟨.ceased (callOutcome_finish lt), fun o' ended reply => ?_⟩
    obtain rfl := Option.some.inj ((callOutcome_finish lt).symm.trans ended)
    rw [no] at reply
    cases reply
  rw [turn_call ready here, Option.getD_some]
  cases h with
  | @fresh method params s' here' =>
    obtain ⟨rfl, rfl⟩ : p = .fresh (.sends [.request method params]) ∧ some s = s' := by
      simpa [here] using here'
    rw [resumeCall]
    split
    · exact silent lt rfl
    · have usable : (({ c with ready := rest } : Client).setCall n .running).usableLink = .ok 0 :=
        mere.usableLink
      rw [beginCall]
      obtain ⟨id, waits⟩ | ⟨b, o, e, lt, no⟩ := sendAll_request method params usable lt
      · refine ⟨.waits waits, fun o ended => ?_⟩
        obtain ⟨s', ceased⟩ := callOutcome_eq_some.mp ended
        rw [waits] at ceased
        cases ceased
      · rw [e]
        exact silent lt no
  | @waits id s' here' =>
    obtain ⟨rfl, rfl⟩ : p = .awaiting 0 id [] ∧ some s = s' := by simpa [here] using here'
    have ends {o : Outcome} (told : o.isReply → s = .answered o)
        {b : Client} (lt : n < b.calls.length) :
        Requesting n (b.finish n o) ∧ ∀ o', (b.finish n o).callOutcome? n = some o' → o'.isReply →
          ∃ id, c.calls[n]? = some ⟨.awaiting 0 id [], some (.answered o')⟩ := by
      refine ⟨.ceased (callOutcome_finish lt), fun o' ended reply => ⟨id, ?_⟩⟩
      obtain rfl := Option.some.inj ((callOutcome_finish lt).symm.trans ended)
      rw [here, told reply]
    cases s with
    | answered o =>
      cases o with
      | value j => exact ends (fun _ => rfl) lt
      | _ => exact ends (fun _ => rfl) lt
    | _ => exact ends (fun reply => by cases reply) (by simpa [forget, modifyLink] using lt)
  | @ceased o ended =>
    obtain ⟨s', done⟩ := callOutcome_eq_some.mp ended
    rw [standing, done] at live
    cases live

/-- A call that has no turn has come as far as before. -/
theorem Requesting.kept (h : Requesting n c) (sound : Sound c none lost) (fits : i.Fits c)
    (apart : ¬ (i = .turn ∧ c.ready.head? = some (.call n))) :
    Requesting n (c.step i) ∧ ∀ o, (c.step i).callOutcome? n = some o → c.callOutcome? n = some o := by
  have alive {p : CallPhase} {s : Option Signal} (here : (c.step i).calls[n]? = some ⟨p, s⟩)
      (live : p.isLive) {o : Outcome} (ended : (c.step i).callOutcome? n = some o) :
      c.callOutcome? n = some o := by
    obtain ⟨s', ceased⟩ := callOutcome_eq_some.mp ended
    obtain ⟨rfl, -⟩ : p = .done o ∧ s = s' := by simpa [here] using ceased
    cases live
  cases h with
  | fresh here =>
    obtain ⟨s, here⟩ := call_kept sound fits apart here
    exact ⟨.fresh here, fun o => alive here rfl⟩
  | waits here =>
    obtain ⟨s, here⟩ := call_kept sound fits apart here
    exact ⟨.waits here, fun o => alive here rfl⟩
  | @ceased o ended =>
    obtain ⟨s, here⟩ := callOutcome_eq_some.mp ended
    obtain ⟨s', here⟩ := call_kept sound fits apart here
    have still := callOutcome_eq_some.mpr ⟨s', here⟩
    exact ⟨.ceased still, fun o' ended' => by rwa [← still, ended'] at ended⟩

/-! ## Ids -/

/-- The id of a request. -/
def idOf? (m : Json) : Option Nat :=
  match m.get? "id" with
  | some (.int i) => some i.toNat
  | _ => none

theorem idOf_message {i : Option Nat} {method : String} {params : Json} :
    idOf? (message i method params) = i := by
  rw [idOf?, get_id_message]
  cases i <;> rfl

/-- The ids of the requests that were written over a link. -/
def sentIds (c : Client) (l : Nat) : List Nat := (c.sentTo (c.link l).spawn).filterMap idOf?

/-- Requests have ascending ids, up to the last one that was given. -/
structure Counted (c : Client) (l : Nat) : Prop where
  ascending : (c.sentIds l).Pairwise (· < ·)
  below : ∀ i ∈ c.sentIds l, i ≤ (c.link l).lastId

namespace Counted

theorem congr (h : Counted c l) (same : c₁.sentIds l = c.sentIds l)
    (more : (c.link l).lastId ≤ (c₁.link l).lastId) : Counted c₁ l :=
  ⟨same ▸ h.ascending, fun i mem => Nat.le_trans (h.below i (same ▸ mem)) more⟩

theorem act (h : Counted c 0) (act : Action hit c d c₁ d₁) (mere : Mere c d)
    (q : Queue c (turnOf d)) : Counted c₁ 0 := by
  have here : 0 < c.links.length := by rw [mere.links]; exact Nat.one_pos
  obtain ⟨spawn, more⟩ := act.link_kept here
  have plain {method : String} {params : Json} :
      [message none method params].filterMap idOf? = [] := by
    rw [List.filterMap_cons, idOf_message, List.filterMap_nil]
  obtain same | ⟨l, m, posts, sent, counts⟩ := act.posts
  · exact h.congr (by rw [sentIds, sentIds, spawn, same]) more
  · have ids : c₁.sentIds 0 = c.sentIds 0 ++
        if (c.link 0).spawn = (c.link l).spawn then [m].filterMap idOf? else [] := by
      rw [sentIds, spawn, sent, sentIds]
      split
      · rw [List.filterMap_append]
      · rw [List.append_nil]
    cases posts with
    | tells => exact h.congr (by rw [ids, plain, ite_self, List.append_nil]) more
    | greets => exact h.congr (by rw [ids, greeting, plain, ite_self, List.append_nil]) more
    | @asks x l method params used why =>
      obtain rfl : l = 0 := Option.some.inj (used.symm.trans mere.used)
      have later : (c.link 0).lastId < (c₁.link 0).lastId := counts (by simp [get_id_message]) here
      rw [if_pos rfl, List.filterMap_cons, idOf_message, List.filterMap_nil] at ids
      refine ⟨?_, fun i mem => ?_⟩
      · rw [ids, List.pairwise_append]
        refine ⟨h.ascending, List.pairwise_singleton .., fun i mem j new => ?_⟩
        rw [List.mem_singleton.mp new]
        exact Nat.lt_succ_of_le (h.below i mem)
      · rw [ids, List.mem_append, List.mem_singleton] at mem
        obtain old | rfl := mem
        · exact Nat.le_trans (h.below i old) more
        · exact later

end Counted

theorem invariant_counted : Invariant Always fun c d _ => Mere c d ∧ Counted c 0 := by
  refine ⟨fun sound h act => ⟨act.mere sound.queue sound.bounds h.1, h.2.act act h.1 sound.queue⟩,
    fun {c d lost l id t} _ h _ _ _ => ⟨h.1.lose, h.2.congr ?_ (Nat.le_of_eq lastId_forget.symm)⟩,
    fun _ sound h begins => ⟨begins.mere sound.queue h.1, h.2.congr ?_ ?_⟩⟩
  · have spawn : ((c.forget l id).link 0).spawn = (c.link 0).spawn :=
      link_modifyLink_same Link.spawn fun _ => rfl
    have sent k : (c.forget l id).sentTo k = c.sentTo k := sentTo_congr rfl
    rw [sentIds, sentIds, spawn, sent]
  · rw [sentIds, sentIds, (begins.link_kept 0).1, sentTo_congr begins.frame.2.2.2.1]
  · exact Nat.le_of_eq (begins.link_kept 0).2.symm

theorem Action.lastId_le (act : Action hit c d c₁ d₁) : (c.link l).lastId ≤ (c₁.link l).lastId := by
  by_cases here : l < c.links.length
  · exact (act.link_kept here).2
  · rw [link_of_le (Nat.le_of_not_lt here)]
    exact Nat.zero_le _

theorem Path.lastId_le (path : Path hit c d ls c₁ d₁) :
    (c.link l).lastId ≤ (c₁.link l).lastId := by
  induction path with
  | nil => exact Nat.le_refl _
  | step act _ ih => exact Nat.le_trans act.lastId_le ih
  | loses _ _ _ _ ih => exact Nat.le_trans (Nat.le_of_eq lastId_forget.symm) ih

/-- Who waits for an answer has waited before, or has asked with a new id. -/
theorem Path.expects (path : Path hit c d ls c₁ d₁) (sound : Sound c d lost)
    (waits : (roleBy c₁ d₁ t).expects = some (l, id)) :
    (roleBy c d t).expects = some (l, id) ∨ (c.link l).lastId < id := by
  induction path generalizing lost with
  | nil => exact .inl waits
  | @step c d c₁ d₁ ls c₂ d₂ act _ ih =>
    obtain before | new := ih (act.sound sound) waits
    · obtain before | ⟨x, k, method, params, -, -, e, -⟩ := act.expects sound.queue before
      · exact .inl before
      · cases e
        exact .inr (Nat.lt_succ_self _)
    · exact .inr (Nat.lt_of_le_of_lt act.lastId_le new)
  | @loses c d m i u ls c₂ d₂ idle pending untold _ ih =>
    have kept : ((c.forget m i).link l).lastId = (c.link l).lastId := lastId_forget
    rw [← kept]
    have same : roleBy (c.forget m i) d t = roleBy c d t :=
      roleBy_congr fun t => congrArg Standing.role standing_forget
    rw [← same]
    exact ih (sound.lose idle pending untold) waits

/-- Who waits for an answer after a step has waited before, or has asked with a new id. -/
theorem expects_step (sound : Sound c none lost) (fits : i.Fits c)
    (waits : ((c.step i).role t).expects = some (l, id)) :
    (c.role t).expects = some (l, id) ∨ (c.link l).lastId < id := by
  obtain path | ⟨rest, c₁, d, begins, path⟩ := path_step sound.fit i fits
  · exact path.expects sound waits
  · obtain before | new := path.expects (begins.sound sound) waits
    · exact .inl (begins.expects before).2
    · rw [(begins.link_kept l).2] at new
      exact .inr new

theorem lastId_step (sound : Sound c none lost) (fits : i.Fits c) :
    (c.link l).lastId ≤ ((c.step i).link l).lastId := by
  obtain path | ⟨rest, c₁, d, begins, path⟩ := path_step sound.fit i fits
  · exact path.lastId_le
  · exact Nat.le_trans (Nat.le_of_eq (begins.link_kept l).2.symm) path.lastId_le

/-- Who waits for an answer after a run has waited before, or has asked with a new id. -/
theorem expects_run (sound : Sound c none lost) (fits : ∀ i ∈ inputs, i.Fits c)
    (waits : ((c.run inputs).role t).expects = some (l, id)) :
    (c.role t).expects = some (l, id) ∨ (c.link l).lastId < id := by
  induction inputs generalizing c lost with
  | nil => exact .inl waits
  | cons i inputs ih =>
    have fit := fits i (by simp)
    obtain ⟨sound₁, -⟩ := invariant_true.step trivial fit sound trivial
    have fits₁ j (mem : j ∈ inputs) : j.Fits (c.step i) :=
      (fits j (by simp [mem])).congr (audience_step sound.fit fit)
    obtain before | new := ih sound₁ fits₁ waits
    · exact expects_step sound fit before
    · exact .inr (Nat.lt_of_le_of_lt (lastId_step sound fit) new)

/-! ## Messages -/

/-- The call waits for the answer to its request with the given id. -/
def InFlight (c : Client) (n id : Nat) : Prop := (c.role (.call n)).expects = some (0, id)

instance : Decidable (c.InFlight n id) :=
  inferInstanceAs (Decidable ((c.role (.call n)).expects = some (0, id)))

/-- A message tells something to one caller at most. -/
theorem dispatch_tells_one (m : Json) : ∃ u, ∀ t, t.isCaller → t ≠ u →
    (c.dispatch l m).1.standing t = c.standing t := by
  cases dispatched (c := c) (l := l) (m := m) with
  | nobody _ _ same => exact ⟨.relay 0, fun t caller _ => same t caller⟩
  | @sender i u r _ _ _ told => exact ⟨u, fun t caller apart => by
      rw [told t caller, if_neg fun h => apart h.1]⟩

/-- An answer to nothing that is pending is dropped. -/
theorem dispatch_strange {m j key : Json} {ms : Json.Members}
    (sorted : Incoming.ofJson m = .ok (.response j ms)) (hashes : j.asKey = .ok key)
    (strange : ∀ p ∈ (c.link l).pending, isId j p.1 = false) :
    c.dispatch l m = (c.dropResponse j, none) := by
  have nothing : pendingOf? (c.link l) j = none :=
    List.find?_eq_none.mpr fun p mem => by simpa using strange p mem
  rw [dispatch, sorted]
  dsimp only
  rw [handleResponse, hashes]
  dsimp only
  rw [nothing]

/-- Only calls wait for answers over a mere connection. -/
theorem Requests.inFlight (r : Requests c none lost) (mere : Mere c none)
    (mem : (id, t) ∈ (c.link 0).pending) : ∃ n, t = .call n ∧ c.InFlight n id := by
  have expects : (c.role t).expects = some (0, id) := r.pending 0 id t mem
  cases t with
  | call n => exact ⟨n, rfl, expects⟩
  | attempt n =>
    simp [role, standing, mere.attempts, Standing.absent, Role.idle] at expects
  | _ => cases expects

/-- A call that has ended waits for nothing. -/
theorem not_inFlight (ended : c.callOutcome? n = some o) : ¬ c.InFlight n id := by
  obtain ⟨s, here⟩ := callOutcome_eq_some.mp ended
  rw [InFlight, role, standing_of_call here]
  exact Option.some_ne_none _ ∘ Eq.symm

/-! ## Runs -/

section Connection

variable {name : String} {policy : Policy} {observed : Bool} {before after : List Input}

theorem mere_run (fits : ∀ i ∈ before ++ rest, i.Fits (ofProcess name policy observed)) :
    let c := (ofProcess name policy observed).run before
    (∃ lost, Sound c none lost ∧ ∀ l id n, ⟨l, id, .call n⟩ ∈ lost → Lingers n l id c none) ∧
      Mere c none ∧ ∀ i ∈ rest, i.Fits c := by
  have fits' i (h : i ∈ before) : i.Fits (ofProcess name policy observed) :=
    fits i (List.mem_append_left _ h)
  obtain ⟨sound, mere, lingers⟩ :=
    invariant_lingers.run throughout_always fits' sound_ofProcess ⟨mere_ofProcess, nofun⟩
  exact ⟨⟨_, sound, lingers⟩, mere, fun i h =>
    (fits i (List.mem_append_right _ h)).congr (audience_run sound_ofProcess fits')⟩

/-- Who waits for an answer to a pending request has not lost it. -/
theorem not_lost {lost : List Loss}
    (lingers : ∀ l id n, ⟨l, id, .call n⟩ ∈ lost → Lingers n l id c none)
    (waits : (c.role (.call n)).expects.isSome) (pending : (id, .call n) ∈ (c.link l).pending) :
    ⟨l, id, .call n⟩ ∉ lost := by
  intro mem
  cases lingers l id n mem with
  | waits _ _ _ gone => exact gone pending
  | ceased _ ended =>
    obtain ⟨s, here⟩ := callOutcome_eq_some.mp ended
    simp [role, standing, here, Call.standing, CallPhase.role, Role.idle] at waits

/-- A call has asked for something in its last turn, after which the others went on. -/
structure Asked (c : Client) (n id : Nat) (before between : List Input) : Prop where
  turn : ∃ pre, before = pre ++ [.turn] ∧ (c.run pre).ready.head? = some (.call n)
  asks : (c.run before).InFlight n id
  since : ∀ pre post, between = pre ++ .turn :: post →
    (c.run (before ++ pre)).ready.head? ≠ some (.call n)

/-- Who waits for an answer has asked for it in its last turn, and knows what was heard since. -/
theorem asked_run (fits : ∀ i ∈ inputs, i.Fits (ofProcess name policy observed))
    (expects : (((ofProcess name policy observed).run inputs).role (.call n)).expects = some (l, id)) :
    l = 0 ∧ ∃ before between, inputs = before ++ between ∧
      Asked (ofProcess name policy observed) n id before between ∧
      Knows 0 id (.call n) (((ofProcess name policy observed).run before).heard 0 between)
        ((ofProcess name policy observed).run inputs) := by
  induction inputs using List.reverseRecOn with
  | nil =>
    have role : ((ofProcess name policy observed).run []).role (.call n) = .idle :=
      congrArg Standing.role standing_ofProcess
    rw [role] at expects
    cases expects
  | append_singleton inputs i ih =>
    have fits' i (h : i ∈ inputs) := fits i (List.mem_append_left _ h)
    obtain ⟨⟨lost, sound, lingers⟩, mere, later⟩ := mere_run fits
    have fit := later i (by simp)
    have step : (ofProcess name policy observed).run (inputs ++ [i]) =
        ((ofProcess name policy observed).run inputs).step i := run_append
    rw [step] at expects ⊢
    by_cases own : i = .turn ∧ ((ofProcess name policy observed).run inputs).ready.head? = some (.call n)
    · obtain ⟨rfl, head⟩ := own
      have knows := Knows.begin sound head expects
      obtain ⟨sound₁, mere₁⟩ := invariant_mere.step trivial fit sound mere
      obtain rfl : l = 0 := by
        by_contra other
        obtain ⟨pos, le⟩ := sound₁.requests.known (.call n) l id expects
        rw [link_of_le (by rw [mere₁.links]; omega)] at le
        exact absurd pos (Nat.not_lt.mpr le)
      refine ⟨rfl, inputs ++ [.turn], [], by simp, ⟨⟨inputs, rfl, head⟩, ?_, ?_⟩, knows⟩
      · rwa [step]
      · intro pre post e
        simp at e
    · have waits : (((ofProcess name policy observed).run inputs).role (.call n)).expects =
          some (l, id) := by
        have same := role_before sound fit own (by rw [expects]; rfl)
        rwa [same] at expects
      obtain ⟨rfl, before, between, rfl, asked, knows⟩ := ih fits' waits
      refine ⟨rfl, before, between ++ [i], List.append_assoc .., ⟨asked.turn, asked.asks, ?_⟩, ?_⟩
      · intro pre post e head
        obtain rfl | ⟨post, j, rfl⟩ := List.eq_nil_or_concat post
        · obtain ⟨rfl, rfl⟩ : between = pre ∧ i = .turn := by simpa using e
          exact own ⟨rfl, head⟩
        · have e : between ++ [i] = (pre ++ .turn :: post) ++ [j] := by simpa using e
          exact asked.since pre post (List.append_inj_left' e rfl) head
      · rw [heard_append, ← run_append, heard, heard, List.append_nil]
        exact knows.step sound mere (not_lost lingers (by rw [waits]; rfl)) fit
          fun turn head => own ⟨turn, head⟩

/-- What has become of a call that sends one request: if it has ended with an answer, the first
answer to its request that was read while it waited is the one. -/
theorem requesting_run {method : String} {params : Json}
    (fits : ∀ i ∈ before ++ .call (.sends [.request method params]) :: after,
      i.Fits (ofProcess name policy observed)) :
    let first := ofProcess name policy observed
    let inputs := before ++ .call (.sends [.request method params]) :: after
    let n := (first.run before).calls.length
    Requesting n (first.run inputs) ∧
      ∀ o, (first.run inputs).callOutcome? n = some o → o.isReply →
        ∃ id asked between later, inputs = asked ++ between ++ later ∧
          Asked first n id asked between ∧
          ((first.run asked).heard 0 between).findSome? (answerTo? id) = some (.ok o) := by
  induction after using List.reverseRecOn with
  | nil =>
    intro first inputs n
    have new : (first.run inputs).calls[n]? =
        some ⟨.fresh (.sends [.request method params]), some .go⟩ := by
      simp [inputs, run, Client.step, addCall, push, n]
    refine ⟨.fresh new, fun o ended => ?_⟩
    obtain ⟨s, ceased⟩ := callOutcome_eq_some.mp ended
    rw [new] at ceased
    cases ceased
  | append_singleton after i ih =>
    intro first inputs n
    have e : inputs = (before ++ .call (.sends [.request method params]) :: after) ++ [i] := by
      simp [inputs]
    rw [← List.cons_append, ← List.append_assoc] at fits
    obtain ⟨requesting, answered⟩ := ih fun i mem => fits i (List.mem_append_left _ mem)
    obtain ⟨⟨lost, sound, -⟩, mere, later⟩ := mere_run fits
    have fit := later i (by simp)
    have step : first.run inputs =
        (first.run (before ++ .call (.sends [.request method params]) :: after)).step i := by
      rw [e, run_append]
      rfl
    rw [step]
    by_cases own : i = .turn ∧ (first.run
        (before ++ .call (.sends [.request method params]) :: after)).ready.head? = some (.call n)
    · obtain ⟨rfl, head⟩ := own
      obtain ⟨goes, ends⟩ := requesting.turn sound mere head
      refine ⟨goes, fun o ended reply => ?_⟩
      obtain ⟨id, here⟩ := ends o ended reply
      have standing := standing_of_call here
      have expects : ((first.run (before ++ .call (.sends [.request method params]) :: after)).role
          (.call n)).expects = some (0, id) := congrArg (·.role.expects) standing
      obtain ⟨-, asked, between, split, asks, knows⟩ :=
        asked_run (fun i mem => fits i (List.mem_append_left _ mem)) expects
      refine ⟨id, asked, between, [.turn], by rw [e, split], asks, ?_⟩
      exact knows.why (congrArg Standing.told standing) reply
    · obtain ⟨goes, ends⟩ := requesting.kept sound fit own
      refine ⟨goes, fun o ended reply => ?_⟩
      obtain ⟨id, asked, between, later, split, rest⟩ := answered o (ends o ended) reply
      exact ⟨id, asked, between, later ++ [i], by rw [e, split, List.append_assoc], rest⟩

/-- How answers and calls find each other over a connection, up to some moment. -/
structure Correlates (first : Client) (inputs : List Input) : Prop where
  /-- Requests are written with ascending ids. -/
  ascending : ((first.run inputs).sentIds 0).Pairwise (· < ·)
  /-- No call has the id of another one. -/
  own : ∀ earlier later n m id, inputs = earlier ++ later → (first.run earlier).InFlight n id →
    (first.run inputs).InFlight m id → n = m
  /-- A call that ended with an answer got the first one that was read while it waited. -/
  answered : ∀ before after method params o,
    inputs = before ++ .call (.sends [.request method params]) :: after →
    (first.run inputs).callOutcome? (first.run before).calls.length = some o → o.isReply →
    ∃ id asked between later, inputs = asked ++ between ++ later ∧
      Asked first (first.run before).calls.length id asked between ∧
      ((first.run asked).heard 0 between).findSome? (answerTo? id) = some (.ok o)
  /-- A message tells something to one call at most. -/
  one : ∀ m, ∃ u : Task, ∀ n, u ≠ .call n →
    ((first.run inputs).dispatch 0 m).1.standing (.call n) = (first.run inputs).standing (.call n)
  /-- An answer to a request of no call is dropped, unless its id cannot be one. -/
  strange : ∀ m j ms key, Incoming.ofJson m = .ok (.response j ms) → j.asKey = .ok key →
    (∀ n id, (first.run inputs).InFlight n id → isId j id = false) →
    (first.run inputs).dispatch 0 m = ((first.run inputs).dropResponse j, none)
  /-- The requests of a call that has ended are not pending. -/
  gone : ∀ n o id, (first.run inputs).callOutcome? n = some o →
    (id, .call n) ∉ ((first.run inputs).link 0).pending

/-- Over a connection every answer is for the call whose request it names. -/
theorem answers_find_requests (fits : ∀ i ∈ inputs, i.Fits (ofProcess name policy observed)) :
    Correlates (ofProcess name policy observed) inputs := by
  have whole : ∀ i ∈ inputs ++ [], i.Fits (ofProcess name policy observed) := by
    rwa [List.append_nil]
  obtain ⟨⟨lost, sound, -⟩, mere, -⟩ := mere_run whole
  refine ⟨?_, ?_, ?_, fun m => ?_, ?_, ?_⟩
  · have none' : Counted (ofProcess name policy observed) 0 := ⟨List.Pairwise.nil, nofun⟩
    exact (invariant_counted.run throughout_always fits sound_ofProcess
      ⟨mere_ofProcess, none'⟩).2.2.ascending
  · rintro earlier later n m id rfl first second
    obtain ⟨⟨lost, sound, -⟩, -, fits'⟩ := mere_run fits
    rw [run_append] at second
    obtain before | new := expects_run sound fits' second
    · exact Task.call.inj (sound.requests.own _ _ _ first before)
    · exact absurd (sound.requests.known _ 0 id first).2 (Nat.not_le.mpr new)
  · rintro before after method params o rfl ended reply
    exact (requesting_run fits).2 o ended reply
  · obtain ⟨u, one⟩ := dispatch_tells_one (c := (ofProcess name policy observed).run inputs)
      (l := 0) m
    exact ⟨u, fun n apart => one (.call n) rfl (Ne.symm apart)⟩
  · intro m j ms key sorted hashes strange
    refine dispatch_strange sorted hashes fun p mem => ?_
    obtain ⟨n, -, inFlight⟩ := sound.requests.inFlight mere mem
    exact strange n p.1 inFlight
  · intro n o id ended mem
    obtain ⟨m, e, inFlight⟩ := sound.requests.inFlight mere mem
    obtain rfl := Task.call.inj e
    exact not_inFlight ended inFlight

end Connection

/-- Two requests that are answered in the other order. -/
def outOfOrder : List Input :=
  [.call .listen, .turn, .turn, .call (.sends [.request "a" .null]),
    .call (.sends [.request "b" .null]), .turn, .turn,
    .output (Wire.encode (.obj [("id", .int 2), ("result", .str "b")])),
    .output (Wire.encode (.obj [("id", .int 1), ("result", .str "a")])), .turn, .turn, .turn]

theorem answers_find_requests_outOfOrder :
    Correlates (ofProcess "lsp" default false) outOfOrder ∧
      ((ofProcess "lsp" default false).run outOfOrder).callOutcome? 1 = some (.value (.str "a")) ∧
      ((ofProcess "lsp" default false).run outOfOrder).callOutcome? 2 = some (.value (.str "b")) :=
  ⟨answers_find_requests (by decide +kernel), by decide +kernel, by decide +kernel⟩

/-- A listener waits, and a call for the answer to its request. -/
def waiting : List Input :=
  [.call .listen, .turn, .turn, .call (.sends [.request "m" .null]), .turn]

/-- An answer to nothing whose id is a list. -/
def listedId : Json := .obj [("id", .arr [.int 7]), ("result", .null)]

/-- An answer to no request ends the listener, and the call that waits, if its id is a list. -/
theorem request_fails_listedId :
    Incoming.ofJson listedId =
      .ok (.response (.arr [.int 7]) [("id", .arr [.int 7]), ("result", .null)]) ∧
    ((ofProcess "lsp" default false).run waiting).InFlight 1 1 ∧
    isId (.arr [.int 7]) 1 = false ∧
    ((ofProcess "lsp" default false).run
      (waiting ++ [.output (Wire.encode listedId), .turn, .turn])).callOutcome? 1 =
        some (.error (.ended .deliberate)) ∧
    ((ofProcess "lsp" default false).run (waiting ++ [.turn, .turn])).callOutcome? 1 = none := by
  decide +kernel

end LspGateway.Client
