import LspGateway.Proofs.Client.Heeding

/-! # What a client knows of its server

A client that is ready knows what its server can do, and no other client does. It was told by
the process that was started last, in the answer to the first request to that process.
-/

namespace LspGateway.Client

variable {hit : Nat → Prop} {c c₁ b : Client} {d d₁ : Option Doer} {lost : List Loss} {x y : Doer}
  {l k n id : Nat} {i : Input} {inputs : List Input} {rest : List Task}

/-- What a client uses belongs to the process that was started last, and what it knows is
forgotten before another one is started. -/
structure Current (c : Client) (d : Option Doer) : Prop where
  process : ∀ k, c.held.process = some k → k + 1 = c.links.length
  connection : ∀ k, c.held.connection = some k → c.held.process = some k
  /-- Nothing is connected while the attempt that callers share takes something down. -/
  clear : ∀ n, c.attempt = some n → (roleBy c d (.attempt n)).teardown.isSome →
    c.held.connection = none
  found : ∀ x n, d = some x → x.task = .attempt n → c.attempt = some n → x.found.connection = none
  ready : c.capabilities ≠ .null → c.state = .ready
  /-- Callers of a client that is ready share no attempt that goes on. -/
  quiet : c.state = .ready → ∀ n, c.IsLive n → c.attempt ≠ some n

namespace Current

theorem act_process (h : Current c d) (act : Action hit c d c₁ d₁) (k : Nat)
    (used : c₁.held.process = some k) : k + 1 = c₁.links.length := by
  obtain length | ⟨ps, p, rfl, -⟩ := act.links_cases
  · rw [length]
    obtain ⟨same, -⟩ | ⟨x, -, -, rfl, -⟩ | ⟨x, n, ps, p, -, -, -, rfl, -⟩ := act.held_cases
    · exact h.process k (same.symm.trans used)
    · cases used
    · simp [addLink] at length
  · obtain rfl := Option.some.inj used
    simp [addLink]

/-- An attempt connects only when nothing else is connected. -/
theorem unused (h : Current c (some x)) (task : x.task = .attempt n) (shared : c.attempt = some n)
    (clear : c.held = .nothing ∨ c.held = x.found) : c.held.connection = none := by
  obtain nothing | found := clear
  · rw [nothing]
    rfl
  · rw [found]
    exact h.found x n rfl task shared

theorem act_connection (h : Current c d) (handshake : Handshake c d) (act : Action hit c d c₁ d₁)
    (k : Nat) (used : c₁.held.connection = some k) : c₁.held.process = some k := by
  have old (same : c₁.held = c.held) : c₁.held.process = some k := by
    rw [same] at used ⊢
    exact h.connection k used
  cases act with
  | @connects x n task done starts cold ps p clear =>
    have unused := h.unused task ((handshake.turn x rfl).leads n task starts) clear
    change (if p.hasInput then some c.links.length else c.held.connection) = some k at used
    rw [unused] at used
    split at used
    · exact used
    · cases used
  | takes how =>
    cases how with
    | releases => cases used
    | _ => exact old rfl
  | drains => exact h.connection k used
  | _ => exact old rfl

theorem act_clear (h : Current c d) (handshake : Handshake c d) (q : Queue c (turnOf d))
    (bounds : Bounds c d) (act : Action hit c d c₁ d₁) (n : Nat) (shared : c₁.attempt = some n)
    (takes : (roleBy c₁ d₁ (.attempt n)).teardown.isSome) : c₁.held.connection = none := by
  -- The attempt was shared and took something down before, or lets go of everything now.
  obtain nothing | ⟨same, before⟩ : c₁.held = .nothing ∨
      c.attempt = some n ∧ (roleBy c d (.attempt n)).teardown.isSome := by
    obtain same | ⟨x, u, rfl, task, rfl, how⟩ := act.teardown_eq q (.attempt n)
    · rw [same] at takes
      refine .inr ⟨?_, takes⟩
      cases act with
      | shares =>
        -- A new attempt takes nothing down.
        obtain rfl : c.attempts.length = n := Option.some.inj shared
        have idle : c.role (.attempt c.attempts.length) = .idle := by
          simp [role, standing, Standing.absent]
        rw [roleBy] at takes
        split at takes
        · next own => exact absurd (own ▸ (q.apart _ rfl).2.1) (Nat.lt_irrefl _)
        · rw [idle] at takes
          cases takes
      | disposes | detaches => cases shared
      | takes how =>
        rw [how.frame] at shared
        exact shared
      | _ => exact shared
    · rw [roleBy_self (y := x.takeDown u) task] at takes
      have before := act.attempt_eq bounds task ▸ shared
      cases how with
      | releases => exact .inl rfl
      | closes idle errand =>
        have call := bounds.calls x.task (by simp [roleBy_self rfl, errand])
        rw [task] at call
        cases call
      | advances taken => exact .inr ⟨before, by rw [roleBy_self task, taken]; rfl⟩
      | settles | abandons => cases takes
  · rw [nothing]
    rfl
  · cases act with
    | @connects x m task done starts =>
      have leads := (handshake.turn x rfl).leads m task starts
      obtain rfl := Option.some.inj (leads.symm.trans same)
      rw [roleBy_self task, done.teardown] at before
      cases before
    | takes how =>
      cases how with
      | releases => rfl
      | _ => exact h.clear n same before
    | _ => exact h.clear n same before

theorem act_found (h : Current c d) (b : Bounds c d) (act : Action hit c d c₁ d₁) (y : Doer)
    (n : Nat) (turn : d₁ = some y) (task : y.task = .attempt n) (shared : c₁.attempt = some n) :
    y.found.connection = none := by
  subst turn
  cases d with
  | none => cases act.none_eq
  | some x =>
    have own := act.task_eq.1.symm.trans task
    rw [act.found_eq]
    exact h.found x n rfl own (act.attempt_eq b own ▸ shared)

theorem act_ready (h : Current c d) (handshake : Handshake c d) (sharing : Sharing c d)
    (act : Action hit c d c₁ d₁) (known : c₁.capabilities ≠ .null) : c₁.state = .ready := by
  cases act with
  | @startsUp x n task early down go =>
    have shared := handshake.shared_early task early go
    exact absurd shared (h.quiet (h.ready known) n (sharing.turn n (congrArg some task)))
  | fallsBack | givesUp | resets => exact absurd rfl known
  | succeeds => rfl
  | takes how =>
    rw [how.frame] at known ⊢
    exact h.ready known
  | _ => exact h.ready known

theorem act_quiet (h : Current c d) (handshake : Handshake c d) (sharing : Sharing c d)
    (act : Action hit c d c₁ d₁) (ready : c₁.state = .ready) (n : Nat) (live : c₁.IsLive n) :
    c₁.attempt ≠ some n := by
  obtain before | ⟨rfl, -, cold⟩ := act.isLive sharing.turn live
  · cases act with
    | startsUp | fallsBack | givesUp | resets => cases ready
    | shares _ cold => exact absurd ready cold
    | disposes | detaches => nofun
    | @succeeds x m l k id j task done greeted asked agreed used =>
      intro shared
      obtain ⟨same, -⟩ := handshake.succeeds task greeted asked agreed used
      obtain rfl := Option.some.inj (same.symm.trans shared)
      have ceased := attemptOutcome_put (m := m) (a := ⟨.done .done, none⟩) before.1
      rw [if_pos rfl] at ceased
      exact absurd (live.2.symm.trans ceased) nofun
    | takes how =>
      rw [how.frame] at ready ⊢
      exact h.quiet ready n before
    | _ => exact h.quiet ready n before
  · exact absurd ready cold

theorem act (h : Current c d) (handshake : Handshake c d) (sharing : Sharing c d)
    (q : Queue c (turnOf d)) (b : Bounds c d) (act : Action hit c d c₁ d₁) : Current c₁ d₁ :=
  ⟨h.act_process act, h.act_connection handshake act, h.act_clear handshake q b act,
    h.act_found b act, h.act_ready handshake sharing act, h.act_quiet handshake sharing act⟩

theorem lose (h : Current c d) : Current (c.forget l id) d := by
  have role u : roleBy (c.forget l id) d u = roleBy c d u :=
    roleBy_congr fun u => congrArg Standing.role standing_forget
  have length : (c.forget l id).links.length = c.links.length := links_length_modifyLink _
  refine ⟨fun k used => length ▸ h.process k used, h.connection, fun n shared takes => ?_, h.found,
    h.ready, h.quiet⟩
  rw [role] at takes
  exact h.clear n shared takes

end Current

theorem Begins.current {rest : List Task} (begins : Begins c rest c₁ d) (h : Current c none) :
    Current c₁ d := by
  obtain ⟨held, -, state, -, length⟩ := begins.frame
  obtain ⟨attempts, attempt, outcome, -⟩ := begins.outcome
  have known : c₁.capabilities = c.capabilities := by cases begins <;> rfl
  have clear n (shared : c₁.attempt = some n)
      (takes : (roleBy c₁ d (.attempt n)).teardown.isSome) : c.held.connection = none := by
    refine h.clear n (attempt ▸ shared) ?_
    obtain same | ⟨-, same⟩ := begins.role (.attempt n) <;> rw [same] at takes <;> exact takes
  refine ⟨?_, ?_, ?_, ?_, ?_, ?_⟩
  · rw [held, length]
    exact h.process
  · rw [held]
    exact h.connection
  · rw [held]
    exact clear
  · rintro x n rfl task shared
    cases begins with
    | @attempt m p s ready here live =>
      cases p with
      | clearing t =>
        refine clear n shared ?_
        rw [roleBy_self task]
        rfl
      | _ => rfl
    | _ => rfl
  · rw [known, state]
    exact h.ready
  · rw [state, attempt]
    intro ready n live
    rw [IsLive, attempts, outcome] at live
    exact h.quiet ready n live

theorem invariant_current :
    Invariant Heeded fun c d _ => (Sharing c d ∧ Handshake c d) ∧ Current c d :=
  ⟨fun sound h act => ⟨invariant_handshake.acts sound h.1 act,
      h.2.act h.1.2 h.1.1 sound.queue sound.bounds act⟩,
    fun sound h idle pending untold =>
      ⟨invariant_handshake.loses (t := _) sound h.1 idle pending untold, h.2.lose⟩,
    fun heeded sound h begins =>
      ⟨invariant_handshake.begins heeded sound h.1 begins, begins.current h.2⟩⟩

/-! ## What the server has told -/

/-- What a client knows it knew when the turn began, or it is what an attempt was told by the
process that was started last. -/
def Learns (b c : Client) : Prop :=
  c.capabilities ≠ .null →
    c.capabilities = b.capabilities ∧ c.links.length = b.links.length ∨
    ∃ n k v, (b.role (.attempt n)).expects = some (k, 1) ∧
      b.told (.attempt n) = some (.answered (.value v)) ∧
      capabilitiesOf v = .ok c.capabilities ∧ k + 1 = c.links.length

theorem Learns.act (h : Learns b c) (current : Current c d) (handshake : Handshake c d)
    (confirms : Confirms b c d) (act : Action hit c d c₁ d₁) : Learns b c₁ := by
  intro known
  have length : c₁.links.length = c.links.length := by
    obtain same | ⟨ps, p, rfl, cold⟩ := act.links_cases
    · exact same
    · cases (current.ready known).symm.trans cold
  rw [length]
  cases act with
  | fallsBack | givesUp | resets => exact absurd rfl known
  | @succeeds x n l k id j task done greeted asked agreed used up caps shape =>
    obtain ⟨-, rfl, rfl⟩ := handshake.succeeds task greeted asked agreed used
    obtain ⟨waits, told⟩ := confirms.turn x n rfl task
    exact .inr ⟨n, l, j, waits ▸ asked, told.trans (congrArg some agreed), shape,
      current.process l (current.connection l used)⟩
  | takes how =>
    rw [how.frame] at known ⊢
    exact h known
  | _ => exact h known

theorem invariant_learns : Invariant Never fun c d _ =>
    (((Sharing c d ∧ Handshake c d) ∧ Confirms b c d) ∧ Current c d) ∧ Learns b c :=
  ⟨fun sound ⟨⟨confirms, current⟩, learns⟩ act =>
      ⟨⟨invariant_confirms.acts sound confirms act,
          current.act confirms.1.2 confirms.1.1 sound.queue sound.bounds act⟩,
        learns.act current confirms.1.2 confirms.2 act⟩,
    fun sound ⟨⟨confirms, current⟩, learns⟩ idle pending untold =>
      ⟨⟨invariant_confirms.loses (t := _) sound confirms idle pending untold, current.lose⟩,
        fun known => by
          rw [show (forget _ _ _).links.length = _ from links_length_modifyLink _]
          exact learns known⟩,
    fun given => given.elim⟩

/-- What a client comes to know in a step it is told by the process that was started last. -/
theorem Current.learns_step (current : Current c none) (h : Handshake c none) (heeded : Heeded c)
    (sound : Sound c none lost) (sharing : Sharing c none) (fits : i.Fits c) :
    Learns c (c.step i) := by
  obtain path | ⟨rest, c₁, d, begins, path⟩ := path_step sound.fit i fits
  · obtain ⟨-, -, learns⟩ := invariant_learns.path path sound
      ⟨⟨⟨⟨sharing, h⟩, confirms_self⟩, current⟩, fun _ => .inl ⟨rfl, rfl⟩⟩
    exact learns
  · have known : c₁.capabilities = c.capabilities := by cases begins <;> rfl
    obtain ⟨-, -, learns⟩ := invariant_learns.path path (begins.sound sound)
      ⟨⟨⟨invariant_handshake.begins heeded sound ⟨sharing, h⟩ begins, begins.confirms⟩,
        begins.current current⟩, fun _ => .inl ⟨known, begins.frame.2.2.2.2⟩⟩
    exact learns

/-! ## Runs -/

theorem capabilitiesOf_eq_ok {v j : Json} : capabilitiesOf v = .ok j ↔
    if v.truthy then ∃ ms : Json.Members, v = .obj ms ∧ j = (ms.get? "capabilities").getD (.obj [])
    else j = .obj [] := by
  unfold capabilitiesOf
  split
  · cases v <;> simp [Json.asObject, eq_comm]
  · simp [eq_comm]

section Run

variable {config : ServerConfig} {workspace : String} {policies : List Policy}

/-- What a client knows in a run was told by the process of a link, the last that was started. -/
structure Informed (c : Client) (inputs : List Input) (l : Nat) : Prop where
  last : l + 1 = (c.run inputs).links.length
  /-- The client uses no other process, and stops using this one only when it is disposed. -/
  only : ∀ k, (c.run inputs).held.process = some k ∨ (c.run inputs).held.connection = some k → k = l
  used : (c.run inputs).held.process = some l ∧ (c.run inputs).held.connection = some l ∨
    ∃ t, ((c.run inputs).role t).disposes
  /-- An answer was read from the process when it had been sent the first request alone. -/
  told : ∃ before i after, inputs = before ++ i :: after ∧ l < (c.run before).links.length ∧
    (c.run before).sentTo ((c.run before).link l).spawn = [c.opening] ∧
    ∃ m ∈ (c.run before).received l i, ∃ v, answerTo? 1 m = some (.ok (.value v)) ∧
      if v.truthy then ∃ ms : Json.Members, v = .obj ms ∧
        (c.run inputs).capabilities = (ms.get? "capabilities").getD (.obj [])
      else (c.run inputs).capabilities = .obj []

theorem current_ofConfig : Current (ofConfig config workspace policies) none where
  process k used := by cases used
  connection k used := by cases used
  clear n shared := by cases shared
  found x n turn := by cases turn
  ready known := absurd rfl known
  quiet ready := by cases ready

theorem current_run (fits : ∀ i ∈ inputs, i.Fits (ofConfig config workspace policies))
    (notices : (ofConfig config workspace policies).Notices inputs) :
    Current ((ofConfig config workspace policies).run inputs) none := by
  have heeded : (ofConfig config workspace policies).Throughout inputs Heeded := by
    rintro before i after rfl
    exact (handshake_run (fun i h => fits i (List.mem_append_left _ h)) notices.left).2
  exact (invariant_current.run heeded fits sound_ofConfig
    ⟨⟨serving_ofConfig.1, handshake_ofConfig⟩, current_ofConfig⟩).2.2

theorem informed_run (fits : ∀ i ∈ inputs, i.Fits (ofConfig config workspace policies))
    (notices : (ofConfig config workspace policies).Notices inputs)
    (known : ((ofConfig config workspace policies).run inputs).capabilities ≠ .null) :
    ∃ l, l + 1 = ((ofConfig config workspace policies).run inputs).links.length ∧
      ∃ before i after, inputs = before ++ i :: after ∧
        l < ((ofConfig config workspace policies).run before).links.length ∧
        Introduced ((ofConfig config workspace policies).run before) l ∧
        ∃ m ∈ ((ofConfig config workspace policies).run before).received l i,
          ∃ v, answerTo? 1 m = some (.ok (.value v)) ∧
            capabilitiesOf v =
              .ok ((ofConfig config workspace policies).run inputs).capabilities := by
  induction inputs using List.reverseRecOn with
  | nil => exact absurd rfl known
  | append_singleton inputs i ih =>
    have fits' j (h : j ∈ inputs) := fits j (List.mem_append_left _ h)
    obtain ⟨⟨_, sound⟩, sharing, -, later⟩ := sharing_run fits
    obtain ⟨handshake, heeded⟩ := handshake_run fits' notices.left
    have learns := (current_run fits' notices.left).learns_step handshake heeded sound sharing
      (later i (by simp))
    rw [run_append, run_cons] at known ⊢
    obtain ⟨same, length⟩ | ⟨n, l, v, waits, told, offers, last⟩ := learns known
    · obtain ⟨l, last, before, j, after, rfl, rest⟩ := ih fits' notices.left (same ▸ known)
      exact ⟨l, last.trans length.symm, before, j, after ++ [i], by simp, by rwa [← same] at rest⟩
    · obtain ⟨before, j, after, rfl, waits, m, heard, answer⟩ := answered_run fits' waits told rfl
      obtain ⟨introduced, -⟩ := handshake_run (fun i h => fits' i (List.mem_append_left _ h))
        notices.left.left
      obtain ⟨-, here, only⟩ := introduced.opens n l 1 waits
      exact ⟨l, last, before, j, after ++ [i], by simp, here, only, m, heard, v, answer, offers⟩

end Run

/-- The server agrees to be started, and tells what it can do. -/
def offering (name : String) : List Input :=
  [.output (Wire.encode (.obj [("id", .int 1),
    ("result", .obj [("capabilities", .obj [(name, .bool true)])])])), .turn, .turn, .turn, .turn]

/-- The server leaves, and is started again. -/
def restarting : List Input :=
  spawning ++ offering "a" ++ [.outputEnd, .turn, .turn] ++ spawning ++ offering "b"

end LspGateway.Client
