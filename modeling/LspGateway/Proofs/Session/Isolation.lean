import LspGateway.Proofs.Session.Course

/-! # Clients are isolated from each other

A client goes through the same values in every session in which the same happens to it and the same
time passes, whatever happens to the other clients and whatever they do.
-/

namespace LspGateway

/-! ## What a client goes through -/

namespace Client

variable {c : Client} {k m n : Nat} {fs gs : List (Client → Client)}

/-- One thing after another is done to a client. -/
def undergo (c : Client) (fs : List (Client → Client)) : Client := fs.foldl (fun c f => f c) c

/-- The values that a client takes when one thing after another is done to it. -/
def changes (c : Client) : List (Client → Client) → List Client
  | [] => []
  | f :: fs => if f c = c then changes c fs else f c :: changes (f c) fs

theorem undergo_append : c.undergo (fs ++ gs) = (c.undergo fs).undergo gs := List.foldl_append

theorem changes_append : c.changes (fs ++ gs) = c.changes fs ++ (c.undergo fs).changes gs := by
  induction fs generalizing c with
  | nil => rfl
  | cons f fs ih =>
    rw [List.cons_append, changes, changes, ih, ih]
    by_cases same : f c = c
    · rw [if_pos same, if_pos same]
      exact congrArg _ (congrArg (fun b => (Client.undergo b fs).changes gs) same.symm)
    · rw [if_neg same, if_neg same]
      rfl

/-- Nothing but turns. -/
def turnsOnly (n : Nat) : List (Client → Client) := List.replicate n Client.turn

theorem turnsOnly_add : turnsOnly (k + m) = turnsOnly k ++ turnsOnly m :=
  List.replicate_add _ _ _

/-- A client at rest stays as it is. -/
theorem turns_at_rest (rest : c.ready = []) :
    c.undergo (turnsOnly n) = c ∧ c.changes (turnsOnly n) = [] := by
  have still : c.turn = c := by
    unfold turn
    rw [rest]
  induction n with
  | zero => exact ⟨rfl, rfl⟩
  | succ n ih =>
    unfold turnsOnly
    rw [List.replicate_succ, changes, if_pos still]
    refine ⟨?_, ih.2⟩
    show (c.turn).undergo (turnsOnly n) = c
    rw [still]
    exact ih.1

theorem rest_of_unrest (enough : c.unrest ≤ n) : (c.undergo (turnsOnly n)).ready = [] := by
  induction n generalizing c with
  | zero =>
    by_contra busy
    have := unrest_turn (c := c) busy
    omega
  | succ n ih =>
    by_cases rest : c.ready = []
    · rw [(turns_at_rest rest).1]
      exact rest
    · have := unrest_turn rest
      exact ih (c := c.turn) (by omega)

/-- However many turns a client takes until it is at rest, it goes through the same values. -/
theorem turns_eq (rest : (c.undergo (turnsOnly k)).ready = [])
    (rest' : (c.undergo (turnsOnly m)).ready = []) :
    c.undergo (turnsOnly k) = c.undergo (turnsOnly m) ∧
      c.changes (turnsOnly k) = c.changes (turnsOnly m) := by
  rcases Nat.le_total k m with le | le
  · obtain ⟨n, rfl⟩ := Nat.exists_eq_add_of_le le
    obtain ⟨still, silent⟩ := turns_at_rest (n := n) rest
    rw [turnsOnly_add, undergo_append, changes_append, still, silent, List.append_nil]
    exact ⟨rfl, rfl⟩
  · obtain ⟨n, rfl⟩ := Nat.exists_eq_add_of_le le
    obtain ⟨still, silent⟩ := turns_at_rest (n := n) rest'
    rw [turnsOnly_add, undergo_append, changes_append, still, silent, List.append_nil]
    exact ⟨rfl, rfl⟩

end Client

namespace Session
open Client (Input changes undergo turnsOnly)

variable {s s₁ s₂ : Session} {i n : Nat} {c : Client} {h : Happening} {ms : List Move}
  {hs hs₁ hs₂ : List Happening}

/-! ## What a client goes through in a session -/

/-- The values that a client takes in a series of moves, without repetitions. -/
def values (s : Session) (i : Nat) : List Move → List Client
  | [] => []
  | m :: ms =>
    (if (s.move m).clients[i]? = s.clients[i]? then [] else (s.move m).clients[i]?.toList) ++
      (s.move m).values i ms

/-- All moves that follow from something that happens. -/
def consequences (s : Session) (h : Happening) : List Move :=
  h.moves s ++ List.replicate (s.moves (h.moves s)).budget .turn

theorem meet_eq : s.meet h = s.moves (s.consequences h) := by
  rw [consequences, moves_append, ← takeTurns_eq]
  rfl

/-- The values that a client takes in the course of a session, without repetitions. -/
def journey (s : Session) (i : Nat) : List Happening → List Client
  | [] => []
  | h :: hs => s.values i (s.consequences h) ++ (s.meet h).journey i hs

/-- What a series of moves does to a client. -/
def effects (s : Session) (i : Nat) : List Move → List (Client → Client)
  | [] => []
  | m :: ms => s.effect i m ++ (s.move m).effects i ms

theorem effect_cases (s : Session) (i : Nat) (m : Move) :
    s.effect i m = [] ∨ ∃ f, s.effect i m = [f] := by
  unfold effect
  cases m with
  | input j given =>
    dsimp only
    split
    · exact .inr ⟨_, rfl⟩
    · exact .inl rfl
  | leap time => exact .inr ⟨_, rfl⟩
  | turn =>
    dsimp only
    split
    · exact .inr ⟨_, rfl⟩
    · exact .inl rfl

theorem clients_moves (here : s.clients[i]? = some c) :
    (s.moves ms).clients[i]? = some (c.undergo (s.effects i ms)) := by
  induction ms generalizing s c with
  | nil => exact here
  | cons m ms ih =>
    rw [effects, Client.undergo_append]
    exact ih (clients_move here)

theorem values_eq (here : s.clients[i]? = some c) : s.values i ms = c.changes (s.effects i ms) := by
  induction ms generalizing s c with
  | nil => rfl
  | cons m ms ih =>
    have after := clients_move (m := m) here
    rw [values, effects, Client.changes_append, ih after, after, here]
    rcases effect_cases s i m with e | ⟨f, e⟩
    · rw [e]
      simp [changes, undergo]
    · rw [e]
      by_cases same : f c = c
      · simp [changes, undergo, same]
      · simp [changes, undergo, same]

theorem effects_append {ms' : List Move} :
    s.effects i (ms ++ ms') = s.effects i ms ++ (s.moves ms).effects i ms' := by
  induction ms generalizing s with
  | nil => rfl
  | cons m ms ih =>
    rw [List.cons_append, effects, effects, ih, List.append_assoc]
    rfl

theorem effects_turns : ∃ k, s.effects i (List.replicate n .turn) = turnsOnly k := by
  induction n generalizing s with
  | zero => exact ⟨0, rfl⟩
  | succ n ih =>
    obtain ⟨k, rest⟩ := ih (s := s.turn)
    rw [List.replicate_succ, effects]
    show ∃ k, s.effect i .turn ++ s.turn.effects i _ = _
    rw [rest, effect]
    split
    · exact ⟨k + 1, rfl⟩
    · exact ⟨k, rfl⟩

/-! ## What a client feels of it -/

/-- What is done to a client when something happens to a session. -/
def felt (c : Client) (i : Nat) : Happening → List (Client → Client)
  | .inputs given => (given.filter (·.1 = i)).map fun p c => c.step p.2
  | .passes duration => [(·.leap (c.now + duration))]

/-- What a client goes through when it is left to itself afterwards. -/
def response (c : Client) (i : Nat) (h : Happening) : List (Client → Client) :=
  felt c i h ++ turnsOnly (c.undergo (felt c i h)).unrest

/-- The values that a client takes by itself. -/
def alone (c : Client) (i : Nat) : List Happening → List Client
  | [] => []
  | h :: hs => c.changes (response c i h) ++ alone (c.undergo (response c i h)) i hs

theorem effects_inputs {given : List (Nat × Input)} :
    s.effects i (given.map fun p => .input p.1 p.2) = felt c i (.inputs given) := by
  induction given generalizing s with
  | nil => rfl
  | cons p given ih =>
    rw [List.map_cons, effects, ih, effect, felt, felt, List.filter_cons]
    by_cases own : p.1 = i
    · rw [if_pos own, if_pos (by simpa using own)]
      rfl
    · rw [if_neg own, if_neg (by simpa using own)]
      rfl

theorem effects_happening (settled : s.Settled) (here : s.clients[i]? = some c) :
    s.effects i (h.moves s) = felt c i h := by
  cases h with
  | inputs given => exact effects_inputs
  | passes duration =>
    rw [felt, settled.together i c here]
    rfl

/-- What happens to a session does to a client what it would do to it alone. -/
theorem Settled.meets (settled : s.Settled) (here : s.clients[i]? = some c) (outside : h.isOutside) :
    (s.meet h).clients[i]? = some (c.undergo (response c i h)) ∧
      s.values i (s.consequences h) = c.changes (response c i h) := by
  obtain ⟨k, turns⟩ := effects_turns (s := s.moves (h.moves s)) (i := i)
    (n := (s.moves (h.moves s)).budget)
  have all : s.effects i (s.consequences h) = felt c i h ++ turnsOnly k := by
    rw [consequences, effects_append, turns, effects_happening settled here]
  have after : (s.moves (s.consequences h)).clients[i]? =
      some (c.undergo (s.effects i (s.consequences h))) := clients_moves here
  rw [← meet_eq, all] at after
  have later := settled.meet outside
  have rest := later.regular.queue_of_atRest later.rest i
  rw [queue_eq after, Client.undergo_append] at rest
  obtain ⟨same, values⟩ := Client.turns_eq rest
    (Client.rest_of_unrest (Nat.le_refl (c.undergo (felt c i h)).unrest))
  constructor
  · rw [after, response, Client.undergo_append, Client.undergo_append, same]
  · rw [values_eq here, all, response, Client.changes_append, Client.changes_append, values]

/-- In a session a client goes through what it goes through alone. -/
theorem Settled.journey (settled : s.Settled) (here : s.clients[i]? = some c)
    (outside : ∀ h ∈ hs, h.isOutside) : s.journey i hs = alone c i hs := by
  induction hs generalizing s c with
  | nil => rfl
  | cons h hs ih =>
    have now := outside h List.mem_cons_self
    obtain ⟨after, values⟩ := settled.meets here now
    rw [Session.journey, alone, values]
    exact congrArg _ (ih (settled.meet now) after fun h mem => outside h (List.mem_cons_of_mem _ mem))

/-- What of the happenings concerns a client. -/
def Happening.only (i : Nat) : Happening → List Happening
  | .inputs given =>
    let own := given.filter (·.1 = i)
    if own = [] then [] else [.inputs own]
  | .passes duration => [.passes duration]

/-- What happens to others alone does not concern a client at rest. -/
theorem alone_only (rest : c.ready = []) : alone c i hs = alone c i (hs.flatMap (·.only i)) := by
  induction hs generalizing c with
  | nil => rfl
  | cons h hs ih =>
    have settles : (c.undergo (response c i h)).ready = [] := by
      rw [response, Client.undergo_append]
      exact Client.rest_of_unrest (Nat.le_refl _)
    rw [List.flatMap_cons]
    cases h with
    | inputs given =>
      have only : (Happening.inputs given).only i =
          if given.filter (·.1 = i) = [] then [] else [.inputs (given.filter (·.1 = i))] := rfl
      rw [only]
      by_cases none : given.filter (·.1 = i) = []
      · have silent : response c i (.inputs given) = turnsOnly c.unrest := by
          rw [response, felt, none]
          rfl
        obtain ⟨same, quiet⟩ := Client.turns_at_rest (n := c.unrest) rest
        rw [if_pos none, alone, silent, same, quiet]
        exact ih rest
      · have same : response c i (.inputs given) =
            response c i (.inputs (given.filter (·.1 = i))) := by
          rw [response, response, felt, felt, List.filter_filter]
          simp only [Bool.and_self]
        rw [if_neg none, List.singleton_append, alone, alone, ← same, ih settles]
    | passes duration =>
      have only : (Happening.passes duration).only i = [.passes duration] := rfl
      rw [only, List.singleton_append, alone, alone, ih settles]

/-- A client goes through the same values in two sessions, and with them through the same states
and capabilities, signals and messages to its processes and outcomes of its calls, if the same
happens to it in both and the same time passes. -/
theorem clients_isolated (settled₁ : s₁.Settled) (settled₂ : s₂.Settled)
    (here₁ : s₁.clients[i]? = some c) (here₂ : s₂.clients[i]? = some c)
    (outside₁ : ∀ h ∈ hs₁, h.isOutside) (outside₂ : ∀ h ∈ hs₂, h.isOutside)
    (same : hs₁.flatMap (·.only i) = hs₂.flatMap (·.only i)) :
    s₁.journey i hs₁ = s₂.journey i hs₂ := by
  have rest : c.ready = [] := by
    rw [← queue_eq here₁]
    exact settled₁.regular.queue_of_atRest settled₁.rest i
  rw [settled₁.journey here₁ outside₁, settled₂.journey here₂ outside₂, alone_only rest, same,
    ← alone_only rest]

/-- Two clients whose servers were not started. -/
def twoClients : Session :=
  ofClients [.ofConfig ⟨"a", [], [], "a", []⟩ "/ws" [], .ofConfig ⟨"b", [], [], "b", []⟩ "/ws" []]

theorem settled_twoClients : twoClients.Settled := by
  refine settled_ofClients (t := 0) ?_ ?_
  · rintro c (_ | ⟨_, _ | ⟨_, ⟨⟩⟩⟩) <;> rfl
  · rintro c (_ | ⟨_, _ | ⟨_, ⟨⟩⟩⟩) <;> rfl

/-- The second client is left alone, or is started, disposed of while it starts, and crashes. -/
theorem clients_isolated_crashing :
    let calm : List Happening := [.inputs [(0, .call .start)], .passes Client.second]
    let wild : List Happening := [.inputs [(1, .call .start)],
      .inputs [(1, .call .dispose), (0, .call .start)], .inputs [(1, .exit 1)],
      .passes Client.second]
    (∀ h ∈ calm, h.isOutside) ∧ (∀ h ∈ wild, h.isOutside) ∧
      twoClients.journey 0 calm = twoClients.journey 0 wild := by
  intro calm wild
  have outside₁ : ∀ h ∈ calm, h.isOutside := by decide
  have outside₂ : ∀ h ∈ wild, h.isOutside := by decide
  exact ⟨outside₁, outside₂, clients_isolated settled_twoClients settled_twoClients rfl rfl outside₁
    outside₂ (by decide)⟩

end Session

end LspGateway
