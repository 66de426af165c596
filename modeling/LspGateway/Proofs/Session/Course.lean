import LspGateway.Proofs.Client.Elapsing
import LspGateway.Proofs.Client.Settling
import LspGateway.Session.Basic

/-! # The course of a session

From outside a session gets inputs for its clients and the passing of time, and is then left to
itself until it is at rest. All of that is a series of moves, and each of them does to every client
what it would do to it alone.
-/

namespace LspGateway

/-- It comes from outside, and is not the passing of time. -/
def Client.Input.isOutside : Client.Input → Bool
  | .turn => false
  | .time _ _ => false
  | _ => true

namespace Session
open Client (Input)

/-! ## A session comes to rest

The turns of a session are those of the activities in its clients' queues. So after a session was
left to itself, no client has anything to do before something happens to it.
-/

section Settling

variable {s : Session} {i j n : Nat} {x : Input} {c : Client}

/-- The queue of a client. -/
def queue (s : Session) (i : Nat) : List Client.Task := (s.clients[i]?.map (·.ready)).getD []

/-- Each client has as many turns to come as there are activities in its queue. -/
def Regular (s : Session) : Prop := ∀ i, s.turns.count i = (s.queue i).length

/-- Nobody has anything to do. -/
def AtRest (s : Session) : Prop := s.turns = []

theorem clients_apply_same {begun : Nat} :
    (s.apply i begun x).clients[i]? = s.clients[i]?.map (·.step x) := by
  unfold apply
  cases here : s.clients[i]? with
  | none => exact here
  | some c =>
    have lt : i < s.clients.length := (List.getElem?_eq_some_iff.mp here).1
    simp [lt]

theorem clients_apply_other {begun : Nat} (other : j ≠ i) :
    (s.apply i begun x).clients[j]? = s.clients[j]? := by
  unfold apply
  cases s.clients[i]? with
  | none => rfl
  | some c => exact List.getElem?_set_ne other.symm

theorem turns_apply {begun : Nat} (here : s.clients[i]? = some c) : (s.apply i begun x).turns =
    s.turns ++ List.replicate ((c.step x).ready.length + begun - c.ready.length) i := by
  unfold apply
  rw [here]

theorem queue_eq (here : s.clients[i]? = some c) : s.queue i = c.ready := by
  rw [queue, here]
  rfl

/-- A client in whose stead a turn is announced is there. -/
theorem Regular.here (h : s.Regular) (mem : i ∈ s.turns) :
    ∃ c, s.clients[i]? = some c ∧ c.ready ≠ [] := by
  have count := h i
  have some : 0 < s.turns.count i := List.count_pos_iff.mpr mem
  cases found : s.clients[i]? with
  | none =>
    rw [queue, found] at count
    simp only [Option.map_none, Option.getD_none, List.length_nil] at count
    omega
  | some c =>
    refine ⟨c, rfl, fun e => ?_⟩
    rw [queue_eq found, e, List.length_nil] at count
    omega

/-- The turns of a client that something happened to, if those of the others stay. -/
theorem Regular.apply {begun : Nat} {ts : List Nat} (here : s.clients[i]? = some c)
    (own : ts.count i + begun = c.ready.length) (grows : c.ready.length ≤ (c.step x).ready.length + begun)
    (others : ∀ j, j ≠ i → ts.count j = (s.queue j).length) :
    ({ s with turns := ts }.apply i begun x).Regular := by
  intro j
  have turns : ({ s with turns := ts }.apply i begun x).turns =
      ts ++ List.replicate ((c.step x).ready.length + begun - c.ready.length) i := turns_apply here
  rw [turns, List.count_append, List.count_replicate]
  by_cases same : j = i
  · subst same
    have after : ({ s with turns := ts }.apply j begun x).clients[j]? = some (c.step x) := by
      rw [clients_apply_same]
      exact congrArg (Option.map (·.step x)) here
    rw [queue_eq after, if_pos (beq_self_eq_true j)]
    show ts.count j + _ = _
    omega
  · have after : ({ s with turns := ts }.apply i begun x).clients[j]? = s.clients[j]? :=
      clients_apply_other same
    rw [if_neg (by simpa using Ne.symm same), others j same, queue, queue, after]
    rfl

theorem Regular.input (h : s.Regular) (outside : x ≠ .turn) : (s.input i x).Regular := by
  cases here : s.clients[i]? with
  | none =>
    have same : s.input i x = s := by
      unfold Session.input Session.apply
      rw [here]
    rw [same]
    exact h
  | some c =>
    have count := h i
    rw [queue_eq here] at count
    have grows := (Client.step_outside (c := c) outside).1.length_le
    exact Regular.apply here (by omega) (by omega) fun j _ => h j

theorem Regular.turn (h : s.Regular) : s.turn.Regular := by
  unfold Session.turn
  cases turns : s.turns with
  | nil => exact h
  | cons i rest =>
    obtain ⟨c, here, busy⟩ := h.here (i := i) (by rw [turns]; exact List.mem_cons_self)
    obtain ⟨t, ts, first⟩ := List.exists_cons_of_ne_nil busy
    have grows := (Client.ready_turn first).length_le
    have count := h i
    rw [turns, queue_eq here, List.count_cons_self] at count
    refine Regular.apply here (by omega) ?_ fun j other => ?_
    · rw [first, List.length_cons]
      exact Nat.succ_le_succ grows
    · have count := h j
      rwa [turns, List.count_cons_of_ne (Ne.symm other)] at count

theorem regular_foldl {α : Type} {f : Session → α → Session} {xs : List α}
    (step : ∀ s x, x ∈ xs → s.Regular → (f s x).Regular) (h : s.Regular) :
    (xs.foldl f s).Regular := by
  induction xs generalizing s with
  | nil => exact h
  | cons x xs ih =>
    exact ih (fun s y mem => step s y (List.mem_cons_of_mem _ mem)) (step s x List.mem_cons_self h)

theorem Regular.passTo {time due : Nat} (h : s.Regular) : (s.passTo time due).Regular :=
  regular_foldl (fun _ _ _ h => h.input (by simp)) h

theorem budget_turn (h : s.Regular) (busy : ¬ s.AtRest) : s.turn.budget < s.budget := by
  obtain ⟨i, rest, turns⟩ := List.exists_cons_of_ne_nil busy
  obtain ⟨c, here, awake⟩ := h.here (i := i) (by rw [turns]; exact List.mem_cons_self)
  have after : s.turn.clients = s.clients.set i c.turn := by
    unfold Session.turn Session.apply
    rw [turns]
    dsimp only
    rw [here]
    rfl
  have spent := Client.unrest_turn awake
  have moved := Client.total_set (y := c.turn) Client.unrest here
  unfold budget
  rw [after]
  omega

/-- A session that takes as many turns as its budget allows is at rest. -/
theorem atRest_takeTurns (h : s.Regular) (enough : s.budget ≤ n) :
    (takeTurns n s).AtRest ∧ (takeTurns n s).Regular := by
  induction n generalizing s with
  | zero =>
    refine ⟨?_, h⟩
    by_contra busy
    have := budget_turn h busy
    omega
  | succ n ih =>
    unfold takeTurns
    by_cases rest : s.AtRest
    · rw [if_pos (by rw [rest]; rfl)]
      exact ⟨rest, h⟩
    · rw [if_neg (by simpa [AtRest] using rest)]
      have := budget_turn h rest
      exact ih h.turn (by omega)

/-- Once everything has gone on that can, no client has anything to do. -/
theorem Regular.settle (h : s.Regular) : s.settle.AtRest ∧ s.settle.Regular :=
  atRest_takeTurns h (Nat.le_refl _)

theorem Regular.queue_of_atRest (h : s.Regular) (rest : s.AtRest) (i : Nat) : s.queue i = [] := by
  have count := h i
  rw [rest, List.count_nil] at count
  exact List.length_eq_zero_iff.mp count.symm

end Settling

variable {s s' : Session} {i j n t : Nat} {x : Input} {c : Client}

/-! ## Moves -/

/-- One thing that happens in a session. -/
inductive Move
  | input (i : Nat) (given : Input)
  | leap (time : Nat)
  | turn
  deriving DecidableEq

/-- Time passes for all clients up to a moment in one leap. -/
def leap (s : Session) (time : Nat) : Session :=
  ((s.deadlines.filter (· < time)).mergeSort (· ≤ ·) ++ [time]).foldl
    (fun s due => s.passTo time due) s

def move (s : Session) : Move → Session
  | .input i given => s.input i given
  | .leap time => s.leap time
  | .turn => s.turn

/-- A series of moves. -/
def moves (s : Session) (ms : List Move) : Session := ms.foldl move s

theorem moves_append {ms ms' : List Move} : s.moves (ms ++ ms') = (s.moves ms).moves ms' :=
  List.foldl_append

theorem turn_of_atRest (rest : s.AtRest) : s.turn = s := by
  unfold turn
  rw [rest]

theorem takeTurns_eq : takeTurns n s = s.moves (List.replicate n .turn) := by
  induction n generalizing s with
  | zero => rfl
  | succ n ih =>
    unfold takeTurns
    rw [List.replicate_succ]
    by_cases rest : s.AtRest
    · rw [if_pos (by rw [rest]; rfl)]
      have still := ih (s := s)
      show s = s.turn.moves _
      rw [turn_of_atRest rest, ← still]
      cases n with
      | zero => rfl
      | succ n => rw [takeTurns, if_pos (by rw [rest]; rfl)]
    · rw [if_neg (by simpa [AtRest] using rest)]
      exact ih

/-! ## What a move does to a client -/

/-- What a move does to a client, if anything. -/
def effect (s : Session) (i : Nat) : Move → List (Client → Client)
  | .input j given => if j = i then [(·.step given)] else []
  | .leap time => [(·.leap time)]
  | .turn => if s.turns.head? = some i then [Client.turn] else []

theorem clients_foldl_input {is : List Nat} (once : is.Nodup) :
    (is.foldl (fun s i => s.input i x) s).clients[j]? =
      if j ∈ is then s.clients[j]?.map (·.step x) else s.clients[j]? := by
  induction is generalizing s with
  | nil => simp
  | cons i is ih =>
    obtain ⟨new, once⟩ := List.nodup_cons.mp once
    rw [List.foldl_cons, ih once]
    by_cases same : j = i
    · subst same
      rw [if_neg new, if_pos List.mem_cons_self]
      exact clients_apply_same
    · have other : (s.input i x).clients[j]? = s.clients[j]? := clients_apply_other same
      rw [other]
      simp [same]

theorem clients_passTo {due : Nat} :
    (s.passTo t due).clients[i]? = s.clients[i]?.map (·.passTo t due) := by
  unfold passTo
  rw [clients_foldl_input List.nodup_range]
  by_cases here : i < s.clients.length
  · rw [if_pos (List.mem_range.mpr here)]
    rfl
  · rw [if_neg (by simpa using here), List.getElem?_eq_none (Nat.le_of_not_lt here), Option.map_none]

theorem clients_leapBy {stops : List Nat} (here : s.clients[i]? = some c) :
    ((stops ++ [t]).foldl (fun s due => s.passTo t due) s).clients[i]? = some (c.leapBy t stops) := by
  unfold Client.leapBy
  induction stops ++ [t] generalizing s c with
  | nil => exact here
  | cons due rest ih =>
    rw [List.foldl_cons, List.foldl_cons]
    refine ih ?_
    rw [clients_passTo, here]
    rfl

/-- Moments at which other clients stop waiting make no difference. -/
theorem clients_leap (here : s.clients[i]? = some c) :
    (s.leap t).clients[i]? = some (c.leap t) := by
  have own : c.deadlines ⊆ s.deadlines := by
    intro d mem
    exact List.mem_flatMap.mpr ⟨c, List.mem_of_getElem? here, mem⟩
  unfold leap Client.leap
  rw [clients_leapBy here]
  exact congrArg some (Client.leapBy_eq (Client.covers_of_subset own)
    (Client.covers_of_subset (List.Subset.refl _)))

theorem clients_turn : s.turn.clients[i]? =
    if s.turns.head? = some i then s.clients[i]?.map Client.turn else s.clients[i]? := by
  unfold turn
  cases turns : s.turns with
  | nil => rfl
  | cons k rest =>
    dsimp only
    rw [List.head?_cons]
    by_cases same : k = i
    · subst same
      rw [if_pos rfl]
      exact clients_apply_same
    · rw [if_neg (by simpa using same)]
      exact clients_apply_other (Ne.symm same)

/-- A move does to a client what it would do to it alone. -/
theorem clients_move {m : Move} (here : s.clients[i]? = some c) :
    (s.move m).clients[i]? = some ((s.effect i m).foldl (fun c f => f c) c) := by
  cases m with
  | input j given =>
    unfold effect
    dsimp only
    by_cases same : j = i
    · subst same
      rw [if_pos rfl]
      exact clients_apply_same.trans (by rw [here]; rfl)
    · rw [if_neg same]
      exact (clients_apply_other (Ne.symm same)).trans here
  | leap time => exact clients_leap here
  | turn =>
    unfold effect
    refine clients_turn.trans ?_
    rw [here]
    dsimp only
    split
    · rfl
    · rfl

/-! ## What happens from outside -/

/-- What happens to a session from outside. -/
inductive Happening
  /-- Inputs of clients. -/
  | inputs (given : List (Nat × Input))
  | passes (duration : Nat)
  deriving DecidableEq

/-- What is done to the session at first. -/
def Happening.moves (s : Session) : Happening → List Move
  | .inputs given => given.map fun (i, x) => .input i x
  | .passes duration => [.leap (s.now + duration)]

def Happening.isOutside : Happening → Bool
  | .inputs given => given.all (·.2.isOutside)
  | .passes _ => true

/-- Everything goes on that can after something has happened. -/
def meet (s : Session) (h : Happening) : Session := (s.moves (h.moves s)).settle

/-- The course of a session. -/
def course (s : Session) (hs : List Happening) : Session := hs.foldl meet s

/-- All clients show the same time. -/
def Shows (s : Session) (t : Nat) : Prop :=
  ∀ (i : Nat) (c : Client), s.clients[i]? = some c → c.now = t

theorem Shows.now (h : s.Shows t) (some : s.clients ≠ []) : s.now = t := by
  obtain ⟨c, cs, e⟩ := List.exists_cons_of_ne_nil some
  have first := h 0 c (by rw [e]; rfl)
  rw [Session.now, e]
  exact first

theorem Shows.input (h : s.Shows t) (outside : x.isOutside) : (s.input i x).Shows t := by
  intro j c here
  by_cases same : j = i
  · subst same
    rw [Session.input, clients_apply_same] at here
    obtain ⟨b, was, rfl⟩ := Option.map_eq_some_iff.mp here
    rw [(Client.step_outside (by rintro rfl; cases outside)).2, ← h j b was]
    cases x <;> first | rfl | cases outside
  · rw [Session.input, clients_apply_other same] at here
    exact h j c here

theorem Shows.turn (h : s.Shows t) : s.turn.Shows t := by
  intro j c here
  rw [clients_turn] at here
  split at here
  · obtain ⟨b, was, rfl⟩ := Option.map_eq_some_iff.mp here
    rw [Client.now_turn]
    exact h j b was
  · exact h j c here

theorem shows_takeTurns (h : s.Shows t) : (takeTurns n s).Shows t := by
  induction n generalizing s with
  | zero => exact h
  | succ n ih =>
    unfold takeTurns
    split
    · exact h
    · exact ih h.turn

theorem shows_leap : (s.leap t).Shows t := by
  intro i c here
  unfold leap at here
  rw [List.foldl_concat, clients_passTo] at here
  obtain ⟨b, -, rfl⟩ := Option.map_eq_some_iff.mp here
  exact (Client.step_outside (i := .time t t) (by simp)).2

theorem Regular.moves {h : Happening} (regular : s.Regular) (outside : h.isOutside) :
    (s.moves (h.moves s)).Regular := by
  cases h with
  | inputs given =>
    have each : ∀ p ∈ given, p.2.isOutside := List.all_eq_true.mp outside
    rw [Session.moves, Happening.moves, List.foldl_map]
    exact regular_foldl (fun s p mem regular => regular.input (by
      intro e
      have := each p mem
      rw [e] at this
      cases this)) regular
  | passes duration =>
    show (s.leap _).Regular
    exact regular_foldl (fun _ _ _ regular => regular.passTo) regular

theorem shows_inputs {given : List (Nat × Input)} (h : s.Shows t)
    (outside : ∀ p ∈ given, p.2.isOutside) :
    (s.moves ((Happening.inputs given).moves s)).Shows t := by
  rw [moves, Happening.moves, List.foldl_map]
  induction given generalizing s with
  | nil => exact h
  | cons p given ih =>
    exact ih (h.input (outside p List.mem_cons_self)) fun q mem => outside q (List.mem_cons_of_mem _ mem)

/-- Nobody has anything to do, and all clients show the time of the session. -/
structure Settled (s : Session) : Prop where
  regular : s.Regular
  rest : s.AtRest
  together : s.Shows s.now

/-- Whatever happens to a session, it comes to rest again. -/
theorem Settled.meet {h : Happening} (settled : s.Settled) (outside : h.isOutside) :
    (s.meet h).Settled := by
  obtain ⟨rest, regular⟩ := (settled.regular.moves outside).settle
  refine ⟨regular, rest, ?_⟩
  have shows : ∃ t, (s.meet h).Shows t := by
    cases h with
    | inputs given => exact ⟨s.now, shows_takeTurns (shows_inputs settled.together
        (List.all_eq_true.mp outside))⟩
    | passes duration => exact ⟨s.now + duration, shows_takeTurns shows_leap⟩
  obtain ⟨t, shows⟩ := shows
  by_cases none : (s.meet h).clients = []
  · intro i c here
    rw [none] at here
    cases here
  · rwa [shows.now none]

theorem settled_ofClients {clients : List Client} (ready : ∀ c ∈ clients, c.ready = [])
    (time : ∀ c ∈ clients, c.now = t) : (ofClients clients).Settled := by
  have shows : (ofClients clients).Shows t := fun i c here => time c (List.mem_of_getElem? here)
  refine ⟨fun i => ?_, rfl, ?_⟩
  · show 0 = ((ofClients clients).queue i).length
    cases here : (ofClients clients).clients[i]? with
    | none => rw [queue, here]; rfl
    | some c => rw [queue_eq here, ready c (List.mem_of_getElem? here)]; rfl
  · by_cases none : clients = []
    · intro i c here
      rw [ofClients, none] at here
      cases here
    · rwa [shows.now none]

end Session

end LspGateway
