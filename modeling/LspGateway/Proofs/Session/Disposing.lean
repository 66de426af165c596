import LspGateway.Proofs.Client.Abating
import LspGateway.Proofs.Session.Isolation

/-! # Disposals in a session

Whatever a client and its process went through, a disposal that ends before anything else is asked
of the client has left nothing in use, and another disposal does nothing. The other clients that are
disposed of together with it make no difference to that, whatever becomes of their disposals.
-/

namespace LspGateway

/-- It comes from those who use a client, or from its process. -/
def Client.Input.isOffered : Client.Input → Bool
  | .turn | .time _ _ | .expectEnd | .call .listen | .call .close => false
  | _ => true

/-- A call that had nothing to do has returned. -/
def Client.returning (c : Client) : Client :=
  { c with
    calls := c.calls ++ [⟨.done .done, none⟩]
    history := .finished c.calls.length .done :: c.history }

namespace Session
open Client (Input AtEase Abates IsDown turnsOnly)

variable {s s₁ s₂ : Session} {i j n : Nat} {x : Input} {c c₁ : Client} {h : Happening}
  {m : Move} {ms : List Move} {hs : List Happening} {given : List (Nat × Input)} {who : List Nat}
  {stopped : Prop}

/-! ## What a client gets -/

/-- Clients get what is meant for them, and one that is disposed of gets nothing else before it is
at rest again. -/
def Happening.isOrderly : Happening → Bool
  | .inputs given => given.all fun p =>
      p.2.isOffered && (p.2 != .call .dispose || given.filter (·.1 = p.1) == [p])
  | .passes _ => true

/-- The caller of a call of a client cancels it. -/
def Happening.cancels (i n : Nat) : Happening → Prop
  | .inputs given => (i, .cancel n) ∈ given
  | .passes _ => False

/-- Clients are disposed of together. -/
def disposing (who : List Nat) : Happening := .inputs (who.map fun i => (i, .call .dispose))

/-- The inputs that a client gets when something happens to a session. -/
def gets (c : Client) (i : Nat) : Happening → List Input
  | .inputs given => (given.filter (·.1 = i)).map (·.2)
  | .passes duration =>
    ((c.deadlines.filter (· < c.now + duration)).mergeSort (· ≤ ·) ++ [c.now + duration]).map
      (.time (c.now + duration))

theorem undergo_felt : c.undergo (felt c i h) = c.run (gets c i h) := by
  cases h with
  | inputs given =>
    rw [felt, gets, Client.undergo, Client.run, List.foldl_map, List.foldl_map]
  | passes duration =>
    rw [gets, Client.run, List.foldl_map]
    rfl

theorem undergo_turnsOnly : c.undergo (turnsOnly n) = c.run (List.replicate n .turn) := by
  induction n generalizing c with
  | zero => rfl
  | succ n ih => exact ih

/-- A client gets what is meant for it, and then takes turns until it is at rest. -/
theorem undergo_response : ∃ k,
    c.undergo (response c i h) = c.run (gets c i h ++ List.replicate k .turn) ∧
      (c.run (gets c i h ++ List.replicate k .turn)).ready = [] := by
  have same : c.undergo (response c i h) =
      c.run (gets c i h ++ List.replicate (c.undergo (felt c i h)).unrest .turn) := by
    rw [response, Client.undergo_append, undergo_turnsOnly, undergo_felt, Client.run_append]
  refine ⟨_, same, ?_⟩
  rw [← same, response, Client.undergo_append]
  exact Client.rest_of_unrest (Nat.le_refl _)

section Orderly
variable (orderly : h.isOrderly)
include orderly

theorem Happening.orderly_isOutside : h.isOutside := by
  cases h with
  | inputs given =>
    refine List.all_eq_true.mpr fun p mem => ?_
    have offered := (Bool.and_eq_true_iff.mp (List.all_eq_true.mp orderly p mem)).1
    rcases p with ⟨j, x⟩
    cases x <;> first | rfl | cases offered
  | passes => rfl

/-- Clients get what is meant for clients. -/
theorem fits_gets (client : c.audience = .client) : ∀ x ∈ gets c i h, x.Fits c := by
  intro x mem
  cases h with
  | inputs given =>
    obtain ⟨p, chosen, rfl⟩ := List.mem_map.mp mem
    have offered := (Bool.and_eq_true_iff.mp
      (List.all_eq_true.mp orderly p (List.mem_filter.mp chosen).1)).1
    rcases p with ⟨j, x⟩
    cases x with
    | call job => cases job <;> trivial
    | expectEnd => cases offered
    | _ => trivial
  | passes duration =>
    obtain ⟨due, -, rfl⟩ := List.mem_map.mp mem
    trivial

/-- A client that is disposed of gets nothing else. -/
theorem gets_dispose (mem : .call .dispose ∈ gets c i h) : gets c i h = [.call .dispose] := by
  cases h with
  | inputs given =>
    obtain ⟨⟨j, x⟩, chosen, rfl⟩ := List.mem_map.mp mem
    obtain ⟨listed, own⟩ := List.mem_filter.mp chosen
    obtain rfl : j = i := by simpa using own
    have lone := (Bool.and_eq_true_iff.mp (List.all_eq_true.mp orderly _ listed)).2
    have lone : given.filter (·.1 = j) = [(j, .call .dispose)] := by simpa using lone
    rw [gets, lone]
    rfl
  | passes duration =>
    obtain ⟨due, -, e⟩ := List.mem_map.mp mem
    cases e

end Orderly

theorem cancels_of_gets (mem : .cancel n ∈ gets c i h) : h.cancels i n := by
  cases h with
  | inputs given =>
    obtain ⟨⟨j, x⟩, chosen, rfl⟩ := List.mem_map.mp mem
    obtain ⟨listed, own⟩ := List.mem_filter.mp chosen
    obtain rfl : j = i := by simpa using own
    exact listed
  | passes duration =>
    obtain ⟨due, -, e⟩ := List.mem_map.mp mem
    cases e

/-! ## Sessions at ease -/

theorem length_apply {begun : Nat} : (s.apply i begun x).clients.length = s.clients.length := by
  unfold apply
  cases s.clients[i]? with
  | none => rfl
  | some c => exact List.length_set

theorem length_foldl {α : Type} {f : Session → α → Session} {xs : List α}
    (step : ∀ s x, (f s x).clients.length = s.clients.length) :
    (xs.foldl f s).clients.length = s.clients.length := by
  induction xs generalizing s with
  | nil => rfl
  | cons x xs ih => exact ih.trans (step s x)

theorem length_move : (s.move m).clients.length = s.clients.length := by
  cases m with
  | input i given => exact length_apply
  | leap time => exact length_foldl fun s due => length_foldl fun s i => length_apply
  | turn =>
    show s.turn.clients.length = _
    unfold turn
    cases s.turns with
    | nil => rfl
    | cons i rest => exact length_apply

/-- Clients neither come nor go. -/
theorem length_meet : (s.meet h).clients.length = s.clients.length := by
  rw [meet_eq]
  exact length_foldl fun s m => length_move

/-- Nothing can go on in a session, and its clients are at ease. -/
structure Eased (s : Session) : Prop where
  settled : s.Settled
  ease : ∀ (i : Nat) (c : Client), s.clients[i]? = some c → c.AtEase

theorem Eased.meet (h' : s.Eased) (orderly : h.isOrderly) : (s.meet h).Eased := by
  have outside := Happening.orderly_isOutside orderly
  refine ⟨h'.settled.meet outside, fun i c after => ?_⟩
  obtain ⟨b, here⟩ : ∃ b, s.clients[i]? = some b := by
    refine ⟨_, List.getElem?_eq_getElem ?_⟩
    rw [← length_meet (h := h)]
    exact (List.getElem?_eq_some_iff.mp after).1
  have ease := h'.ease i b here
  obtain rfl := Option.some.inj (after.symm.trans (h'.settled.meets here outside).1)
  obtain ⟨k, e, rest⟩ := undergo_response (c := b) (i := i) (h := h)
  rw [e]
  exact ease.meets (fits_gets orderly ease.poised.client) (gets_dispose orderly) rest

theorem Eased.course (eased : s.Eased) (orderly : ∀ h ∈ hs, h.isOrderly) : (s.course hs).Eased := by
  induction hs generalizing s with
  | nil => exact eased
  | cons h hs ih =>
    exact ih (eased.meet (orderly h List.mem_cons_self)) fun h mem =>
      orderly h (List.mem_cons_of_mem _ mem)

/-- What every step of a client keeps is kept in the course of a session. -/
theorem Eased.carries {P : Client → Prop}
    (step : ∀ (b : Client) (x : Input), b.Poised → x.Fits b → P b → P (b.step x)) (eased : s.Eased)
    (orderly : ∀ h ∈ hs, h.isOrderly) (here : s.clients[i]? = some c) (holds : P c) :
    ∃ c₁, (s.course hs).clients[i]? = some c₁ ∧ P c₁ := by
  induction hs generalizing s c with
  | nil => exact ⟨c, here, holds⟩
  | cons h hs ih =>
    have now := orderly h List.mem_cons_self
    have ease := eased.ease i c here
    refine ih (eased.meet now) (fun h mem => orderly h (List.mem_cons_of_mem _ mem))
      (eased.settled.meets here (Happening.orderly_isOutside now)).1 ?_
    obtain ⟨k, e, rest⟩ := undergo_response (c := c) (i := i) (h := h)
    rw [e]
    exact Client.AtEase.carries (fits_gets now ease.poised.client) (gets_dispose now) step ease rest
      holds

/-- What every step keeps holds after a client was asked to send something, if it holds when the
client is asked. -/
theorem Eased.carries_asking {P : Client → Prop} {sends : List Send}
    (step : ∀ (b : Client) (x : Input), b.Poised → x.Fits b → P b → P (b.step x)) (eased : s.Eased)
    (here : s.clients[i]? = some c) (holds : P (c.step (.call (.sends sends)))) :
    ∃ c₁, (s.meet (.inputs [(i, .call (.sends sends))])).clients[i]? = some c₁ ∧ P c₁ := by
  have ease := eased.ease i c here
  obtain ⟨lost, sound⟩ := ease.poised.sound
  have gets : gets c i (.inputs [(i, .call (.sends sends))]) = [.call (.sends sends)] := by
    simp [gets]
  obtain ⟨k, e, -⟩ := undergo_response (c := c) (i := i)
    (h := .inputs [(i, .call (.sends sends))])
  refine ⟨_, (eased.settled.meets here rfl).1, ?_⟩
  rw [e, gets]
  have fits : Input.Fits c (.call (.sends sends)) := trivial
  have others : Input.call .dispose ∉ List.replicate k .turn := by simp
  show P ((c.step (.call (.sends sends))).run (List.replicate k .turn))
  exact (ease.poised.step fits nofun).carries step (ease.undisposed.step sound fits (by simp))
    (fun x => Client.fits_turns) others holds

/-- A client goes the same way in two sessions in which the same happens. -/
theorem course_congr (settled₁ : s₁.Settled) (settled₂ : s₂.Settled)
    (here₁ : s₁.clients[i]? = some c) (here₂ : s₂.clients[i]? = some c)
    (outside : ∀ h ∈ hs, h.isOutside) :
    ∃ c₁, (s₁.course hs).clients[i]? = some c₁ ∧ (s₂.course hs).clients[i]? = some c₁ := by
  induction hs generalizing s₁ s₂ c with
  | nil => exact ⟨c, here₁, here₂⟩
  | cons h hs ih =>
    have now := outside h List.mem_cons_self
    exact ih (settled₁.meet now) (settled₂.meet now) (settled₁.meets here₁ now).1
      (settled₂.meets here₂ now).1 fun h mem => outside h (List.mem_cons_of_mem _ mem)

/-! ## After a disposal -/

/-- What became of a client that a disposal began for: the disposal goes on or has ended, if nothing
else was begun. -/
structure Follows (n : Nat) (stopped : Prop) (c c₁ : Client) : Prop where
  attempts : c.attempts.length ≤ c₁.attempts.length
  calls : c.calls.length ≤ c₁.calls.length
  goes : c.attempts.length < c₁.attempts.length ∨ c.calls.length < c₁.calls.length ∨
    Abates n stopped c₁

theorem Follows.meet (follows : Follows n stopped c c₁) (ease : c₁.AtEase) (orderly : h.isOrderly)
    (why : h.cancels i n → stopped) : Follows n stopped c (c₁.undergo (response c₁ i h)) := by
  have fits := fits_gets (c := c₁) (i := i) orderly ease.poised.client
  obtain ⟨k, e, -⟩ := undergo_response (c := c₁) (i := i) (h := h)
  rw [e]
  obtain ⟨lost, sound⟩ := ease.poised.sound
  obtain ⟨attempts, calls⟩ := Client.grows_run sound fun x mem =>
    (List.mem_append.mp mem).elim (fits x) Client.fits_turns
  refine ⟨Nat.le_trans follows.attempts attempts, Nat.le_trans follows.calls calls, ?_⟩
  obtain more | more | abates := follows.goes
  · exact .inl (Nat.lt_of_lt_of_le more attempts)
  · exact .inr (.inl (Nat.lt_of_lt_of_le more calls))
  · obtain more | more | abates := abates.meets fits (gets_dispose orderly) ease
      fun mem => why (cancels_of_gets mem)
    · exact .inl (Nat.lt_of_le_of_lt follows.attempts more)
    · exact .inr (.inl (Nat.lt_of_le_of_lt follows.calls more))
    · exact .inr (.inr abates)

theorem Follows.course (eased : s.Eased) (orderly : ∀ h ∈ hs, h.isOrderly)
    (here : s.clients[i]? = some c₁) (follows : Follows n stopped c c₁)
    (why : ∀ h ∈ hs, h.cancels i n → stopped) :
    ∃ c₂, (s.course hs).clients[i]? = some c₂ ∧ Follows n stopped c c₂ := by
  induction hs generalizing s c₁ with
  | nil => exact ⟨c₁, here, follows⟩
  | cons h hs ih =>
    have now := orderly h List.mem_cons_self
    exact ih (eased.meet now) (fun h mem => orderly h (List.mem_cons_of_mem _ mem))
      (eased.settled.meets here (Happening.orderly_isOutside now)).1
      (follows.meet (eased.ease i c₁ here) now (why h List.mem_cons_self))
      fun h mem => why h (List.mem_cons_of_mem _ mem)

/-! ## Disposals -/

theorem filter_disposing (once : who.Nodup) (mem : i ∈ who) :
    (who.map fun i => (i, Input.call .dispose)).filter (·.1 = i) = [(i, .call .dispose)] := by
  have own : who.filter (· = i) = [i] := by
    have alike : who.filter (· = i) = who.filter (· == i) := rfl
    rw [alike, List.filter_beq, List.count_eq_one_of_mem once mem]
    rfl
  rw [List.filter_map]
  exact congrArg (List.map _) own

theorem orderly_disposing (once : who.Nodup) : (disposing who).isOrderly := by
  refine List.all_eq_true.mpr fun p listed => ?_
  obtain ⟨i, mem, rfl⟩ := List.mem_map.mp listed
  have lone := filter_disposing once mem
  simp [Client.Input.isOffered, lone]

theorem gets_disposing (once : who.Nodup) (mem : i ∈ who) :
    gets c i (disposing who) = [.call .dispose] := by
  rw [disposing, gets, filter_disposing once mem]
  rfl

/-- Those who are disposed of together are disposed of as they would be alone. -/
theorem response_disposing (once : who.Nodup) (mem : i ∈ who) :
    response c i (disposing who) = response c i (disposing [i]) := by
  have same : felt c i (disposing who) = felt c i (disposing [i]) := by
    rw [disposing, disposing, felt, felt, filter_disposing once mem,
      filter_disposing (List.nodup_singleton i) (List.mem_singleton_self i)]
  rw [response, response, same]

/-- A disposal has begun after the clients are at rest again. -/
theorem follows_disposing (ease : c.AtEase) (once : who.Nodup) (mem : i ∈ who) :
    Follows c.calls.length stopped (c.step (.call .dispose))
      (c.undergo (response c i (disposing who))) := by
  obtain ⟨k, e, rest⟩ := undergo_response (c := c) (i := i) (h := disposing who)
  rw [gets_disposing once mem] at e rest
  rw [e]
  obtain ⟨lost, sound⟩ := (ease.poised.step (i := .call .dispose) ease.poised.client nofun).sound
  obtain ⟨attempts, calls⟩ := Client.grows_run sound fun x mem =>
    Client.fits_turns (k := k) mem
  exact ⟨attempts, calls, (ease.disposes stopped rest).2.imp_right .inr⟩

/-- A disposal of a client that is down does nothing but return. -/
theorem dispose_isDown (down : c.IsDown) (ease : c.AtEase) (once : who.Nodup) (mem : i ∈ who) :
    c.undergo (response c i (disposing who)) = c.returning := by
  obtain ⟨k, e, rest⟩ := undergo_response (c := c) (i := i) (h := disposing who)
  rw [gets_disposing once mem] at e rest
  rw [e]
  obtain ⟨j, e⟩ := ease.disposal_of_rest rest
  have still : c.returning.undergo (turnsOnly j) = c.returning :=
    (Client.turns_at_rest (by exact ease.rest)).1
  rw [undergo_turnsOnly] at still
  refine e.trans ?_
  rw [down.dispose ease.rest]
  exact still

/-- A disposal leaves nothing in use, and another one does nothing but return. -/
structure Leaves (s : Session) (i : Nat) (c : Client) : Prop where
  down : c.IsDown
  again : ∀ who : List Nat, who.Nodup → i ∈ who →
    (s.meet (disposing who)).clients[i]? = some c.returning

/-- Clients whose servers were not started, each with the behaviours of its processes. -/
def configured (workspace : String) (servers : List (ServerConfig × List Policy)) : Session :=
  ofClients (servers.map fun (server, policies) => .ofConfig server workspace policies)

theorem eased_ofClients {clients : List Client} (cold : ∀ c ∈ clients,
    ∃ server workspace policies, c = .ofConfig server workspace policies) :
    (ofClients clients).Eased := by
  refine ⟨settled_ofClients (t := 0) ?_ ?_, fun i c here => ?_⟩
  · intro c mem
    obtain ⟨server, workspace, policies, rfl⟩ := cold c mem
    rfl
  · intro c mem
    obtain ⟨server, workspace, policies, rfl⟩ := cold c mem
    rfl
  · obtain ⟨server, workspace, policies, rfl⟩ := cold c (List.mem_of_getElem? here)
    exact ⟨Client.poised_ofConfig, nofun, rfl⟩

theorem eased_configured {workspace : String} {servers : List (ServerConfig × List Policy)} :
    (configured workspace servers).Eased := by
  refine eased_ofClients fun c mem => ?_
  obtain ⟨p, -, rfl⟩ := List.mem_map.mp mem
  exact ⟨p.1, workspace, p.2, rfl⟩

/-- A server that agrees to be started, and one that says nothing. -/
def twoServers : List (ServerConfig × List Policy) :=
  [(⟨"a", [], [], "a", []⟩,
      [{ Policy.plain with replies := [("initialize", .fixed [("result", .obj [])])] }]),
    (⟨"b", [], [], "b", []⟩, [])]

/-- Both servers are started, and the one that agreed sends a message that is no object. -/
def crashing : List Happening :=
  [.inputs [(0, .call .start), (1, .call .start)], .inputs [(0, .output (Wire.encode (.arr [.int 1])))]]

end Session

end LspGateway
