import LspGateway.Gateway.Service
import LspGateway.Proofs.Session.Disposing

/-! # The course of a gateway

Whatever is asked of a gateway becomes something that happens to the session of its clients, if it
concerns them at all. So what holds in the course of every session holds in that of every gateway.
-/

namespace LspGateway

namespace Service
open Gateway
open Session (Happening disposing)

variable {s s₁ s₂ : Service} {fs : Files} {label name : String} {delivery : Delivery} {tool : Tool Action}
  {r : Reply} {i : Nat} {c : Client}

/-- What is asked of a gateway, and what happens around it. -/
inductive Event
  | enters (fs : Files) (label : String)
  | callsText (fs : Files) (label name : String) (args : Option Json)
  | callsTool (fs : Files) (label name : String) (args : Option Json.Members)
  | cancels (label : String)
  | leaves (label : String)
  | happens (h : Happening)
  | reports

/-- Clients get what is meant for them. -/
def Event.isOrderly : Event → Bool
  | .happens h => h.isOrderly
  | _ => true

/-- Everything goes on that can after an event. -/
def meet (s : Service) : Event → Service
  | .enters fs label => (s.enter fs label).settle
  | .callsText fs label name args => (s.callText fs label name args).settle
  | .callsTool fs label name args => (s.callTool fs label name args).settle
  | .cancels label => { s with board := s.board.cancel label }.settle
  | .leaves label => (s.leave label).settle
  | .happens h => { s with board := { s.board with session := s.board.session.meet h } }
  | .reports => s.report.1

/-- The course of a gateway. -/
def course (s : Service) (es : List Event) : Service := es.foldl meet s

/-! ## What an event does to the session -/

/-- No client is concerned. -/
structure Spares (s s' : Service) : Prop where
  roster : s'.roster = s.roster
  clients : s'.clients = s.clients
  turns : s'.board.session.turns = s.board.session.turns

namespace Spares

theorem refl (s : Service) : Spares s s := ⟨rfl, rfl, rfl⟩

theorem trans (h : Spares s s₁) (h₁ : Spares s₁ s₂) : Spares s s₂ :=
  ⟨h₁.roster.trans h.roster, h₁.clients.trans h.clients, h₁.turns.trans h.turns⟩

theorem note (e : Log.Entry) : Spares s (s.note e) := ⟨rfl, rfl, rfl⟩

theorem answer : Spares s (s.answer label r) := ⟨rfl, rfl, rfl⟩

theorem report : Spares s s.report.1 := ⟨rfl, rfl, rfl⟩

theorem eased (h : Spares s s₁) (eased : s.board.session.Eased) : s₁.board.session.Eased := by
  obtain ⟨-, clients, turns⟩ := h
  have regular : s₁.board.session.Regular := fun i => by
    rw [turns, Session.queue, show s₁.board.session.clients = _ from clients]
    exact eased.settled.regular i
  refine ⟨⟨regular, turns.trans eased.settled.rest, ?_⟩, ?_⟩
  · rw [Session.now, Session.Shows, show s₁.board.session.clients = _ from clients]
    exact eased.settled.together
  · rw [show s₁.board.session.clients = _ from clients]
    exact eased.ease

end Spares

/-- Of one service another came by loading what it is to offer. -/
structure Prepares (s s' : Service) : Prop where
  roster : s'.roster = s.roster
  documents : s'.documents = s.documents
  clients : s'.clients = s.clients
  turns : s'.board.session.turns = s.board.session.turns
  tickets : s'.board.tickets = s.board.tickets

namespace Prepares

theorem trans (h : Prepares s s₁) (h₁ : Prepares s₁ s₂) : Prepares s s₂ :=
  ⟨h₁.roster.trans h.roster, h₁.documents.trans h.documents, h₁.clients.trans h.clients,
    h₁.turns.trans h.turns, h₁.tickets.trans h.tickets⟩

theorem registerTools (methods : List Method) : Prepares s (s.registerTools methods).1 := by
  unfold Service.registerTools
  split <;> exact ⟨rfl, rfl, rfl, rfl, rfl⟩

theorem start : Prepares s (s.start fs).1 := by
  unfold Service.start
  dsimp only
  split
  · exact ⟨rfl, rfl, rfl, rfl, rfl⟩
  · refine Prepares.trans ?_ (registerTools _)
    split <;> exact ⟨rfl, rfl, rfl, rfl, rfl⟩

/-- Who enters is answered when everything is loaded, or when that fails. -/
theorem enter : ∃ s₁ r, Prepares s s₁ ∧ s.enter fs label = s₁.answer label r := by
  unfold Service.enter
  have start : Prepares s (s.start fs).1 := start
  split <;> next made =>
    rw [made] at start
    exact ⟨_, _, start, rfl⟩

end Prepares

theorem Spares.enter : Spares s (s.enter fs label) := by
  obtain ⟨s₁, r, prepares, same⟩ := Prepares.enter
  rw [same]
  exact ⟨prepares.roster, prepares.clients, prepares.turns⟩

/-- What becomes of a service by a call: it is answered at once, or a tool is called. -/
inductive Handles (s : Service) (fs : Files) (label : String) (delivery : Delivery) :
    Service → Prop
  | answers (r : Reply) : Handles s fs label delivery (s.answer label r)
  | notes (e : Log.Entry) (r : Reply) : Handles s fs label delivery ((s.note e).answer label r)
  | performs (tool : Tool Action) (args : Json) :
    Handles s fs label delivery (s.perform fs label delivery tool args)

theorem handles_callText {args : Option Json} :
    Handles s fs label .text (s.callText fs label name args) := by
  unfold callText
  split
  · exact .answers _
  · exact .performs _ _

theorem handles_callTool {args : Option Json.Members} :
    Handles s fs label .message (s.callTool fs label name args) := by
  unfold callTool
  split
  · exact .notes _ _
  · split
    · exact .answers _
    · split
      · exact .answers _
      · exact .performs _ _

/-- Of one service another came by something that happened to its clients. -/
structure Stirs (s s' : Service) (h : Happening) : Prop where
  roster : s'.roster = s.roster
  session : s'.board.session = s.board.session.meet h

/-- An event concerns no client before it is something that happens to all of them. -/
def Concerns (s s' : Service) : Prop := ∃ s₁ h, Spares s s₁ ∧ h.isOrderly ∧ Stirs s₁ s' h

theorem Spares.concerns (h : Spares s s₁) : Concerns s s₁.settle :=
  ⟨s₁, .inputs [], h, rfl, rfl, rfl⟩

/-- A call concerns no client, or one of them is asked to send something. -/
theorem concerns_perform (args : Json) :
    Concerns s (s.perform fs label delivery tool args).settle := by
  unfold perform
  split
  · exact Spares.concerns ⟨rfl, rfl, rfl⟩
  · next documents p made =>
    dsimp only
    split
    · exact Spares.concerns ⟨rfl, rfl, rfl⟩
    · exact ⟨s, .inputs [(p.server, .call (.sends p.sends))], .refl s, rfl, rfl, rfl⟩

theorem Handles.concerns (h : Handles s fs label delivery s₁) : Concerns s s₁.settle := by
  cases h with
  | answers r => exact Spares.answer.concerns
  | notes e r => exact ((Spares.note e).trans .answer).concerns
  | performs tool args => exact concerns_perform args

/-- Requests are cancelled by way of the calls that they are made of. -/
theorem concerns_cancel : Concerns s ({ s with board := s.board.cancel label } : Service).settle := by
  let parts := (s.board.tickets.filter (·.label == label)).flatMap (·.parts)
  refine ⟨s, .inputs (parts.map fun p => (p.1, .cancel p.2)), .refl s, ?_, rfl, ?_⟩
  · refine List.all_eq_true.mpr fun p mem => ?_
    obtain ⟨q, -, rfl⟩ := List.mem_map.mp mem
    rfl
  · rw [Session.meet, Session.Happening.moves, Session.moves, List.foldl_map, List.foldl_map]
    rfl

theorem session_askAll {is : List Nat} {x : Client.Input} {b : Board Purpose} :
    (is.foldl (fun b i => b.input i x) b).session =
      is.foldl (fun s i => s.input i x) b.session := by
  induction is generalizing b with
  | nil => rfl
  | cons i is ih => exact ih

/-- On leaving, all clients are disposed of together. -/
theorem concerns_leave : Concerns s (s.leave label).settle := by
  have once : (List.range s.clients.length).Nodup := List.nodup_range
  refine ⟨s.noteInfo "Shutting down LSPs...", disposing (List.range s.clients.length), .note _,
    Session.orderly_disposing once, rfl, ?_⟩
  rw [Session.meet, disposing, Session.Happening.moves, Session.moves, List.foldl_map, List.foldl_map]
  exact congrArg Session.settle session_askAll

theorem concerns_meet {e : Event} (orderly : e.isOrderly) (acts : e ≠ .reports) :
    Concerns s (s.meet e) := by
  cases e with
  | enters fs label => exact Spares.enter.concerns
  | callsText fs label name args => exact handles_callText.concerns
  | callsTool fs label name args => exact handles_callTool.concerns
  | cancels label => exact concerns_cancel
  | leaves label => exact concerns_leave
  | happens h => exact ⟨s, h, .refl s, orderly, rfl, rfl⟩
  | reports => exact absurd rfl acts

/-! ## What lasts -/

theorem roster_meet {e : Event} (orderly : e.isOrderly) : (s.meet e).roster = s.roster := by
  by_cases acts : e = .reports
  · subst acts
    rfl
  · obtain ⟨s₁, h, spares, -, stirs⟩ := concerns_meet orderly acts
    exact stirs.roster.trans spares.roster

theorem eased_meet {e : Event} (orderly : e.isOrderly) (eased : s.board.session.Eased) :
    (s.meet e).board.session.Eased := by
  by_cases acts : e = .reports
  · subst acts
    exact Spares.report.eased eased
  · obtain ⟨s₁, h, spares, calm, stirs⟩ := concerns_meet orderly acts
    rw [stirs.session]
    exact (spares.eased eased).meet calm

section Course
variable {es : List Event} (orderly : ∀ e ∈ es, e.isOrderly)
include orderly

theorem roster_course : (s.course es).roster = s.roster := by
  induction es generalizing s with
  | nil => rfl
  | cons e es ih =>
    exact (ih fun e mem => orderly e (List.mem_cons_of_mem _ mem)).trans
      (roster_meet (orderly e List.mem_cons_self))

theorem eased_course (eased : s.board.session.Eased) : (s.course es).board.session.Eased := by
  induction es generalizing s with
  | nil => exact eased
  | cons e es ih =>
    exact ih (fun e mem => orderly e (List.mem_cons_of_mem _ mem))
      (eased_meet (orderly e List.mem_cons_self) eased)

/-- What every step of a client keeps is kept in the course of a gateway. -/
theorem carries_course {P : Client → Prop}
    (step : ∀ (b : Client) (x : Client.Input), b.Poised → x.Fits b → P b → P (b.step x))
    (eased : s.board.session.Eased) (here : s.clients[i]? = some c) (holds : P c) :
    ∃ c₁, (s.course es).clients[i]? = some c₁ ∧ P c₁ := by
  induction es generalizing s c with
  | nil => exact ⟨c, here, holds⟩
  | cons e es ih =>
    have now := orderly e List.mem_cons_self
    have later (e) (mem : e ∈ es) : e.isOrderly := orderly e (List.mem_cons_of_mem _ mem)
    by_cases acts : e = .reports
    · subst acts
      exact ih later (Spares.report.eased eased) here holds
    · obtain ⟨s₁, h, spares, calm, stirs⟩ := concerns_meet now acts
      have here₁ : s₁.clients[i]? = some c := by rw [spares.clients]; exact here
      have calm : ∀ h' ∈ [h], h'.isOrderly := by simpa using calm
      obtain ⟨c₁, after, holds₁⟩ := Session.Eased.carries step (spares.eased eased) calm here₁ holds
      have after : (s.meet e).clients[i]? = some c₁ := by
        rw [clients, stirs.session]
        exact after
      exact ih later (eased_meet now eased) after holds₁

end Course

theorem eased_create {env : Environment} {config : Config} {policies : String → List Policy}
    (created : create fs env config policies = .ok s) : s.board.session.Eased := by
  unfold create at created
  split at created
  · cases created
  · obtain rfl := Except.ok.inj created
    refine Session.eased_ofClients fun c mem => ?_
    obtain ⟨server, -, rfl⟩ := List.mem_map.mp mem
    exact ⟨_, _, _, rfl⟩

end Service

end LspGateway
