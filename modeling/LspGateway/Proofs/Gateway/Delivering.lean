import LspGateway.Proofs.Gateway.Opening
import LspGateway.Proofs.Json.Spelling

/-! # How results are delivered

A call is kept in mind until a report tells of it, and what its sends have ended with stays. So in
every run the value that the handler of a tool has returned is told as a text: a text as it is, and
any other value in ASCII and so that it is read back.
-/

namespace LspGateway

/-! ## What a call has ended with stays -/

namespace Client

variable {c : Client} {x : Input} {lost : List Loss} {n : Nat} {o : Outcome}

theorem callOutcome_step (sound : Sound c none lost) (fits : x.Fits c)
    (ended : c.callOutcome? n = some o) : (c.step x).callOutcome? n = some o := by
  obtain ⟨s, here⟩ := callOutcome_eq_some.mp ended
  -- Only a call that is under way has a turn to come.
  have apart : ¬ c.IsTurn n x := by
    rintro ⟨-, first⟩
    obtain ⟨⟨⟩⟩ | ⟨live, -⟩ := sound.fit.canGo _ (List.mem_of_mem_head? first)
    simp [standing, here, Call.standing] at live
    cases live
  obtain ⟨s', after⟩ := call_kept sound fits apart here
  exact callOutcome_eq_some.mpr ⟨s', after⟩

end Client

namespace Session
open Client (Input Outcome Sound)

variable {s s₁ s₂ : Session} {x : Input} {i n begun : Nat}

/-- What a call of a client has ended with. -/
def outcome? (s : Session) (i n : Nat) : Option Outcome := s.clients[i]?.bind (·.callOutcome? n)

/-- All clients stand as they may. -/
def IsSound (s : Session) : Prop :=
  ∀ c ∈ s.clients, c.audience = .client ∧ ∃ lost, Sound c none lost

/-- Of one session another came in which the clients stand as they may, if they did, and what their
calls had ended with has stayed. -/
def Lasts (s s₁ : Session) : Prop :=
  s.IsSound → s₁.IsSound ∧ ∀ i n o, s.outcome? i n = some o → s₁.outcome? i n = some o

theorem lasts_of_clients (same : s₁.clients = s.clients) : s.Lasts s₁ := by
  unfold Lasts IsSound outcome?
  rw [same]
  exact fun sound => ⟨sound, fun _ _ _ ended => ended⟩

theorem Lasts.trans (h : s.Lasts s₁) (h₁ : s₁.Lasts s₂) : s.Lasts s₂ := by
  intro sound
  obtain ⟨sound₁, stays⟩ := h sound
  obtain ⟨sound₂, stays₁⟩ := h₁ sound₁
  exact ⟨sound₂, fun i n o ended => stays₁ i n o (stays i n o ended)⟩

theorem lasts_apply (fits : ∀ c : Client, c.audience = .client → x.Fits c) :
    s.Lasts (s.apply i begun x) := by
  intro sound
  constructor
  · refine all_apply sound (fun _ stands => stands) fun c ⟨client, _, sound⟩ => ?_
    have fits := fits c client
    exact ⟨(Client.audience_step sound.fit fits).trans client, _,
      (Client.invariant_true.step trivial fits sound trivial).1⟩
  · intro j n o ended
    by_cases own : j = i
    · subst own
      obtain ⟨c, here, ended⟩ := Option.bind_eq_some_iff.mp ended
      obtain ⟨client, _, stands⟩ := sound c (List.mem_of_getElem? here)
      rw [outcome?, clients_apply_same, here]
      exact Client.callOutcome_step stands (fits c client) ended
    · rwa [outcome?, clients_apply_other own]

theorem lasts_foldl {α : Type} {f : Session → α → Session} {xs : List α}
    (step : ∀ s x, Lasts s (f s x)) : s.Lasts (xs.foldl f s) := by
  induction xs generalizing s with
  | nil => exact lasts_of_clients rfl
  | cons x xs ih => exact (step s x).trans ih

theorem lasts_turn : s.Lasts s.turn := by
  unfold turn
  split
  · exact lasts_of_clients rfl
  · next rest _ =>
    have idle : s.Lasts { s with turns := rest } := lasts_of_clients rfl
    exact idle.trans (lasts_apply fun _ _ => trivial)

theorem lasts_passTo {time due : Nat} : s.Lasts (s.passTo time due) :=
  lasts_foldl fun _ _ => lasts_apply fun _ _ => trivial

end Session

/-! ## A request is kept in mind until a report tells of it -/

namespace Service
open Gateway
open Client (Outcome)

variable {s s₀ s₁ : Service} {fs fs₀ : Files} {label name : String} {delivery : Delivery}
  {tool : Tool Action} {t : Ticket Purpose} {config : Config} {env : Environment}
  {policies : String → List Policy}

/-- A request is on the board, whether it is cancelled or not. -/
def Minds (s : Service) (t : Ticket Purpose) : Prop :=
  ∃ b, { t with cancelled := b } ∈ s.board.tickets

/-- A request that is on the board has ended. -/
def Ends (s : Service) (t : Ticket Purpose) (o : Outcome) : Prop :=
  ∃ b, { t with cancelled := b } ∈ s.board.tickets ∧
    Board.outcome? s.board.session { t with cancelled := b } = some o

/-- The next report tells of a request that has ended. -/
theorem Ends.told {o : Outcome} (h : s.Ends t o) :
    (t.label, t.purpose.reply o) ∈ s.report.2.replies := by
  obtain ⟨b, mem, ended⟩ := h
  refine List.mem_map.mpr ⟨({ t with cancelled := b }, o), List.mem_filterMap.mpr ?_, rfl⟩
  exact ⟨_, mem, by rw [ended]; rfl⟩

/-- Of one service another came that has forgotten nothing. -/
structure Continues (s s₁ : Service) : Prop where
  session : s.board.session.Lasts s₁.board.session
  minds : ∀ t, s.Minds t → s₁.Minds t

theorem continues_adds (session : s.board.session.Lasts s₁.board.session)
    (more : s.board.tickets <+: s₁.board.tickets) : s.Continues s₁ :=
  ⟨session, fun _ minds => minds.imp fun _ mem => more.subset mem⟩

theorem continues_answer {r : Reply} : s.Continues (s.answer label r) :=
  continues_adds (Session.lasts_of_clients rfl) (List.prefix_append _ _)

theorem continues_enter : s.Continues (s.enter fs label) := by
  obtain ⟨s₁, r, prepares, same⟩ := Prepares.enter
  rw [same]
  refine continues_adds (Session.lasts_of_clients prepares.clients) ?_
  rw [← prepares.tickets]
  exact List.prefix_append _ _

theorem continues_perform (args : Json) : s.Continues (s.perform fs label delivery tool args) := by
  unfold perform
  split
  · exact continues_adds (Session.lasts_of_clients rfl) (List.prefix_append _ _)
  · dsimp only
    split
    · exact continues_adds (Session.lasts_of_clients rfl) (List.prefix_append _ _)
    · exact continues_adds (Session.lasts_apply fun _ _ => trivial) (List.prefix_append _ _)

theorem Handles.continues (h : Handles s fs label delivery s₁) : s.Continues s₁ := by
  cases h with
  | answers r => exact continues_answer
  | notes e r => exact continues_adds (Session.lasts_of_clients rfl) (List.prefix_append _ _)
  | performs tool args => exact continues_perform args

theorem continues_cancel : s.Continues { s with board := s.board.cancel label } := by
  refine ⟨Session.lasts_foldl fun _ _ => Session.lasts_apply fun _ _ => trivial, ?_⟩
  rintro t ⟨b, mem⟩
  by_cases chosen : t.label == label
  · exact ⟨true, List.mem_map.mpr ⟨_, mem, if_pos chosen⟩⟩
  · exact ⟨b, List.mem_map.mpr ⟨_, mem, if_neg chosen⟩⟩

theorem continues_leave : s.Continues (s.leave label) := by
  refine continues_adds ?_ (List.prefix_append _ _)
  have noted : s.board.session.Lasts (s.noteInfo "Shutting down LSPs...").board.session :=
    Session.lasts_of_clients rfl
  have asked : (s.leave label).board.session = (List.range s.clients.length).foldl
      (fun b i => b.input i (.call .dispose)) (s.noteInfo _).board.session := session_askAll
  rw [asked]
  exact noted.trans (Session.lasts_foldl fun _ _ => Session.lasts_apply fun _ client => client)

/-- Only a report takes a request from the board. -/
theorem continues_follow {step : Step} (quiet : step ≠ .reports) : s.Continues (s.follow step) := by
  cases step with
  | enters fs label => exact continues_enter
  | lists label => exact continues_answer
  | callsText fs label name args => exact handles_callText.continues
  | callsTool fs label name args => exact handles_callTool.continues
  | cancels label => exact continues_cancel
  | leaves label => exact continues_leave
  | reports => exact absurd rfl quiet
  | goesOn => exact ⟨Session.lasts_turn, fun _ minds => minds⟩
  | passes time due => exact ⟨Session.lasts_passTo, fun _ minds => minds⟩
  | does i deed own =>
    refine ⟨Session.lasts_apply fun _ _ => ?_, fun _ minds => minds⟩
    cases deed <;> trivial

theorem lasts_followAll (steps : List Step) :
    s.board.session.Lasts (s.followAll steps).board.session := by
  induction steps generalizing s with
  | nil => exact Session.lasts_of_clients rfl
  | cons step steps ih =>
    refine Session.Lasts.trans ?_ ih
    by_cases reports : step = .reports
    · subst reports
      exact Session.lasts_of_clients rfl
    · exact (continues_follow reports).session

/-- A report tells of a request, or leaves it on the board. -/
theorem Minds.report (h : s.Minds t) : (∃ o, s.Ends t o) ∨ s.report.1.Minds t := by
  obtain ⟨b, mem⟩ := h
  cases ended : Board.outcome? s.board.session { t with cancelled := b } with
  | some o => exact .inl ⟨o, b, mem, ended⟩
  | none => exact .inr ⟨b, List.mem_filter.mpr ⟨mem, by simp [ended]⟩⟩

/-- In every run a request is on the board until it has ended and a report tells of it. -/
theorem Minds.followAll (h : s.Minds t) (steps : List Step) :
    (s.followAll steps).Minds t ∨ ∃ before after o,
      steps = before ++ .reports :: after ∧ (s.followAll before).Ends t o := by
  induction steps generalizing s with
  | nil => exact .inl h
  | cons step steps ih =>
    by_cases reports : step = .reports
    · subst reports
      obtain ⟨o, ended⟩ | h := h.report
      · exact .inr ⟨[], steps, o, rfl, ended⟩
      · obtain later | ⟨before, after, o, rfl, ended⟩ := ih h
        · exact .inl later
        · exact .inr ⟨.reports :: before, after, o, rfl, ended⟩
    · obtain later | ⟨before, after, o, rfl, ended⟩ := ih ((continues_follow reports).minds t h)
      · exact .inl later
      · exact .inr ⟨step :: before, after, o, rfl, ended⟩

theorem followAll_append (before after : List Step) :
    s.followAll (before ++ after) = (s.followAll before).followAll after :=
  List.foldl_append

/-- A request that has ended in a run has been told of, or the next report tells of it. -/
theorem Minds.told (h : s.Minds t) {steps : List Step} (past : ∀ b, ∃ o,
      Board.outcome? (s.followAll steps).board.session { t with cancelled := b } = some o) :
    ∃ before after o, steps ++ [.reports] = before ++ .reports :: after ∧
      (s.followAll before).Ends t o ∧
      (s.followAll before).board.session.Lasts (s.followAll steps).board.session := by
  obtain ⟨b, mem⟩ | ⟨before, after, o, rfl, ends⟩ := h.followAll steps
  · obtain ⟨o, ended⟩ := past b
    exact ⟨steps, [], o, rfl, ⟨b, mem, ended⟩, Session.lasts_of_clients rfl⟩
  · refine ⟨before, after ++ [.reports], o, by simp, ends, ?_⟩
    rw [followAll_append]
    exact lasts_followAll _

theorem isSound_of_created (created : create fs₀ env config policies = .ok s₀)
    (steps : List Step) : (s₀.followAll steps).board.session.IsSound := by
  intro c mem
  have scripted := ((IsBriefed.create created).followAll steps c mem).scripted
  exact ⟨scripted.client, scripted.sound⟩

end Service

/-! ## The text of a result -/

/-- A text stands for a value. -/
structure GivesBack (text : String) (j : Json) : Prop where
  /-- A text is given as it is. -/
  itself : ∀ s, j = .str s → text = s
  ascii : (∀ s, j ≠ .str s) → ∀ c ∈ text.toList, c.toNat < 128
  /-- Any other value is read back, its members in their order, if it is within the limits of the
  reader. -/
  read : (∀ s, j ≠ .str s) → Json.fits Json.maxDepth j → Json.parse text.toList = .ok j

theorem givesBack_resultText (j : Json) : GivesBack (resultText j) j := by
  have laidOut (other : ∀ s, j ≠ .str s) : (resultText j).toList = Json.layout 0 j := by
    cases j with
    | str s => exact absurd rfl (other s)
    | _ => exact String.toList_ofList
  constructor
  case itself =>
    rintro s rfl
    rfl
  case ascii =>
    intro other c mem
    rw [laidOut other, Json.layout_eq_spell] at mem
    exact of_decide_eq_true (List.all_eq_true.mp (Json.all_isAscii_spell .indented j 0) c mem)
  case read =>
    intro other fits
    rw [laidOut other]
    exact Json.parse_layout fits

namespace Gateway

/-- What a handler returns when the result of its sends is there. -/
inductive Answer.Yields : Answer → Json → Json → Prop
  | own {j v : Json} : Yields (.value j) v j
  | last {v : Json} : Yields .lastResult v v

theorem Answer.Yields.deliver {a : Answer} {v result : Json} (h : a.Yields v result) :
    deliver .text a (.value v) = .value (.str (resultText result)) := by
  cases h <;> rfl

/-- The request that a planned call becomes whose sends are a certain call of a client. -/
def Plan.ticket (p : Plan) (label : String) (n : Nat) : Ticket Purpose :=
  match p.sends with
  | [] => ⟨label, [], true, false, .decided (Gateway.deliver .text p.answer .done)⟩
  | _ :: _ => ⟨label, [(p.server, n)], false, false, .call .text p.answer⟩

section Ticket
variable {p : Plan} {label : String} {n : Nat}

theorem Plan.ticket_atOnce (none : p.sends = []) : p.ticket label n =
    ⟨label, [], true, false, .decided (Gateway.deliver .text p.answer .done)⟩ := by
  rw [ticket, none]

theorem Plan.ticket_later (asks : p.sends ≠ []) : p.ticket label n =
    ⟨label, [(p.server, n)], false, false, .call .text p.answer⟩ := by
  unfold ticket
  split
  · next none => exact absurd none asks
  · rfl

theorem Plan.label_ticket : (p.ticket label n).label = label := by
  unfold ticket
  split <;> rfl

end Ticket

end Gateway

namespace Service
open Gateway
open Client (Outcome)

variable {s s₀ s₁ : Service} {fs fs₀ : Files} {label name : String} {tool : Tool Action}
  {args result : Json} {p : Plan} {n : Nat} {config : Config} {env : Environment}
  {policies : String → List Policy}

/-- The handler of a call has returned a value: at once if it has nothing to send, or else when its
sends, which are a certain call of a client, have ended with a result. -/
inductive Returned (s : Service) (p : Plan) (n : Nat) (result : Json) : Prop
  | atOnce (none : p.sends = []) (yields : p.answer.Yields .null result)
  | later {v : Json} (asks : p.sends ≠ [])
    (ended : s.board.session.outcome? p.server n = some (.value v))
    (yields : p.answer.Yields v result)

theorem minds_callText (known : s.tools.find name = .ok tool)
    (planned : (planFor fs s.roster s.status s.documents tool.handler args).2 = .ok p) :
    (s.callText fs label name (some args)).Minds
      (p.ticket label (s.board.nextCall p.server)) := by
  unfold callText Registry.findFor perform
  rw [known]
  dsimp only
  split
  · next made =>
    rw [made] at planned
    cases planned
  · next p' made =>
    rw [made] at planned
    obtain rfl : p' = p := Except.ok.inj planned
    split
    · next none =>
      rw [Plan.ticket_atOnce none]
      exact ⟨false, List.mem_append_right _ List.mem_cons_self⟩
    · next asks =>
      rw [Plan.ticket_later asks]
      exact ⟨false, List.mem_append_right _ List.mem_cons_self⟩

/-- What the sends of a call have ended with is what its request has. -/
theorem outcome_ticket {b : Bool} (asks : p.sends ≠ []) :
    Board.outcome? s.board.session { p.ticket label n with cancelled := b } =
      s.board.session.outcome? p.server n := by
  rw [Plan.ticket_later asks]
  unfold Board.outcome? Board.partOutcomes? Session.outcome?
  cases ended : s.board.session.clients[p.server]?.bind (·.callOutcome? n) <;> simp [ended]

theorem Returned.ended (h : s.Returned p n result) (b : Bool) :
    ∃ o, Board.outcome? s.board.session { p.ticket label n with cancelled := b } = some o := by
  cases h with
  | atOnce none =>
    rw [Plan.ticket_atOnce none]
    exact ⟨_, rfl⟩
  | later asks ended =>
    rw [outcome_ticket asks]
    exact ⟨_, ended⟩

/-- What a handler has returned by then is the answer to a request that has ended. -/
theorem Returned.reply {o : Outcome} (h : s₁.Returned p n result)
    (stays : ∀ i n o, s.board.session.outcome? i n = some o →
      s₁.board.session.outcome? i n = some o)
    (ends : s.Ends (p.ticket label n) o) :
    (p.ticket label n).purpose.reply o = .value (.str (resultText result)) := by
  obtain ⟨b, -, ended⟩ := ends
  cases h with
  | atOnce none yields =>
    rw [Plan.ticket_atOnce none]
    exact yields.deliver
  | later asks returned yields =>
    -- The request may have ended long ago, but its sends have not ended with anything else since.
    rw [outcome_ticket asks] at ended
    obtain rfl := Option.some.inj (returned.symm.trans (stays _ _ _ ended))
    rw [Plan.ticket_later asks]
    exact yields.deliver

/-- Once the handler of a tool has returned a value, a report has told of it or the next one does,
by a text that stands for the value. -/
theorem results_survive (created : create fs₀ env config policies = .ok s₀) (past : List Step)
    (run : s₀.followAll past = s) (known : s.tools.find name = .ok tool)
    (planned : (planFor fs s.roster s.status s.documents tool.handler args).2 = .ok p)
    (future : List Step)
    (returned : (s.followAll (.callsText fs label name (some args) :: future)).Returned p
      (s.board.nextCall p.server) result) :
    GivesBack (resultText result) result ∧
    ∃ before after, future ++ [.reports] = before ++ .reports :: after ∧
      (label, .value (.str (resultText result))) ∈
        (s.followAll (.callsText fs label name (some args) :: before)).report.2.replies := by
  have asked : s.Continues (s.callText fs label name (some args)) := handles_callText.continues
  have sound := (asked.session (run ▸ isSound_of_created created past)).1
  obtain ⟨before, after, o, split, ends, lasts⟩ :=
    (minds_callText known planned).told returned.ended
  have stays := (lasts (lasts_followAll before sound).1).2
  refine ⟨givesBack_resultText result, before, after, split, ?_⟩
  rw [← returned.reply stays ends]
  have told := ends.told
  rwa [Plan.label_ticket] at told

/-- A value with containers in containers, some of them empty, and with what needs an escape. -/
def nested : Json :=
  .obj [("", .arr []), ("é😀", .obj [("\n", .null)]),
    ("a", .arr [.arr [.obj []], .int (-12345678901234567890), .str "\"", .bool true])]

/-- Servers that answer a request with the value. -/
def servingNested (_ : String) : List Policy :=
  [{ Policy.plain with replies :=
    [("initialize", .fixed [("result", .obj [])]), ("m", .fixed [("result", nested)])] }]

def callOfNested : Step := .callsText library "ask" "m" (some (.obj []))

theorem exists_of_any {ε α : Type} {r : Except ε α} {holds : α → Bool}
    (any : r.toOption.any holds) : ∃ a, r = .ok a ∧ holds a := by
  cases r with
  | error e => cases any
  | ok a => exact ⟨a, rfl, any⟩

theorem results_survive_nested : ∃ s₀ tool p,
    create library [] (configOf []) servingNested = .ok s₀ ∧
    let s := s₀.followAll [.enters library "enter"]
    let future := List.replicate 10 .goesOn
    s.tools.find "m" = .ok tool ∧
    (planFor library s.roster s.status s.documents tool.handler (.obj [])).2 = .ok p ∧
    (s.followAll (callOfNested :: future)).Returned p (s.board.nextCall p.server) nested ∧
    Json.fits Json.maxDepth nested ∧ GivesBack (resultText nested) nested ∧
    ∃ before after, future ++ [.reports] = before ++ .reports :: after ∧
      ("ask", .value (.str (resultText nested))) ∈
        (s.followAll (callOfNested :: before)).report.2.replies := by
  have facts : (create library [] (configOf []) servingNested).toOption.any fun s₀ =>
      let s := s₀.followAll [.enters library "enter"]
      (s.tools.find "m").toOption.any fun tool =>
        (planFor library s.roster s.status s.documents tool.handler (.obj [])).2.toOption.any
          fun p => p.sends ≠ [] ∧ p.answer = .lastResult ∧
            (s.followAll (callOfNested :: List.replicate 10 .goesOn)).board.session.outcome?
              p.server (s.board.nextCall p.server) = some (.value nested) := by
    decide +kernel
  obtain ⟨s₀, created, facts⟩ := exists_of_any facts
  obtain ⟨tool, known, facts⟩ := exists_of_any facts
  obtain ⟨p, planned, facts⟩ := exists_of_any facts
  obtain ⟨asks, last, ended⟩ := of_decide_eq_true facts
  have fits : Json.fits Json.maxDepth nested := by decide +kernel
  have returned : ((s₀.followAll [.enters library "enter"]).followAll
      (callOfNested :: List.replicate 10 .goesOn)).Returned p
        ((s₀.followAll [.enters library "enter"]).board.nextCall p.server) nested :=
    .later asks ended (last ▸ .last)
  refine ⟨s₀, tool, p, created, known, planned, returned, fits, ?_⟩
  exact results_survive created _ rfl known planned _ returned

end Service

end LspGateway
