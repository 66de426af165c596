import LspGateway.Proofs.Gateway.Registration
import LspGateway.Proofs.Gateway.Routing
import LspGateway.Proofs.Session.Course

/-! # What a call does to the servers

The call of a method's tool asks one server for what is to be sent and leaves all others alone. If
its document is a file that cannot be read, it asks no server for anything.
-/

namespace LspGateway
open Gateway

/-! ## One server is asked -/

namespace Service

variable {s : Service} {fs : Files} {label : String} {delivery : Delivery} {tool : Tool Action}
  {method : String} {args : Json.Members} {n : Nat} {reply : Reply}

/-- Of one service another came by asking one server for some sends. -/
structure Asks (s s' : Service) (n : Nat) (sends : List Send) : Prop where
  asked : s'.clients[n]? = s.clients[n]?.map (·.step (.call (.sends sends)))
  spared : ∀ m, m ≠ n → s'.clients[m]? = s.clients[m]?

/-- What becomes of the servers by a call of a method that goes to one of them. -/
inductive Routed (s s' : Service) (n : Nat) (method : String) (args : Json.Members) : Prop
  | sent {sends : List Send} (asks : Asks s s' n sends)
    (forwards : Forwards (languagesOf s.roster n) method (passedOn s.roster args) sends)
  | refused (file : (Forwarding.fileDocument? (passedOn s.roster args)).isSome)
    (spared : s'.clients = s.clients)

theorem asks_ask {purpose : Purpose} {sends : List Send} :
    Asks s { s with board := s.board.ask label purpose n (.sends sends) } n sends :=
  ⟨Session.clients_apply_same, fun _ => Session.clients_apply_other⟩

/-- The choice of a server is taken out of the arguments where there is a choice. -/
theorem passedOn_eq {r : Roster} :
    (serverProperty? r).elim args (args.erase ·) = passedOn r args := by
  unfold serverProperty? passedOn Roster.hasSeveral
  by_cases several : 1 < r.servers.length
  · simp only [several, decide_true, if_true]
    refine List.filter_congr fun a _ => ?_
    simp only [serverProperty, bne, Bool.beq_eq_decide_eq, decide_not]
  · simp only [several, decide_false, if_false, Bool.false_eq_true]
    rfl

/-- The plan of a call that forwards a method. -/
theorem plan_forward {r : Roster} {status : List ServerStatus} {documents : Nat} :
    planFor fs r status documents (.forward method) (.obj args) =
      (documents,
        (Forwarding.sends fs (languagesOf r (Routing.select r args (serverProperty? r))) method
            (passedOn r args)).mapError CallError.forwarding |>.map fun sends =>
          ⟨Routing.select r args (serverProperty? r), sends, .lastResult⟩) := by
  unfold planFor plan
  simp only [Json.asObject]
  rw [← passedOn_eq]
  cases serverProperty? r <;> dsimp only [Option.elim] <;>
    split <;> next made => rw [made]; rfl

theorem routed_perform (forwards : tool.handler = .forward method) :
    Routed s (s.perform fs label delivery tool (.obj args))
      (Routing.select s.roster args (serverProperty? s.roster)) method args := by
  unfold perform
  rw [forwards, plan_forward]
  cases ok : Forwarding.sends fs (languagesOf s.roster
      (Routing.select s.roster args (serverProperty? s.roster))) method
      (passedOn s.roster args) with
  | error e =>
    refine .refused ?_ rfl
    cases file : Forwarding.fileDocument? (passedOn s.roster args) with
    | some _ => rfl
    | none =>
      rw [Forwarding.sends, file] at ok
      cases ok
  | ok sends =>
    have forwards := forwards_sends ok
    cases forwards with
    | plain none' => exact .sent asks_ask (.plain none')
    | opens file same => exact .sent asks_ask (.opens file same)

/-- Every call of a method's tool goes to the one server that the rules of precedence say, with
the method of the tool and the arguments that are passed on. A server that the tool offers to
choose from is the one that its id leads to. -/
theorem calls_routed {servers : List ServerConfig} {methods : List Method}
    (accepted : Roster.ofServers servers = .ok s.roster)
    (tools : s.tools = (registerAll s.catalog.graph s.roster methods []).1)
    (registered : tool ∈ s.tools) (forwards : tool.handler = .forward method) :
    (∃ m ∈ methods, m.id = method ∧ tool.id = toolId method) ∧
    (∀ fs args, ∃ n, n < servers.length ∧ (∀ m, GoesTo s.roster args m ↔ m = n) ∧
      ∀ label,
        Routed s (s.callText fs label tool.id (some (.obj args))) n method args ∧
        (Routed s (s.callTool fs label tool.id (some args)) n method args ∨
          (s.callTool fs label tool.id (some args)).clients = s.clients)) ∧
    (1 < servers.length →
      choices s.catalog.graph tool.schema = servers.map (.atom <| .str ·.id) ∧
      ∀ (args : Json.Members) n server, servers[n]? = some server → server.id ≠ "" →
        args.get? "lsp" = some (.str server.id) → GoesTo s.roster args n) := by
  obtain ⟨finds, rfl, some'⟩ := Roster.finds_ofServers accepted
  have collects := collects_registerAll s.catalog.graph s.roster methods
  rw [← tools] at collects
  obtain ⟨m, mem, rfl, exposes⟩ := (collects.each tool registered).method forwards
  have known := collects.apart.find registered
  refine ⟨⟨m, mem, rfl, exposes.id⟩, fun fs args => ?_, fun several => ?_⟩
  · refine ⟨Routing.select s.roster args (serverProperty? s.roster), ?_, ?_, fun label => ?_⟩
    · exact ((goesTo_iff finds).mpr rfl).lt finds some'
    · intro n
      rw [goesTo_iff finds]
      exact eq_comm
    · constructor
      · have call : s.callText fs label tool.id (some (.obj args)) =
            s.perform fs label .text tool (.obj args) := by
          simp only [callText, Registry.findFor, known]
        rw [call]
        exact routed_perform forwards
      · unfold callTool
        dsimp only
        rw [known]
        dsimp only
        split
        · exact .inr rfl
        · exact .inl (routed_perform forwards)
  · refine ⟨exposes.choices several, fun args n server here some given => ?_⟩
    exact goesTo_own finds here several some given

/-- A service for a server with the id `x` and one with a given id that exposes one method. -/
def besides (id : String) : Service :=
  let servers : List ServerConfig := [⟨"x", [], [], "", []⟩, ⟨id, [], [], "", []⟩]
  let roster : Roster :=
    ⟨servers, [("x", 0), (Text.lower id, 1)], [], [("x", 0), (Text.lower id, 1)]⟩
  ⟨"", roster, .create none none,
    (registerAll ⟨#[]⟩ roster [⟨"textDocument/hover", "", .obj []⟩] []).1,
    .ofClients (servers.map fun server => Client.ofConfig server "" []), 0⟩

/-- The last of the tools is that of the method. -/
theorem besides_hover (id : String) : ∃ tool ∈ (besides id).tools,
    tool.id = "textDocument_hover" ∧ tool.handler = .forward "textDocument/hover" := by
  unfold besides registerAll sortMethods
  rw [List.mergeSort_singleton]
  refine ⟨_, List.mem_cons_of_mem _ (List.mem_cons_of_mem _ List.mem_cons_self), ?_, ?_⟩ <;> rfl

theorem calls_routed_to_second :
    Roster.ofServers (besides "y").roster.servers = .ok (besides "y").roster ∧
      ∀ fs label, Routed (besides "y") ((besides "y").callText fs label "textDocument_hover"
        (some (.obj [("lsp", .str "Y")]))) 1 "textDocument/hover" [("lsp", .str "Y")] := by
  have accepted : Roster.ofServers (besides "y").roster.servers = .ok (besides "y").roster := rfl
  refine ⟨accepted, fun fs label => ?_⟩
  obtain ⟨tool, registered, named, forwards⟩ := besides_hover "y"
  obtain ⟨-, routed, -⟩ := calls_routed accepted rfl registered forwards
  obtain ⟨n, -, only, routed⟩ := routed fs [("lsp", .str "Y")]
  have second : GoesTo (besides "y").roster [("lsp", .str "Y")] 1 :=
    .named (.id (by decide) rfl (by decide) (by decide +kernel))
  rw [named, ← (only 1).mp second] at routed
  exact (routed label).1

theorem empty_id_overlooked :
    Roster.ofServers (besides "").roster.servers = .ok (besides "").roster ∧
      (∃ tool ∈ (besides "").tools, tool.handler = .forward "textDocument/hover" ∧
        .atom (.str "") ∈ choices (besides "").catalog.graph tool.schema) ∧
      (besides "").roster.servers[1]?.map (·.id) = some "" ∧
      GoesTo (besides "").roster [("lsp", .str "")] 0 ∧
      ¬ GoesTo (besides "").roster [("lsp", .str "")] 1 := by
  have accepted : Roster.ofServers (besides "").roster.servers = .ok (besides "").roster := rfl
  obtain ⟨finds, -, -⟩ := Roster.finds_ofServers accepted
  refine ⟨accepted, ?_, rfl, ?_, ?_⟩
  · obtain ⟨tool, registered, -, forwards⟩ := besides_hover ""
    have collects := collects_registerAll ⟨#[]⟩ (besides "").roster
      [⟨"textDocument/hover", "", .obj []⟩]
    obtain ⟨m, -, -, exposes⟩ := (collects.each tool registered).method forwards
    refine ⟨tool, registered, forwards, ?_⟩
    have listed := exposes.choices (by decide)
    exact listed ▸ List.mem_cons_of_mem _ List.mem_cons_self
  · exact (goesTo_iff finds).mpr rfl
  · rw [goesTo_iff finds]
    decide

end Service

end LspGateway
