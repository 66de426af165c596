import LspGateway.Proofs.Client.Informing
import LspGateway.Proofs.Config.Loading
import LspGateway.Proofs.Gateway.Calls
import LspGateway.Proofs.Gateway.Course

/-! # Documents that are held in memory

The URI of a document in memory ends in the id of the server that was told of it. A call about the
document finds the way back by that id, unless it is an extension of another server.
-/

namespace LspGateway

/-! ## Where the URI leads -/

namespace Text

theorem startsWith_self_append (cs ds : List Char) : startsWith cs (cs ++ ds) := by
  induction cs with
  | nil => rfl
  | cons c cs ih => simpa [startsWith] using ih

theorem stripDots_of_not_mem {s : String} (free : '.' ∉ s.toList) : stripDots s = s :=
  stripDots_eq_iff.mpr ⟨0, rfl, fun first => free (List.mem_of_mem_head? first)⟩

end Text

namespace Gateway
open LspGateway.Text Routing Roster

variable {r : Roster} {args : Json.Members} {k n : Nat} {id : String}

theorem isMemory_memoryUri : Uri.isMemory (memoryUri n id) := by
  unfold Uri.isMemory memoryUri
  rw [String.append_assoc, String.append_assoc, String.toList_append]
  exact startsWith_self_append _ _

theorem endsIn_memoryUri (some : id ≠ "") (free : '.' ∉ id.toList) : EndsIn (memoryUri n id) id := by
  refine ⟨some, free, (Uri.memoryScheme ++ hex 16 n).toList, ?_⟩
  unfold memoryUri
  rw [String.toList_append, String.toList_append, List.append_assoc]
  rfl

/-- The server that an id leads to when it ends a URI: the first that lists it as an extension, or
else the one that it names. -/
def heir (r : Roster) (k : Nat) : Nat :=
  (r.servers.findIdx? fun s => s.extensions.any (extensionKey · == lower (r.idOf k))).getD k

/-- A call about a document in memory goes to the heir of the server that was told of it. -/
theorem goesTo_heir (h : r.Finds) {server : ServerConfig} (here : r.servers[k]? = some server)
    (some : server.id ≠ "") (free : '.' ∉ server.id.toList)
    (document : ((args.get? "textDocument").bind (·.get? "uri")) =
      .some (.str (memoryUri n (r.idOf k))))
    (unnamed : ∀ m, ¬ Names r args m) (m : Nat) : GoesTo r args m ↔ m = heir r k := by
  have id : r.idOf k = server.id := by rw [idOf, here]; rfl
  have key : extensionKey server.id = lower server.id := by
    rw [extensionKey, stripDots_of_not_mem free]
  have suits : Suits r args (heir r k) := by
    refine .intro document (id ▸ endsIn_memoryUri some free) ?_
    rw [h.extension, id, key, ← h.id, h.own here, heir, id]
    cases r.servers.findIdx? fun s => s.extensions.any (extensionKey · == lower server.id) <;> rfl
  have goes : GoesTo r args (heir r k) := .suited unnamed suits
  rw [goesTo_iff h] at goes ⊢
  rw [goes]
  exact eq_comm

/-- Who handles a call is no part of what it says of its document. -/
theorem get?_passedOn {key : String} (other : key ≠ "lsp") :
    (passedOn r args).get? key = args.get? key := by
  unfold passedOn
  split
  · exact Json.Members.get?_filter (p := (· ≠ "lsp")) (decide_eq_true other)
  · rfl

/-- A document in memory is in no file. -/
theorem fileDocument_memory
    (document : ((args.get? "textDocument").bind (·.get? "uri")) = .some (.str (memoryUri n id))) :
    Forwarding.fileDocument? (passedOn r args) = none := by
  obtain ⟨j, given, uri⟩ := Option.bind_eq_some_iff.mp document
  unfold Forwarding.fileDocument?
  rw [get?_passedOn (by decide), given]
  cases j with
  | obj ms =>
    have uri : Json.Members.get? ms "uri" = some (.str (memoryUri n id)) := uri
    dsimp only
    rw [uri]
    simp [isMemory_memoryUri]
  | _ => rfl

theorem serverForLanguage_lt (h : r.Finds) (some' : r.servers ≠ []) :
    serverForLanguage r args < r.servers.length := by
  have first : r.default < r.servers.length := List.length_pos_iff.mpr some'
  unfold serverForLanguage
  split
  · split
    · exact first
    · next language _ _ =>
      cases found : r.findByLanguage language with
      | none => exact first
      | some n =>
        rw [h.language] at found
        exact findIdx?_lt found
  · exact first

end Gateway

/-! ## Calls about documents in memory -/

namespace Service
open Gateway
open Client (Recalls Informs WasTold)

variable {s s₀ : Service} {fs fs₀ : Files} {label : String} {delivery : Delivery} {tool : Tool Action}
  {action : Action} {args ms : Json.Members} {e : Event} {contents method : String} {n : Nat}
  {c : Client} {config : Config} {env : Environment} {policies : String → List Policy}

/-- A tool is called that is there, with arguments that it accepts. -/
inductive Calls (s : Service) (action : Action) (args : Json.Members) (fs : Files) (label : String) :
    Delivery → Event → Prop
  | text {tool : Tool Action} {name : String} (known : s.tools.find name = .ok tool)
    (does : tool.handler = action) :
    Calls s action args fs label .text (.callsText fs label name (some (.obj args)))
  | message {tool : Tool Action} {name : String} (known : s.tools.find name = .ok tool)
    (does : tool.handler = action)
    (fits : Schema.refusal? s.catalog.graph tool.schema (.obj args) = none) :
    Calls s action args fs label .message (.callsTool fs label name (some args))

theorem Calls.performs (calls : Calls s action args fs label delivery e) :
    e.isOrderly ∧ ∃ tool : Tool Action, tool.handler = action ∧
      s.meet e = (s.perform fs label delivery tool (.obj args)).settle := by
  cases calls with
  | @text tool name known does =>
    refine ⟨rfl, tool, does, ?_⟩
    simp only [meet, callText, Registry.findFor, known]
  | @message tool name known does fits =>
    refine ⟨rfl, tool, does, ?_⟩
    simp only [meet, callTool, known, fits]

/-- The client that is told of a document in memory. -/
def keeper (s : Service) (args : Json.Members) : Nat := serverForLanguage s.roster args

/-- The URI of the next document in memory. -/
def newUri (s : Service) (args : Json.Members) : String :=
  memoryUri (s.documents + 1) (s.roster.idOf (s.keeper args))

/-- What a client is told of the next document in memory. -/
def news (s : Service) (args : Json.Members) (contents : String) : Send :=
  Forwarding.opening (languagesOf s.roster (s.keeper args)) (s.newUri args) contents

theorem perform_open (opens : tool.handler = .openContents)
    (given : args.get? "file_contents" = some (.str contents)) :
    s.perform fs label delivery tool (.obj args) =
      { s with
        documents := s.documents + 1
        board := s.board.ask label (.call delivery (.value (.str (s.newUri args)))) (s.keeper args)
          (.sends [s.news args contents]) } := by
  unfold perform
  rw [opens]
  simp only [planFor, Json.asObject, plan, given]
  rfl

theorem perform_memory {id : String} (forwards : tool.handler = .forward method)
    (document : ((args.get? "textDocument").bind (·.get? "uri")) = some (.str (memoryUri n id))) :
    s.perform fs label delivery tool (.obj args) =
      { s with
        board := s.board.ask label (.call delivery .lastResult)
          (Routing.select s.roster args (serverProperty? s.roster))
          (.sends [.request method (.obj (passedOn s.roster args))]) } := by
  unfold perform
  rw [forwards, plan_forward, Forwarding.sends, fileDocument_memory document]
  rfl

theorem settle_ask {purpose : Purpose} {i k : Nat} {sends : List Send} :
    ({ s with documents := k, board := s.board.ask label purpose i (.sends sends) } :
      Service).settle.board.session =
      s.board.session.meet (.inputs [(i, .call (.sends sends))]) := rfl

/-- A call about a document is sent on as it is, to one server and to no other. -/
def LeadsTo (s : Service) (uri : String) (n : Nat) : Prop :=
  ∀ fs label delivery args method e, Calls s (.forward method) args fs label delivery e →
    ((args.get? "textDocument").bind (·.get? "uri")) = some (.str uri) →
    (∀ m, ¬ Names s.roster args m) →
    ∃ b : Service, s.meet e = b.settle ∧
      Asks s b n [.request method (.obj (passedOn s.roster args))]

/-- A client has told a process something, and all its requests go to that process from then on, as
long as it starts no other. -/
structure Informed (s : Service) (k : Nat) (b c : Client) (m : Json) (l : Nat) : Prop where
  told : WasTold b c m l
  recalls : ∀ es : List Event, (∀ e ∈ es, e.isOrderly) →
    ∃ c', (s.course es).clients[k]? = some c' ∧ Recalls l c c'

theorem leadsTo_heir {k : Nat} {server : ServerConfig} (h : s.roster.Finds)
    (here : s.roster.servers[k]? = some server) (some' : server.id ≠ "")
    (free : '.' ∉ server.id.toList) :
    LeadsTo s (memoryUri n (s.roster.idOf k)) (heir s.roster k) := by
  intro fs label delivery args method e calls document unnamed
  obtain ⟨-, tool, forwards, performs⟩ := calls.performs
  refine ⟨_, performs, ?_⟩
  rw [perform_memory forwards document]
  have goes := (goesTo_heir h here some' free document unnamed (heir s.roster k)).mpr rfl
  rw [(goesTo_iff h).mp goes]
  exact asks_ask

/-- Only a call that succeeds answers what was planned. -/
theorem reply_eq_deliverResult {j : Json} {o : Client.Outcome}
    (answered : (Purpose.call delivery (.value j)).reply o = deliverResult delivery j) :
    ∃ v, o = .value v := by
  cases o with
  | value v => exact ⟨v, rfl⟩
  | error f =>
    cases delivery with
    | text => cases answered
    | message => simp [Purpose.reply, deliver, deliverResult, resultMessage] at answered
  | cancelled => cases delivery <;> cases answered

/-- A client that has succeeded in telling its server something goes on with the process that was
told. -/
theorem informed_of_informs {k n : Nat} {b : Client} {method : String} {params v : Json}
    (eased : s.board.session.Eased) (here : s.clients[k]? = some c)
    (informs : Informs b n method params c) (ended : c.callOutcome? n = some (.value v)) :
    ∃ l, Informed s k b c (Client.message none method params) l := by
  obtain ⟨-, q, stands, notifies⟩ := informs
  obtain ⟨t, done⟩ := Client.callOutcome_eq_some.mp ended
  obtain rfl := Option.some.inj (stands.symm.trans done)
  cases notifies with
  | failed fails => exact absurd rfl (fails v)
  | done told =>
    obtain ⟨l, told⟩ := told
    have ⟨_, _, _, _, _, recalls⟩ := told
    refine ⟨l, told, fun es orderly => ?_⟩
    exact carries_course orderly (fun _ _ poised fits h => h.step poised fits) eased here
      (.refl recalls.here)

/-- The servers of a gateway were configured, and each of them has a client. -/
theorem client_of_created (valid : Config.ofMembers ms = .ok config)
    (created : create fs₀ env config policies = .ok s₀) :
    s₀.roster.Finds ∧ s₀.roster.servers ≠ [] ∧ (∀ server ∈ s₀.roster.servers, server.id ≠ "") ∧
      ∀ k < s₀.roster.servers.length, ∃ c, s₀.clients[k]? = some c := by
  unfold create at created
  split at created
  · cases created
  · next roster accepted =>
    obtain rfl := Except.ok.inj created
    obtain ⟨finds, servers, some'⟩ := Roster.finds_ofServers accepted
    refine ⟨finds, servers ▸ some', fun server mem => ?_, fun k lt => ?_⟩
    · exact Config.id_ne_of_valid valid (servers ▸ mem)
    · refine ⟨_, List.getElem?_eq_getElem ?_⟩
      exact (List.length_map _).symm ▸ lt

/-- If the call that opens a document in memory answers its URI, the server that the document was
meant for was told of it. Whatever happens, a call about the document leads to that server later, or
to the first one that lists its id as an extension, and the request goes to the process that was told
as long as that server starts no other. -/
theorem documents_stay_reachable (valid : Config.ofMembers ms = .ok config)
    (created : create fs₀ env config policies = .ok s₀) (before : List Event)
    (orderly : ∀ e ∈ before, e.isOrderly) :
    let s := s₀.course before
    ∀ fs label delivery args contents e, Calls s .openContents args fs label delivery e →
      args.get? "file_contents" = some (.str contents) →
      let k := s.keeper args
      let purpose := Purpose.call delivery (.value (.str (s.newUri args)))
      ∃ c, s.clients[k]? = some c ∧
        (s.meet e).board.tickets =
          s.board.tickets ++ [⟨label, [(k, c.calls.length)], false, false, purpose⟩] ∧
        ∀ during : List Event, (∀ e ∈ during, e.isOrderly) →
          let s' := s.course (e :: during)
          ∃ c', s'.clients[k]? = some c' ∧ ∀ o, c'.callOutcome? c.calls.length = some o →
            purpose.reply o = deliverResult delivery (.str (s.newUri args)) →
            (∃ l, Informed s' k c c' ((s.news args contents).message 0) l) ∧
            ('.' ∉ (s.roster.idOf k).toList → LeadsTo s' (s.newUri args) (heir s.roster k)) := by
  intro s fs label delivery args contents e calls given k purpose
  obtain ⟨finds, some', named, present⟩ := client_of_created valid created
  have roster : s.roster = s₀.roster := roster_course orderly
  have eased : s.board.session.Eased := eased_course orderly (eased_create created)
  have lt : k < s.roster.servers.length := serverForLanguage_lt (roster ▸ finds) (roster ▸ some')
  obtain ⟨c₀, here₀⟩ := present k (roster ▸ lt)
  obtain ⟨c, here, -⟩ := carries_course (P := fun _ => True) orderly (fun _ _ _ _ _ => trivial)
    (eased_create created) here₀ trivial
  obtain ⟨calm, tool, opens, performs⟩ := calls.performs
  rw [perform_open opens given] at performs
  have number : s.board.nextCall k = c.calls.length := by
    rw [Board.nextCall, show s.board.session.clients[k]? = some c from here]
    rfl
  refine ⟨c, here, ?_, fun during calm' => ?_⟩
  · rw [performs, ← number]
    rfl
  · have first : (s.meet e).board.session =
        s.board.session.meet (.inputs [(k, .call (.sends [s.news args contents]))]) := by
      rw [performs]
      exact settle_ask
    obtain ⟨c₁, here₁, informs₁⟩ := eased.carries_asking
      (fun _ _ poised fits h => Informs.step h poised fits) here Client.informs_call
    have eased₁ : (s.meet e).board.session.Eased := eased_meet calm eased
    obtain ⟨c', here', informs⟩ := carries_course calm'
      (fun _ _ poised fits h => Informs.step h poised fits) eased₁ (first ▸ here₁) informs₁
    refine ⟨c', here', fun o ended answered => ⟨?_, fun free => ?_⟩⟩
    · obtain ⟨v, rfl⟩ := reply_eq_deliverResult answered
      have eased' : (s.course (e :: during)).board.session.Eased :=
        eased_course (s := s.meet e) calm' eased₁
      exact informed_of_informs eased' here' informs ended
    · have same : (s.course (e :: during)).roster = s.roster :=
        roster_course (by simpa using ⟨calm, calm'⟩)
      obtain ⟨server, keeper⟩ : ∃ server, s.roster.servers[k]? = some server :=
        ⟨_, List.getElem?_eq_getElem lt⟩
      have id : s.roster.idOf k = server.id := by rw [Roster.idOf, keeper]; rfl
      have filled : server.id ≠ "" := named server (roster ▸ List.mem_of_getElem? keeper)
      have leads := leadsTo_heir (s := s.course (e :: during)) (n := s.documents + 1)
        (same.trans roster ▸ finds) (same ▸ keeper) filled (id ▸ free)
      rw [same] at leads
      exact leads

/-- Metadata with one method. -/
def library : Files :=
  let model := Json.obj [("requests", .arr [.obj [("method", .str "m")]])]
  let schema := Json.obj [("definitions", .obj [("M", .obj [("properties", .obj [
    ("method", .obj [("enum", .arr [.str "m"])]), ("params", .obj [])])])])]
  .ofList [("/res/metaModel.json", .file model.compact.toUTF8.toList),
    ("/res/protocol.schema.json", .file schema.compact.toUTF8.toList)] "/ws"

/-- The settings of two servers, the first of which has the given extensions. -/
def settings (extensions : List String) : Json.Members :=
  [("lsps", .arr [
      .obj [("id", .str "a"), ("command", .str "a"), ("extensions", .arr (extensions.map .str))],
      .obj [("id", .str "b"), ("command", .str "b"), ("languages", .arr [.str "b"])]]),
    ("resources_dir", .str "/res")]

def configOf (extensions : List String) : Config :=
  ⟨[⟨"a", [], extensions, "a", []⟩, ⟨"b", ["b"], [], "b", []⟩], none, none, some "/res"⟩

/-- Servers that agree to be started. -/
def agreeable (_ : String) : List Policy :=
  [{ Policy.plain with replies := [("initialize", .fixed [("result", .obj [])])] }]

def createdOf (extensions : List String) : Except Roster.Fault Service :=
  create library [] (configOf extensions) agreeable

/-- A document for the second server. -/
def forSecond : Json.Members :=
  [("file_contents", .str "x"), ("programming_language", .str "b")]

/-- The URI of the first document for the second server. -/
def firstUri : String := "mem://0000000000000001.b"

def entering : Event := .enters library "enter"

def opening : Event := .callsText library "open" "file_contents_to_uri" (some (.obj forSecond))

/-- The second server is told of a document. -/
theorem documents_stay_reachable_second : ∃ s₀, createdOf [] = .ok s₀ ∧
    Config.ofMembers (settings []) = .ok (configOf []) ∧ (∀ e ∈ [entering], e.isOrderly) ∧
    let s := s₀.course [entering]
    let s' := s.course [opening]
    Calls s .openContents forSecond library "open" .text opening ∧
      ∃ c c', s.clients[1]? = some c ∧ s'.clients[1]? = some c' ∧
        (∃ l, Informed s' 1 c c' ((s.news forSecond "x").message 0) l) ∧ LeadsTo s' firstUri 1 := by
  have valid : Config.ofMembers (settings []) = .ok (configOf []) := by decide +kernel
  have facts : (createdOf []).toOption.any (fun s₀ =>
      let s := s₀.course [entering]
      ((s.tools.find "file_contents_to_uri").toOption.map (·.handler)) = some .openContents ∧
        s.keeper forSecond = 1 ∧ s.newUri forSecond = firstUri ∧ heir s.roster 1 = 1 ∧
        s.roster.idOf 1 = "b" ∧ s.clients[1]?.map (·.calls.length) = some 0 ∧
        ((s.course [opening]).clients[1]?.bind (·.callOutcome? 0)) = some .done) := by
    decide +kernel
  cases created : createdOf [] with
  | error fault =>
    rw [created] at facts
    cases facts
  | ok s₀ =>
    rw [created] at facts
    obtain ⟨found, keeper, uri, first, name, count, returned⟩ := of_decide_eq_true facts
    have orderly : ∀ e ∈ [entering], e.isOrderly := by decide +kernel
    refine ⟨s₀, rfl, valid, orderly, ?_⟩
    intro s s'
    have calls : Calls s .openContents forSecond library "open" .text opening := by
      cases known : s.tools.find "file_contents_to_uri" with
      | error fault => simp [s, known, Except.toOption] at found
      | ok tool =>
        have does : tool.handler = .openContents := by simpa [s, known, Except.toOption] using found
        exact .text known does
    refine ⟨calls, ?_⟩
    obtain ⟨c, here, -, later⟩ := documents_stay_reachable valid created [entering] orderly library
      "open" .text forSecond "x" opening calls rfl
    obtain ⟨c', here', ends⟩ := later [] (by simp)
    rw [keeper] at here here'
    have none' : c.calls.length = 0 := by simpa [s, here] using count
    have ended : c'.callOutcome? c.calls.length = some .done := by
      rw [none']
      simpa [s, here'] using returned
    obtain ⟨informed, leads⟩ := ends .done ended rfl
    rw [keeper] at informed leads
    rw [uri, first] at leads
    exact ⟨c, c', here, here', informed, leads (by rw [name]; decide)⟩

/-- The arguments of a call about the first document. -/
def aboutFirst : Json.Members := [("textDocument", .obj [("uri", .str firstUri)])]

def asking : Event := .callsText library "ask" "m" (some (.obj aboutFirst))

/-- If the first server lists the id of the second as an extension, it is asked about a document that
only the second was told of. -/
theorem extension_comes_first :
    Config.ofMembers (settings ["b"]) = .ok (configOf ["b"]) ∧
      (createdOf ["b"]).toOption.any (fun s₀ =>
        let s := s₀.course [entering, opening]
        let news := (Forwarding.opening ["b"] firstUri "x").message 0
        s.report.2.replies = [("enter", .value .null), ("open", .value (.str firstUri))] ∧
          (s.clients[0]?.map fun c => c.sentTo 0) = some [] ∧
          (s.clients[1]?.any fun c => (c.sentTo 0).contains news) ∧
          (s.meet asking).clients[1]? = s.clients[1]? ∧
          ((s.meet asking).clients[0]?.any fun c =>
            (c.sentTo 0).contains (Client.message (some 2) "m" (.obj aboutFirst)) &&
              !(c.sentTo 0).contains news)) := by
  decide +kernel

end Service

end LspGateway
