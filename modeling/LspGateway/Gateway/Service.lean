import LspGateway.Config.Loading
import LspGateway.Gateway.Call
import LspGateway.Json.Shape
import LspGateway.Schema.Refusal
import LspGateway.Session.Board

/-! # The gateway as a service

A configuration becomes clients, a catalog and tools. Calls of the tools become
calls of the clients, and what the clients answer becomes text. On leaving, every
client is disposed of.
-/

namespace LspGateway

namespace Gateway

/-- Why the service does not start. -/
inductive StartError
  | catalog (error : Catalog.Error)
  | registration (error : RegistrationError)
  deriving DecidableEq, Repr

/-- Why a request fails. -/
inductive Failure
  | start (error : StartError)
  | call (error : CallError)
  | client (error : Client.Error)
  /-- A schema contains itself and cannot be listed. -/
  | endlessSchema
  deriving DecidableEq, Repr

/-- What a request is answered with. -/
inductive Reply
  | value (j : Json)
  | failure (f : Failure)
  | cancelled
  deriving DecidableEq, Repr

/-- How the result of a call is delivered. -/
inductive Delivery
  /-- As text; a failed call fails. -/
  | text
  /-- As a message, which tells of a failed call too. -/
  | message
  deriving DecidableEq, Repr

/-- What a request is for. -/
inductive Purpose
  | decided (reply : Reply)
  | call (delivery : Delivery) (answer : Answer)
  | leaving
  deriving DecidableEq, Repr

/-- A message with the text of a call's result. -/
def resultMessage (text : String) (isError : Bool) : Json :=
  .obj [("content", .arr [.obj [("type", .str "text"), ("text", .str text)]]),
    ("isError", .bool isError)]

/-- A result as it is delivered. -/
def deliverResult (delivery : Delivery) (result : Json) : Reply :=
  match delivery with
  | .text => .value (.str (resultText result))
  | .message => .value (resultMessage (resultText result) false)

/-- A refused call as it is delivered. -/
def deliverRefusal (delivery : Delivery) (e : CallError) : Reply :=
  match delivery with
  | .text => .failure (.call e)
  | .message => .value (resultMessage e.message true)

/-- The outcome of a client's call as it is delivered. -/
def deliver (delivery : Delivery) (answer : Answer) : Client.Outcome → Reply
  | .value result =>
    deliverResult delivery
      (match answer with
        | .lastResult => result
        | .value j => j)
  | .error e =>
    match delivery with
    | .text => .failure (.client e)
    | .message => .value (resultMessage e.message true)
  | .cancelled => .cancelled

/-- What a request is answered with when its calls have ended. -/
def Purpose.reply (p : Purpose) (o : Client.Outcome) : Reply :=
  match p with
  | .decided r => r
  | .call delivery answer => deliver delivery answer o
  | .leaving => if o = .cancelled then .cancelled else .value .null

end Gateway

open Gateway

/-- A gateway at work. -/
structure Service where
  workspace : String
  roster : Roster
  catalog : Catalog
  tools : Tools
  board : Board Purpose
  /-- The documents held in memory so far. -/
  documents : Nat
  deriving Repr

namespace Service

/-- A service that has not started, and whose commands run as the policies say. -/
def create (fs : Files) (env : Environment) (config : Config)
    (policies : String → List Policy) : Except Roster.Fault Service :=
  match Roster.ofServers config.servers with
  | .error fault => .error fault
  | .ok roster =>
    let workspace := Config.workspaceRoot fs env config.workspace
    let clients := roster.servers.map fun server =>
      Client.ofConfig server workspace (policies server.command)
    .ok ⟨workspace, roster, Catalog.create config.methods config.resources, [],
      .ofClients clients, 0⟩

/-- The clients, in the order of the roster. -/
def clients (s : Service) : List Client := s.board.session.clients

/-- What may be told of the servers. -/
def status (s : Service) : List ServerStatus := s.clients.map fun c => ⟨c.started, c.capabilities⟩

/-- Reports something. -/
def note (s : Service) (e : Log.Entry) : Service := { s with board := s.board.note e }

/-- Reports something of interest. -/
def noteInfo (s : Service) (text : String) : Service := s.note ⟨.info, .app, text⟩

/-- Registers the tools of the catalog's methods. -/
def registerTools (s : Service) (methods : List Method) : Service × Except StartError Unit :=
  match registerAll s.catalog.graph s.roster methods s.tools with
  | (tools, .ok ()) => ({ s with tools := tools }.note (registeredAll tools), .ok ())
  | (tools, .error e) => ({ s with tools := tools }, .error (.registration e))

/-- Loads the catalog and registers every tool. -/
def start (s : Service) (fs : Files) : Service × Except StartError Unit :=
  let s := s.noteInfo ("Workspace: " ++ s.workspace)
  let s := s.noteInfo ("LSPs: " ++ String.intercalate ", " (s.roster.servers.map (·.id)))
  let isNew := s.catalog.methods.isNone
  match s.catalog.getMethods fs with
  | (catalog, .error e) => ({ s with catalog := catalog }, .error (.catalog e))
  | (catalog, .ok methods) =>
    let s := { s with catalog := catalog }
    let s := if isNew then s.note (Catalog.prepared methods) else s
    s.registerTools methods

/-- Answers a request at once. -/
def answer (s : Service) (label : String) (r : Reply) : Service :=
  { s with board := s.board.enter label (.decided r) }

/-- Enters the service. -/
def enter (s : Service) (fs : Files) (label : String) : Service :=
  match s.start fs with
  | (s, .ok ()) => s.answer label (.value .null)
  | (s, .error e) => s.answer label (.failure (.start e))

/-- A tool as it is listed. Infinite numbers have no place in a list. -/
def listTool (g : Schema.Graph) (tool : Tool Action) : Option Json :=
  (tool.schema.toJson? g).map fun schema =>
    .obj [("name", .str tool.id), ("description", .str tool.description),
      ("inputSchema", schema.withoutInfinities)]

/-- The list of tools. -/
def listing (s : Service) : Reply :=
  match Schema.allOf (s.tools.map (listTool s.catalog.graph)) with
  | some tools => .value (.obj [("tools", .arr tools)])
  | none => .failure .endlessSchema

/-- Makes the call of a tool that is known. -/
def perform (s : Service) (fs : Files) (label : String) (delivery : Delivery) (tool : Tool Action)
    (args : Json) : Service :=
  match planFor fs s.roster s.status s.documents tool.handler args with
  | (documents, .error e) =>
    { s with documents := documents }.answer label (deliverRefusal delivery e)
  | (documents, .ok p) =>
    let s := { s with documents := documents }
    match p.sends with
    | [] => s.answer label (deliver delivery p.answer .done)
    | sends =>
      { s with board := s.board.ask label (.call delivery p.answer) p.server (.sends sends) }

/-- Calls a tool and delivers its result as text. -/
def callText (s : Service) (fs : Files) (label name : String) (args : Option Json) : Service :=
  match s.tools.findFor name args with
  | .error fault => s.answer label (deliverRefusal .text (.fault fault))
  | .ok (tool, args) => s.perform fs label .text tool args

/-- Calls a tool and delivers its result as a message. Arguments must be there, and
must be what the tool's schema wants. -/
def callTool (s : Service) (fs : Files) (label name : String) (args : Option Json.Members) :
    Service :=
  match args with
  | none =>
    let fault := Fault.missingArguments name
    (s.note ⟨.warning, .app, fault.message⟩).answer label (deliverRefusal .message (.fault fault))
  | some args =>
    match s.tools.find name with
    | .error fault => s.answer label (deliverRefusal .message (.fault fault))
    | .ok tool =>
      match Schema.refusal? s.catalog.graph tool.schema (.obj args) with
      | some refusal => s.answer label (.value (resultMessage refusal.message true))
      | none => s.perform fs label .message tool (.obj args)

/-- Disposes of every client. -/
def leave (s : Service) (label : String) : Service :=
  let s := s.noteInfo "Shutting down LSPs..."
  { s with board := s.board.askAll label .leaving .dispose }

/-- What is reported when every client is disposed of. -/
def left : Log.Entry := ⟨.info, .app, "LSPs stopped"⟩

/-- Lets everything go on that can. -/
def settle (s : Service) : Service := { s with board := s.board.settle }

/-- What has happened, with the answers to the requests that have ended. -/
structure Report where
  /-- The events by process. -/
  events : List (Nat × Client.Event)
  /-- The events as they came. -/
  course : List (Nat × Client.Event)
  replies : List (String × Reply)
  waiting : List String
  logs : List Log.Entry
  deriving DecidableEq, Repr

/-- Reports what has happened. -/
def report (s : Service) : Service × Report :=
  let (board, r) := s.board.report
  let replies := r.finished.map fun (t, o) => (t.label, t.purpose.reply o)
  let hasLeft := r.finished.any fun (t, o) => t.purpose = .leaving && o ≠ .cancelled
  ({ s with board := board },
    ⟨r.events, r.course, replies, r.waiting,
      (r.logs ++ if hasLeft then [left] else []).filter Log.Entry.isShown⟩)

/-- Lets time pass until a request is answered or nothing more can happen. -/
def awaitReply (label : String) : Nat → Service → Service
  | 0, s => s
  | fuel + 1, s =>
    match s.board.tickets.find? (·.label == label) with
    | none => s
    | some t =>
      if (Board.outcome? s.board.session t).isSome then s
      else
        match s.board.session.deadlines.min? with
        | none => s
        | some d => awaitReply label fuel { s with board := s.board.advanceTo d }

end Service

end LspGateway
