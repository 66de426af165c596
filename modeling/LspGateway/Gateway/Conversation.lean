import LspGateway.Gateway.Service
import LspGateway.Gateway.ToolRequest

/-! # The tool protocol

A caller introduces itself, and then lists the tools and calls them. Requests that
are malformed or come too early are refused; those for features that the gateway
does not have find no method.
-/

namespace LspGateway

/-- An exchange with one caller. -/
structure Conversation where
  service : Service
  /-- The caller has introduced itself. -/
  introduced : Bool
  /-- A response could not be written, which ends the exchange. -/
  broken : Bool
  /-- The responses so far. -/
  responses : List Json
  course : List (Nat × Client.Event)
  logs : List Log.Entry
  deriving Repr

namespace Conversation

/-- A caller that has said nothing yet. -/
def ofService (s : Service) : Conversation := ⟨s, false, false, [], [], []⟩

/-- The name the gateway goes by. -/
def serverName : String := "lsp-mcp"

/-- The newest version of the tool protocol. -/
def newest : String := "2025-11-25"

/-- The versions of the tool protocol. -/
def versions : List String := ["2024-11-05", "2025-03-26", "2025-06-18", newest]

/-- The version to talk: the one asked for if it is known, else the newest. -/
def agreedVersion (asked : Json) : String :=
  match asked with
  | .str version => if versions.contains version then version else newest
  | _ => newest

/-- What the gateway says of itself. -/
def greeting (version : Json) : Json :=
  .obj [("protocolVersion", .str (agreedVersion version)),
    ("capabilities", .obj [("experimental", .obj []),
      ("tools", .obj [("listChanged", .bool false)])]),
    ("serverInfo", .obj [("name", .str serverName)])]

/-- The response to a request that succeeds. -/
def resultResponse (id result : Json) : Json :=
  .obj [("jsonrpc", .str "2.0"), ("id", id), ("result", result)]

/-- The response to a request that fails. -/
def errorResponse (id : Json) (code : Int) (message : String) (data : List (String × Json)) :
    Json :=
  .obj [("jsonrpc", .str "2.0"), ("id", id),
    ("error", .obj ([("code", .int code), ("message", .str message)] ++ data))]

/-- The refusal of a request that is malformed or comes too early. -/
def invalid (id : Json) : Json :=
  errorResponse id (-32602) "Invalid request parameters" [("data", .str "")]

/-- The refusal of a request for something the gateway does not have. -/
def notFound (id : Json) : Json := errorResponse id (-32601) "Method not found" []

/-- Adds a response. -/
def respond (c : Conversation) (response : Json) : Conversation :=
  { c with responses := c.responses ++ [response] }

/-- Takes in what has happened in the service, and answers what was replied. -/
def absorb (c : Conversation) : Conversation × List (String × Gateway.Reply) :=
  let (service, r) := c.service.report
  ({ c with service := service, course := c.course ++ r.course, logs := c.logs ++ r.logs },
    r.replies)

/-- The label of the requests of a caller. -/
def requestLabel : String := "request"

/-- The label under which the service is left. -/
def leavingLabel : String := "leaving"

/-- Lets things happen until the request with a label is answered. -/
def await (c : Conversation) (label : String) : Conversation :=
  let s := c.service.settle
  { c with service := s.awaitReply label s.board.session.budget }

/-- Answers a request with what the service replies. A schema that contains itself
cannot be written. -/
def respondLater (c : Conversation) (id : Json) : Conversation :=
  match (c.await requestLabel).absorb with
  | (c, [(_, .value result)]) => c.respond (resultResponse id result)
  | (c, [(_, .failure .endlessSchema)]) => { c with broken := true }
  | (c, _) => c

/-- Deals with a request. All but pings need an introduction. -/
def handle (c : Conversation) (fs : Files) (id : Json) : ToolRequest → Conversation
  | .ping => c.respond (resultResponse id (.obj []))
  | .introduce version =>
    { c with introduced := true }.respond (resultResponse id (greeting version))
  | .unavailable => if c.introduced then c.respond (notFound id) else c.respond (invalid id)
  | .list =>
    if c.introduced then
      { c with service := c.service.answer requestLabel c.service.listing }.respondLater id
    else c.respond (invalid id)
  | .call name args =>
    if c.introduced then
      { c with service := c.service.callTool fs requestLabel name args }.respondLater id
    else c.respond (invalid id)

/-- Whether a value can be the id of a request. -/
def isRequestId : Json → Bool
  | .int _ => true
  | .str _ => true
  | _ => false

/-- Deals with a notification. The one that ends an introduction may stand for it. -/
def notice (c : Conversation) (method : String) (params : Json) : Conversation :=
  if method = "notifications/initialized" && ToolRequest.notice.accepts params then
    { c with introduced := true }
  else c

/-- Whether a message answers a request. -/
def isResponse (message : Json) : Bool :=
  let failure : Json.Shape :=
    .record (.required "code" .integer (.required "message" .text .none))
  (message.get? "id").any isRequestId &&
    ((message.get? "result").any Json.Shape.object.accepts ||
      (message.get? "error").any failure.accepts)

/-- What is told to a caller that answers a request which was never made. -/
def complaint : Json :=
  .obj [("jsonrpc", .str "2.0"), ("method", .str "notifications/message"),
    ("params", .obj [("level", .str "error"), ("logger", .str "mcp.server.exception_handler"),
      ("data", .str "Internal Server Error")])]

/-- Deals with a message: a request if it has an id, and a notification otherwise. The
gateway makes no requests, so no response is expected. -/
def receive (c : Conversation) (fs : Files) (message : Json) : Conversation :=
  let params := ((message.get? "params").getD .null).withoutInfinities
  match (message.get? "method").bind (·.str?), message.get? "id" with
  | some method, some id =>
    if isRequestId id then
      match ToolRequest.of? method params with
      | some request => c.handle fs id request
      | none => c.respond (invalid id)
    else c.notice method params
  | some method, none => c.notice method params
  | none, _ => if isResponse message then c.respond complaint else c

/-- Deals with messages one after another, as long as they can be answered. -/
def receiveAll (c : Conversation) (fs : Files) (messages : List Json) : Conversation :=
  messages.foldl (fun c m => if c.broken then c else c.receive fs m) c

/-- Leaves the service. -/
def close (c : Conversation) : Conversation :=
  (({ c with service := c.service.leave leavingLabel }.await leavingLabel).absorb).1

end Conversation

end LspGateway
