import LspGateway.Json.Shape

/-! # Requests of the tool protocol

What a caller may ask for, and the shape of the parameters of each request. A
request whose parameters have another shape is none.
-/

namespace LspGateway

/-- A request of a caller that is well formed. -/
inductive ToolRequest
  | ping
  /-- The caller introduces itself, with the version of the protocol it talks. -/
  | introduce (version : Json)
  | list
  | call (name : String) (args : Option Json.Members)
  /-- It is about a feature that the gateway does not have. -/
  | unavailable
  deriving DecidableEq, Repr

namespace ToolRequest
open Json (Shape Fields)

/-- Optional members of one shape. -/
def optionals (shape : Shape) (names : List String) (rest : Fields) : Fields :=
  names.foldr (fun name fs => .optional name (.orNull shape) fs) rest

/-- Texts that must be there. -/
def texts (names : List String) (rest : Fields) : Fields :=
  names.foldr (fun name fs => .required name .text fs) rest

/-- Data about the message itself. -/
def remark : Shape := .record (optionals (.either .text .integer) ["progressToken"] .none)

/-- The request may be answered later. -/
def task : Shape := .record (optionals .exactInteger ["ttl"] .none)

/-- The parameters that every request may have, and some of its own. -/
def params (own : Fields) : Shape :=
  .record (own.append (optionals task ["task"] (optionals remark ["_meta"] .none)))

/-- Parameters that may be left out. -/
def optionalParams (own : Fields) : Shape := .orNull (params own)

/-- The parameters of a list that comes in pages. -/
def page : Shape := optionalParams (optionals .text ["cursor"] .none)

/-- A picture of the caller. -/
def icon : Shape :=
  .record (texts ["src"] (optionals .text ["mimeType"] (optionals (.listOf .text) ["sizes"] .none)))

/-- What a caller is. -/
def caller : Shape :=
  .record (texts ["name", "version"] (optionals .text ["title", "websiteUrl"]
    (optionals (.listOf icon) ["icons"] .none)))

/-- What a caller can do with tasks. -/
def taskCapabilities : Shape :=
  let only (name : String) : Shape := .record (optionals .object [name] .none)
  let requests : Shape :=
    .record (optionals (only "createMessage") ["sampling"]
      (optionals (only "create") ["elicitation"] .none))
  .record (optionals .object ["list", "cancel"] (optionals requests ["requests"] .none))

/-- What a caller can do. -/
def capabilities : Shape :=
  let objects (names : List String) : Shape := .record (optionals .object names .none)
  .record
    (optionals (.mapOf .object) ["experimental"]
      (optionals (objects ["context", "tools"]) ["sampling"]
        (optionals (objects ["form", "url"]) ["elicitation"]
          (optionals (.record (optionals .truthValue ["listChanged"] .none)) ["roots"]
            (optionals taskCapabilities ["tasks"] .none)))))

/-- The introduction of a caller. -/
def introduction : Shape :=
  params (.required "protocolVersion" (.either .text .integer)
    (.required "capabilities" capabilities (.required "clientInfo" caller .none)))

/-- The levels a caller may ask the log to be kept at. -/
def logLevels : List String :=
  ["debug", "info", "notice", "warning", "error", "critical", "alert", "emergency"]

/-- What a completion is asked for. -/
def completable : Shape :=
  .either (.record (.required "type" (.word ["ref/resource"]) (texts ["uri"] .none)))
    (.record (.required "type" (.word ["ref/prompt"]) (texts ["name"] .none)))

/-- The parameters of a request for completions. -/
def completion : Shape :=
  let context : Shape := .record (optionals (.mapOf .text) ["arguments"] .none)
  params (.required "ref" completable
    (.required "argument" (.record (texts ["name", "value"] .none))
      (optionals context ["context"] .none)))

/-- The parameters of the requests for features that the gateway does not have. -/
def unavailableShape? (method : String) : Option Shape :=
  match method with
  | "prompts/list" | "resources/list" | "resources/templates/list" | "tasks/list" => some page
  | "prompts/get" => some (params (texts ["name"] (optionals (.mapOf .text) ["arguments"] .none)))
  | "resources/read" | "resources/subscribe" | "resources/unsubscribe" =>
    some (params (.required "uri" .uri .none))
  | "tasks/get" | "tasks/result" | "tasks/cancel" => some (params (texts ["taskId"] .none))
  | "logging/setLevel" => some (params (.required "level" (.word logLevels) .none))
  | "completion/complete" => some completion
  | _ => none

/-- The parameters of the call of a tool. -/
def callShape : Shape := params (texts ["name"] (optionals (.mapOf .anything) ["arguments"] .none))

/-- The call of a tool. -/
def ofCall (given : Json) : ToolRequest :=
  .call (((given.get? "name").bind (·.str?)).getD "")
    (match given.get? "arguments" with
      | some (.obj args) => some args
      | _ => none)

/-- The request of a method with parameters, null if there are none. -/
def of? (method : String) (given : Json) : Option ToolRequest :=
  let ifShaped (shape : Shape) (r : ToolRequest) : Option ToolRequest :=
    if shape.accepts given then some r else none
  match method with
  | "ping" => ifShaped (optionalParams .none) .ping
  | "initialize" => ifShaped introduction (.introduce ((given.get? "protocolVersion").getD .null))
  | "tools/list" => ifShaped page .list
  | "tools/call" => ifShaped callShape (ofCall given)
  | _ => (unavailableShape? method).bind fun shape => ifShaped shape .unavailable

/-- The parameters of a notification that tells nothing but that it was sent. -/
def notice : Shape := .orNull (.record (optionals .object ["_meta"] .none))

end ToolRequest

end LspGateway
