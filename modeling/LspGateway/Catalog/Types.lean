import LspGateway.Json.Basic

/-! # The types of the protocol

The bundled schemas of the values that requests carry, in the vocabulary of JSON
Schema.
-/

namespace LspGateway.Catalog

/-- A schema from its keywords. -/
def schema (ms : Json.Members) : Json := .obj ms

/-- The schema of any value. -/
def anything : Json := .obj []

/-- The definition of the given name. -/
def reference (name : String) : Json := schema [("$ref", .str ("#/definitions/" ++ name))]

/-- A value of the given type. -/
def kind (name : String) : Json := schema [("type", .str name)]

/-- A value of one of the given types. -/
def kinds (names : List String) : Json := schema [("type", .arr (names.map .str))]

/-- One of the given texts. -/
def oneOf (type : String) (values : List String) : Json :=
  schema [("type", .str type), ("enum", .arr (values.map .str))]

/-- An array of values of one schema. -/
def arrayOf (items : Json) : Json := schema [("type", .str "array"), ("items", items)]

/-- An object with the given properties, some of them required. -/
def record (properties : Json.Members) (required : List String) : Json :=
  schema [("type", .str "object"), ("properties", .obj properties),
    ("required", .arr (required.map .str))]

/-- An object with the given properties, none of them required. -/
def partialRecord (properties : Json.Members) : Json :=
  schema [("type", .str "object"), ("properties", .obj properties)]

/-- A schema with a description. -/
def described (j : Json) (text : String) : Json :=
  match j with
  | .obj ms => .obj (ms ++ [("description", .str text)])
  | j => j

/-- Numbers, places in a text and names of documents. -/
def basicTypes : Json.Members := [
  ("integer", kind "integer"),
  ("uinteger", schema [("type", .str "integer"), ("minimum", .int 0)]),
  ("decimal", kind "number"),
  ("DocumentUri", kind "string"),
  ("URI", kind "string"),
  ("LSPAny", anything),
  ("ProgressToken", kinds ["integer", "string"]),
  ("Position", record [
    ("line", described (reference "uinteger") "Line position in a document (zero-based)."),
    ("character", described (reference "uinteger")
      "Character offset on a line in a document (zero-based).")] ["line", "character"]),
  ("Range", record [("start", reference "Position"), ("end", reference "Position")]
      ["start", "end"]),
  ("Location", record [("uri", reference "DocumentUri"), ("range", reference "Range")]
      ["uri", "range"]),
  ("TextDocumentIdentifier", record [
    ("uri", described (reference "DocumentUri") "The text document's uri.")] ["uri"]),
  ("VersionedTextDocumentIdentifier", record [
    ("uri", reference "DocumentUri"),
    ("version", reference "integer")] ["uri", "version"])]

/-- Edits, diagnostics and other values. -/
def valueTypes : Json.Members := [
  ("Command", record [
    ("title", described (kind "string") "Title of the command, like `save`."),
    ("command", described (kind "string") "The identifier of the actual command handler."),
    ("arguments", described (arrayOf (reference "LSPAny"))
      "Arguments that the command handler should be invoked with.")] ["title", "command"]),
  ("TextEdit", record [
    ("range", described (reference "Range") "The range of the text document to be manipulated."),
    ("newText", described (kind "string")
      "The string to be inserted. For delete operations use an empty string.")]
      ["range", "newText"]),
  ("WorkspaceEdit", partialRecord [
    ("changes", described (schema [
      ("type", .str "object"),
      ("additionalProperties", arrayOf (reference "TextEdit"))])
      "Holds changes to existing resources."),
    ("documentChanges", arrayOf (kind "object")),
    ("changeAnnotations", kind "object")]),
  ("Diagnostic", record [
    ("range", reference "Range"),
    ("severity", described (schema [
      ("type", .str "integer"),
      ("enum", .arr [.int 1, .int 2, .int 3, .int 4])]) "The diagnostic's severity."),
    ("code", described (kinds ["integer", "string"])
      "The diagnostic's code, which usually appear in the user interface."),
    ("source", kind "string"),
    ("message", described (kind "string") "The diagnostic's message."),
    ("tags", arrayOf (kind "integer")),
    ("data", reference "LSPAny")] ["range", "message"]),
  ("FormattingOptions", record [
    ("tabSize", described (reference "uinteger") "Size of a tab in spaces."),
    ("insertSpaces", described (kind "boolean") "Prefer spaces over tabs."),
    ("trimTrailingWhitespace", described (kind "boolean") "Trim trailing whitespace on a line."),
    ("insertFinalNewline", described (kind "boolean")
      "Insert a newline character at the end of the file if one does not exist."),
    ("trimFinalNewlines", described (kind "boolean")
      "Trim all newlines after the final newline at the end of the file.")]
      ["tabSize", "insertSpaces"]),
  ("Color", record [
    ("red", reference "decimal"),
    ("green", reference "decimal"),
    ("blue", reference "decimal"),
    ("alpha", reference "decimal")] ["red", "green", "blue", "alpha"]),
  ("CallHierarchyItem", record [
    ("name", described (kind "string") "The name of this item."),
    ("kind", described (kind "integer") "The kind of this item."),
    ("tags", arrayOf (kind "integer")),
    ("detail", described (kind "string")
      "More detail for this item, e.g. the signature of a function."),
    ("uri", described (reference "DocumentUri") "The resource identifier of this item."),
    ("range", reference "Range"),
    ("selectionRange", reference "Range"),
    ("data", described (reference "LSPAny")
      ("A data entry field that is preserved between a call hierarchy prepare and\nincoming " ++
        "calls or outgoing calls requests."))] ["name", "kind", "uri", "range", "selectionRange"]),
  ("TypeHierarchyItem", record [
    ("name", described (kind "string") "The name of this item."),
    ("kind", described (kind "integer") "The kind of this item."),
    ("tags", arrayOf (kind "integer")),
    ("detail", kind "string"),
    ("uri", reference "DocumentUri"),
    ("range", reference "Range"),
    ("selectionRange", reference "Range"),
    ("data", reference "LSPAny")] ["name", "kind", "uri", "range", "selectionRange"]),
  ("MarkupContent", record [
    ("kind", oneOf "string" ["plaintext", "markdown"]),
    ("value", kind "string")] ["kind", "value"])]

/-- Parameters that name a place or a range. -/
def positionTypes : Json.Members := [
  ("TextDocumentPositionParams", record [
    ("textDocument", described (reference "TextDocumentIdentifier") "The text document."),
    ("position", described (reference "Position") "The position inside the text document."),
    ("workDoneToken", described (reference "ProgressToken")
      "An optional token that a server can use to report work done progress."),
    ("partialResultToken", described (reference "ProgressToken")
      ("An optional token that a server can use to report partial results (e.g. streaming) to " ++
        "the client."))] ["textDocument", "position"]),
  ("DocumentParams", record [
    ("textDocument", described (reference "TextDocumentIdentifier") "The text document."),
    ("workDoneToken", described (reference "ProgressToken")
      "An optional token that a server can use to report work done progress."),
    ("partialResultToken", described (reference "ProgressToken")
      ("An optional token that a server can use to report partial results (e.g. streaming) to " ++
        "the client."))] ["textDocument"]),
  ("DocumentRangeParams", record [
    ("textDocument", described (reference "TextDocumentIdentifier") "The text document."),
    ("range", reference "Range"),
    ("workDoneToken", described (reference "ProgressToken")
      "An optional token that a server can use to report work done progress."),
    ("partialResultToken", described (reference "ProgressToken")
      ("An optional token that a server can use to report partial results (e.g. streaming) to " ++
        "the client."))] ["textDocument", "range"]),
  ("ConfigurationParams", record [
    ("items", arrayOf (partialRecord [("scopeUri", reference "URI"), ("section", kind "string")]))]
      ["items"]),
  ("ColorPresentationParams", record [
    ("textDocument", described (reference "TextDocumentIdentifier") "The text document."),
    ("color", described (reference "Color") "The color to request presentations for."),
    ("range", described (reference "Range")
      "The range where the color would be inserted. Serves as a context."),
    ("workDoneToken", described (reference "ProgressToken")
      "An optional token that a server can use to report work done progress."),
    ("partialResultToken", described (reference "ProgressToken")
      ("An optional token that a server can use to report partial results (e.g. streaming) to " ++
        "the client."))] ["textDocument", "color", "range"]),
  ("SelectionRangeParams", record [
    ("textDocument", described (reference "TextDocumentIdentifier") "The text document."),
    ("positions", described (arrayOf (reference "Position"))
      "The positions inside the text document."),
    ("workDoneToken", described (reference "ProgressToken")
      "An optional token that a server can use to report work done progress."),
    ("partialResultToken", described (reference "ProgressToken")
      ("An optional token that a server can use to report partial results (e.g. streaming) to " ++
        "the client."))] ["textDocument", "positions"]),
  ("WorkDoneProgressCreateParams", record [
    ("token", described (reference "ProgressToken") "The token to be used to report progress.")]
      ["token"]),
  ("CallHierarchyCallsParams", record [
    ("item", reference "CallHierarchyItem"),
    ("workDoneToken", described (reference "ProgressToken")
      "An optional token that a server can use to report work done progress."),
    ("partialResultToken", described (reference "ProgressToken")
      ("An optional token that a server can use to report partial results (e.g. streaming) to " ++
        "the client."))] ["item"]),
  ("SemanticTokensDeltaParams", record [
    ("textDocument", described (reference "TextDocumentIdentifier") "The text document."),
    ("previousResultId", described (kind "string")
      ("The result id of a previous response. The result Id can either point to a full " ++
        "response\nor a delta response depending on what was received last.")),
    ("workDoneToken", described (reference "ProgressToken")
      "An optional token that a server can use to report work done progress."),
    ("partialResultToken", described (reference "ProgressToken")
      ("An optional token that a server can use to report partial results (e.g. streaming) to " ++
        "the client."))] ["textDocument", "previousResultId"]),
  ("ShowDocumentParams", record [
    ("uri", described (reference "URI") "The uri to show."),
    ("external", described (kind "boolean")
      "Indicates to show the resource in an external program."),
    ("takeFocus", described (kind "boolean")
      ("An optional property to indicate whether the editor\nshowing the document should take " ++
        "focus or not.")),
    ("selection", described (reference "Range")
      "An optional selection range if the document is a text\ndocument.")] ["uri"])]

/-- Parameters about files that come and go. -/
def fileTypes : Json.Members := [
  ("CreateFilesParams", record [
    ("files", described (arrayOf (record [("uri", kind "string")] ["uri"]))
      "An array of all files/folders created in this operation.")] ["files"]),
  ("RenameFilesParams", record [
    ("files", described (arrayOf (record [("oldUri", kind "string"), ("newUri", kind "string")]
        ["oldUri", "newUri"]))
      ("An array of all files/folders renamed in this operation. When a folder is renamed, " ++
        "only\nthe folder will be included, and not its children."))] ["files"]),
  ("DeleteFilesParams", record [
    ("files", described (arrayOf (record [("uri", kind "string")] ["uri"]))
      "An array of all files/folders deleted in this operation.")] ["files"])]

/-- Parameters about hierarchies, hints and diagnostics. -/
def hintTypes : Json.Members := [
  ("TypeHierarchyParams", record [
    ("item", reference "TypeHierarchyItem"),
    ("workDoneToken", described (reference "ProgressToken")
      "An optional token that a server can use to report work done progress."),
    ("partialResultToken", described (reference "ProgressToken")
      ("An optional token that a server can use to report partial results (e.g. streaming) to " ++
        "the client."))] ["item"]),
  ("InlineValueParams", record [
    ("textDocument", described (reference "TextDocumentIdentifier") "The text document."),
    ("range", described (reference "Range")
      "The document range for which inline values should be computed."),
    ("context", record [
      ("frameId", described (reference "integer")
        "The stack frame (as a DAP Id) where the execution has stopped."),
      ("stoppedLocation", described (reference "Range")
        ("The document range where execution has stopped.\nTypically the end position of the " ++
          "range denotes the line where the inline values are shown."))]
        ["frameId", "stoppedLocation"]),
    ("workDoneToken", described (reference "ProgressToken")
      "An optional token that a server can use to report work done progress.")]
      ["textDocument", "range", "context"]),
  ("InlayHintParams", record [
    ("textDocument", described (reference "TextDocumentIdentifier") "The text document."),
    ("range", described (reference "Range")
      "The document range for which inlay hints should be computed."),
    ("workDoneToken", described (reference "ProgressToken")
      "An optional token that a server can use to report work done progress.")]
      ["textDocument", "range"]),
  ("InlayHint", record [
    ("position", described (reference "Position") "The position of this hint."),
    ("label", described (schema [
      ("type", .arr [.str "string", .str "array"]),
      ("items", kind "object")]) "The label of this hint."),
    ("kind", described (schema [("type", .str "integer"), ("enum", .arr [.int 1, .int 2])])
      "The kind of this hint."),
    ("textEdits", arrayOf (reference "TextEdit")),
    ("tooltip", kinds ["string", "object"]),
    ("paddingLeft", kind "boolean"),
    ("paddingRight", kind "boolean"),
    ("data", reference "LSPAny")] ["position", "label"]),
  ("DocumentDiagnosticParams", record [
    ("textDocument", described (reference "TextDocumentIdentifier") "The text document."),
    ("identifier", described (kind "string")
      "The additional identifier  provided during registration."),
    ("previousResultId", described (kind "string")
      "The result id of a previous response if provided."),
    ("workDoneToken", described (reference "ProgressToken")
      "An optional token that a server can use to report work done progress."),
    ("partialResultToken", described (reference "ProgressToken")
      ("An optional token that a server can use to report partial results (e.g. streaming) to " ++
        "the client."))] ["textDocument"]),
  ("WorkspaceDiagnosticParams", record [
    ("identifier", described (kind "string")
      "The additional identifier provided during registration."),
    ("previousResultIds", described (arrayOf (record [
      ("uri", reference "DocumentUri"),
      ("value", kind "string")] ["uri", "value"]))
      "The currently known diagnostic reports with their\nprevious result ids."),
    ("workDoneToken", described (reference "ProgressToken")
      "An optional token that a server can use to report work done progress."),
    ("partialResultToken", described (reference "ProgressToken")
      ("An optional token that a server can use to report partial results (e.g. streaming) to " ++
        "the client."))] ["previousResultIds"])]

/-- Parameters about the session itself. -/
def sessionTypes : Json.Members := [
  ("RegistrationParams", record [
    ("registrations", arrayOf (record [
      ("id", kind "string"),
      ("method", kind "string"),
      ("registerOptions", reference "LSPAny")] ["id", "method"]))] ["registrations"]),
  ("UnregistrationParams", record [
    ("unregisterations", arrayOf (record [("id", kind "string"), ("method", kind "string")]
        ["id", "method"]))] ["unregisterations"]),
  ("InitializeParams", record [
    ("processId", kinds ["integer", "null"]),
    ("rootUri", kinds ["string", "null"]),
    ("capabilities", kind "object"),
    ("initializationOptions", reference "LSPAny"),
    ("workDoneToken", described (reference "ProgressToken")
      "An optional token that a server can use to report work done progress.")]
      ["processId", "rootUri", "capabilities"]),
  ("ShowMessageRequestParams", record [
    ("type", described (schema [
      ("type", .str "integer"),
      ("enum", .arr [.int 1, .int 2, .int 3, .int 4])])
      "The message type. See \x7b@link MessageType\x7d"),
    ("message", described (kind "string") "The actual message."),
    ("actions", described (arrayOf (record [("title", kind "string")] ["title"]))
      "The message action items to present.")] ["type", "message"]),
  ("WillSaveTextDocumentParams", record [
    ("textDocument", described (reference "TextDocumentIdentifier") "The text document."),
    ("reason", described (schema [
      ("type", .str "integer"),
      ("enum", .arr [.int 1, .int 2, .int 3])]) "The 'TextDocumentSaveReason'.")]
      ["textDocument", "reason"])]

/-- Parameters about completion, signatures and references. -/
def completionTypes : Json.Members := [
  ("CompletionParams", record [
    ("textDocument", described (reference "TextDocumentIdentifier") "The text document."),
    ("position", described (reference "Position") "The position inside the text document."),
    ("context", record [
      ("triggerKind", described (schema [
        ("type", .str "integer"),
        ("enum", .arr [.int 1, .int 2, .int 3])]) "How the completion was triggered."),
      ("triggerCharacter", described (kind "string")
        ("The trigger character (a single character) that has trigger code complete.\nIs " ++
          "undefined if `triggerKind !== CompletionTriggerKind.TriggerCharacter`"))]
        ["triggerKind"]),
    ("workDoneToken", described (reference "ProgressToken")
      "An optional token that a server can use to report work done progress."),
    ("partialResultToken", described (reference "ProgressToken")
      ("An optional token that a server can use to report partial results (e.g. streaming) to " ++
        "the client."))] ["textDocument", "position"]),
  ("CompletionItem", record [
    ("label", described (kind "string") "The label of this completion item."),
    ("kind", described (kind "integer") "The kind of this completion item."),
    ("detail", described (kind "string")
      ("A human-readable string with additional information\nabout this item, like type or " ++
        "symbol information.")),
    ("documentation", kinds ["string", "object"]),
    ("sortText", kind "string"),
    ("filterText", kind "string"),
    ("insertText", kind "string"),
    ("textEdit", reference "TextEdit"),
    ("additionalTextEdits", arrayOf (reference "TextEdit")),
    ("command", reference "Command"),
    ("data", reference "LSPAny")] ["label"]),
  ("SignatureHelpParams", record [
    ("textDocument", described (reference "TextDocumentIdentifier") "The text document."),
    ("position", described (reference "Position") "The position inside the text document."),
    ("context", record [
      ("triggerKind", described (schema [
        ("type", .str "integer"),
        ("enum", .arr [.int 1, .int 2, .int 3])])
        "Action that caused signature help to be triggered."),
      ("triggerCharacter", kind "string"),
      ("isRetrigger", described (kind "boolean")
        "`true` if signature help was already showing when it was triggered.")]
        ["triggerKind", "isRetrigger"]),
    ("workDoneToken", described (reference "ProgressToken")
      "An optional token that a server can use to report work done progress.")]
      ["textDocument", "position"]),
  ("ReferenceParams", record [
    ("textDocument", described (reference "TextDocumentIdentifier") "The text document."),
    ("position", described (reference "Position") "The position inside the text document."),
    ("context", record [
      ("includeDeclaration", described (kind "boolean")
        "Include the declaration of the current symbol.")] ["includeDeclaration"]),
    ("workDoneToken", described (reference "ProgressToken")
      "An optional token that a server can use to report work done progress."),
    ("partialResultToken", described (reference "ProgressToken")
      ("An optional token that a server can use to report partial results (e.g. streaming) to " ++
        "the client."))] ["textDocument", "position", "context"])]

/-- Parameters about actions, symbols and links. -/
def codeTypes : Json.Members := [
  ("CodeActionParams", record [
    ("textDocument", described (reference "TextDocumentIdentifier") "The text document."),
    ("range", described (reference "Range") "The range for which the command was invoked."),
    ("context", record [
      ("diagnostics", described (arrayOf (reference "Diagnostic"))
        ("An array of diagnostics known on the client side overlapping the range provided to " ++
          "the\n`textDocument/codeAction` request.")),
      ("only", described (arrayOf (kind "string")) "Requested kind of actions to return."),
      ("triggerKind", schema [("type", .str "integer"), ("enum", .arr [.int 1, .int 2])])]
        ["diagnostics"]),
    ("workDoneToken", described (reference "ProgressToken")
      "An optional token that a server can use to report work done progress."),
    ("partialResultToken", described (reference "ProgressToken")
      ("An optional token that a server can use to report partial results (e.g. streaming) to " ++
        "the client."))] ["textDocument", "range", "context"]),
  ("CodeAction", record [
    ("title", described (kind "string") "A short, human-readable, title for this code action."),
    ("kind", described (kind "string") "The kind of the code action."),
    ("diagnostics", arrayOf (reference "Diagnostic")),
    ("isPreferred", kind "boolean"),
    ("edit", reference "WorkspaceEdit"),
    ("command", reference "Command"),
    ("data", reference "LSPAny")] ["title"]),
  ("WorkspaceSymbolParams", record [
    ("query", described (kind "string")
      ("A query string to filter symbols by. Clients may send an empty\nstring here to request " ++
        "all symbols.")),
    ("workDoneToken", described (reference "ProgressToken")
      "An optional token that a server can use to report work done progress."),
    ("partialResultToken", described (reference "ProgressToken")
      ("An optional token that a server can use to report partial results (e.g. streaming) to " ++
        "the client."))] ["query"]),
  ("WorkspaceSymbol", record [
    ("name", described (kind "string") "The name of this symbol."),
    ("kind", described (kind "integer") "The kind of this symbol."),
    ("tags", arrayOf (kind "integer")),
    ("containerName", kind "string"),
    ("location", reference "Location"),
    ("data", reference "LSPAny")] ["name", "kind", "location"]),
  ("CodeLens", record [
    ("range", described (reference "Range")
      "The range in which this code lens is valid. Should only span a single line."),
    ("command", reference "Command"),
    ("data", reference "LSPAny")] ["range"]),
  ("DocumentLink", record [
    ("range", described (reference "Range") "The range this link applies to."),
    ("target", described (reference "URI")
      "The uri this link points to. If missing a resolve request is sent later."),
    ("tooltip", kind "string"),
    ("data", reference "LSPAny")] ["range"])]

/-- Parameters about formatting, renaming and commands. -/
def editTypes : Json.Members := [
  ("DocumentFormattingParams", record [
    ("textDocument", described (reference "TextDocumentIdentifier") "The text document."),
    ("options", described (reference "FormattingOptions") "The format options."),
    ("workDoneToken", described (reference "ProgressToken")
      "An optional token that a server can use to report work done progress.")]
      ["textDocument", "options"]),
  ("DocumentRangeFormattingParams", record [
    ("textDocument", described (reference "TextDocumentIdentifier") "The text document."),
    ("range", described (reference "Range") "The range to format"),
    ("options", reference "FormattingOptions"),
    ("workDoneToken", described (reference "ProgressToken")
      "An optional token that a server can use to report work done progress.")]
      ["textDocument", "range", "options"]),
  ("DocumentOnTypeFormattingParams", record [
    ("textDocument", described (reference "TextDocumentIdentifier") "The text document."),
    ("position", described (reference "Position")
      ("The position around which the on type formatting should happen.\nThis is not " ++
        "necessarily the exact position where the character denoted\nby the property `ch` got " ++
        "typed.")),
    ("ch", described (kind "string")
      "The character that has been typed that triggered the formatting\non type request."),
    ("options", reference "FormattingOptions")] ["textDocument", "position", "ch", "options"]),
  ("RenameParams", record [
    ("textDocument", described (reference "TextDocumentIdentifier") "The text document."),
    ("position", described (reference "Position") "The position inside the text document."),
    ("newName", described (kind "string")
      ("The new name of the symbol. If the given name is not valid the\nrequest must return a " ++
        "\x7b@link ResponseError\x7d with an\nappropriate message set.")),
    ("workDoneToken", described (reference "ProgressToken")
      "An optional token that a server can use to report work done progress.")]
      ["textDocument", "position", "newName"]),
  ("PrepareRenameParams", record [
    ("textDocument", described (reference "TextDocumentIdentifier") "The text document."),
    ("position", described (reference "Position") "The position inside the text document."),
    ("workDoneToken", described (reference "ProgressToken")
      "An optional token that a server can use to report work done progress.")]
      ["textDocument", "position"]),
  ("ExecuteCommandParams", record [
    ("command", described (kind "string") "The identifier of the actual command handler."),
    ("arguments", described (arrayOf (reference "LSPAny"))
      "Arguments that the command should be invoked with."),
    ("workDoneToken", described (reference "ProgressToken")
      "An optional token that a server can use to report work done progress.")] ["command"]),
  ("ApplyWorkspaceEditParams", record [
    ("label", described (kind "string")
      ("An optional label of the workspace edit. This label is\npresented in the user " ++
        "interface for example on an undo\nstack to undo the workspace edit.")),
    ("edit", described (reference "WorkspaceEdit") "The edits to apply.")] ["edit"])]

/-- Every type, by name. -/
def types : Json.Members :=
  basicTypes ++ valueTypes ++ positionTypes ++ fileTypes ++ hintTypes ++
    sessionTypes ++ completionTypes ++ codeTypes ++ editTypes

end LspGateway.Catalog
