import LspGateway.Catalog.Types

/-! # The requests of the protocol

The bundled metadata: every request with its documentation, and the definition
that gives the shape of its messages.
-/

namespace LspGateway.Catalog

/-- A request of the protocol. -/
structure Request where
  method : String
  /-- The name of the definition of its messages. -/
  definition : String
  /-- The type of its parameters, if it has any. -/
  params : Option String
  documentation : Option String
  deriving Repr

/-- Requests about places, colours and calls. -/
def placeRequests : List Request := [
  ⟨"textDocument/implementation", "TextDocumentImplementationRequest",
    some "TextDocumentPositionParams",
    some ("A request to resolve the implementation locations of a symbol at a given " ++
      "text\ndocument position. The request's parameter is of type \x7b@link " ++
      "TextDocumentPositionParams\x7d\nthe response is of type \x7b@link Definition\x7d or a " ++
      "Thenable that resolves to such.")⟩,
  ⟨"textDocument/typeDefinition", "TextDocumentTypeDefinitionRequest",
    some "TextDocumentPositionParams",
    some ("A request to resolve the type definition locations of a symbol at a given " ++
      "text\ndocument position. The request's parameter is of type \x7b@link " ++
      "TextDocumentPositionParams\x7d\nthe response is of type \x7b@link Definition\x7d or a " ++
      "Thenable that resolves to such.")⟩,
  ⟨"workspace/workspaceFolders", "WorkspaceWorkspaceFoldersRequest", none,
    some ("The `workspace/workspaceFolders` is sent from the server to the client to fetch the " ++
      "open workspace folders.")⟩,
  ⟨"workspace/configuration", "WorkspaceConfigurationRequest", some "ConfigurationParams",
    some ("The 'workspace/configuration' request is sent from the server to the client to " ++
      "fetch a certain\nconfiguration setting.")⟩,
  ⟨"textDocument/documentColor", "TextDocumentDocumentColorRequest", some "DocumentParams",
    some ("A request to list all color symbols found in a given text document. The " ++
      "request's\nparameter is of type \x7b@link DocumentColorParams\x7d the\nresponse is of " ++
      "type \x7b@link ColorInformation ColorInformation[]\x7d or a Thenable\nthat resolves to " ++
      "such.")⟩,
  ⟨"textDocument/colorPresentation", "TextDocumentColorPresentationRequest",
    some "ColorPresentationParams",
    some ("A request to list all presentation for a color. The request's\nparameter is of type " ++
      "\x7b@link ColorPresentationParams\x7d the\nresponse is of type \x7b@link " ++
      "ColorInformation ColorInformation[]\x7d or a Thenable\nthat resolves to such.")⟩,
  ⟨"textDocument/foldingRange", "TextDocumentFoldingRangeRequest", some "DocumentParams",
    some ("A request to provide folding ranges in a document. The request's\nparameter is of " ++
      "type \x7b@link FoldingRangeParams\x7d, the\nresponse is of type \x7b@link " ++
      "FoldingRangeList\x7d or a Thenable\nthat resolves to such.")⟩,
  ⟨"textDocument/declaration", "TextDocumentDeclarationRequest", some "TextDocumentPositionParams",
    some ("A request to resolve the type definition locations of a symbol at a given " ++
      "text\ndocument position. The request's parameter is of type \x7b@link " ++
      "TextDocumentPositionParams\x7d\nthe response is of type \x7b@link Declaration\x7d or a " ++
      "typed array of \x7b@link DeclarationLink\x7d\nor a Thenable that resolves to such.")⟩,
  ⟨"textDocument/selectionRange", "TextDocumentSelectionRangeRequest", some "SelectionRangeParams",
    some ("A request to provide selection ranges in a document. The request's\nparameter is of " ++
      "type \x7b@link SelectionRangeParams\x7d, the\nresponse is of type \x7b@link " ++
      "SelectionRange SelectionRange[]\x7d or a Thenable\nthat resolves to such.")⟩,
  ⟨"window/workDoneProgress/create", "WindowWorkDoneProgressCreateRequest",
    some "WorkDoneProgressCreateParams",
    some ("The `window/workDoneProgress/create` request is sent from the server to the client " ++
      "to initiate progress\nreporting from the server.")⟩,
  ⟨"textDocument/prepareCallHierarchy", "TextDocumentPrepareCallHierarchyRequest",
    some "TextDocumentPositionParams",
    some ("A request to result a `CallHierarchyItem` in a document at a given position.\nCan " ++
      "be used as an input to an incoming or outgoing call hierarchy.\n\n@since 3.16.0")⟩,
  ⟨"callHierarchy/incomingCalls", "CallHierarchyIncomingCallsRequest",
    some "CallHierarchyCallsParams",
    some "A request to resolve the incoming calls for a given `CallHierarchyItem`.\n\n@since 3.16.0"⟩,
  ⟨"callHierarchy/outgoingCalls", "CallHierarchyOutgoingCallsRequest",
    some "CallHierarchyCallsParams",
    some "A request to resolve the outgoing calls for a given `CallHierarchyItem`.\n\n@since 3.16.0"⟩]

/-- Requests about tokens, windows and files. -/
def tokenRequests : List Request := [
  ⟨"textDocument/semanticTokens/full", "TextDocumentSemanticTokensFullRequest",
    some "DocumentParams",
    some "@since 3.16.0"⟩,
  ⟨"textDocument/semanticTokens/full/delta", "TextDocumentSemanticTokensFullDeltaRequest",
    some "SemanticTokensDeltaParams",
    some "@since 3.16.0"⟩,
  ⟨"textDocument/semanticTokens/range", "TextDocumentSemanticTokensRangeRequest",
    some "DocumentRangeParams",
    some "@since 3.16.0"⟩,
  ⟨"workspace/semanticTokens/refresh", "WorkspaceSemanticTokensRefreshRequest", none,
    some "@since 3.16.0"⟩,
  ⟨"window/showDocument", "WindowShowDocumentRequest", some "ShowDocumentParams",
    some ("A request to show a document. This request might open an\nexternal program " ++
      "depending on the value of the URI to open.\nFor example a request to open " ++
      "`https://code.visualstudio.com/`\nwill very likely open the URI in a WEB " ++
      "browser.\n\n@since 3.16.0")⟩,
  ⟨"textDocument/linkedEditingRange", "TextDocumentLinkedEditingRangeRequest",
    some "TextDocumentPositionParams",
    some "A request to provide ranges that can be edited together.\n\n@since 3.16.0"⟩,
  ⟨"workspace/willCreateFiles", "WorkspaceWillCreateFilesRequest", some "CreateFilesParams",
    some ("The will create files request is sent from the client to the server before files " ++
      "are actually\ncreated as long as the creation is triggered from within the " ++
      "client.\n\nThe request can return a `WorkspaceEdit` which will be applied to workspace " ++
      "before the\nfiles are created. Hence the `WorkspaceEdit` can not manipulate the content " ++
      "of the file\nto be created.\n\n@since 3.16.0")⟩,
  ⟨"workspace/willRenameFiles", "WorkspaceWillRenameFilesRequest", some "RenameFilesParams",
    some ("The will rename files request is sent from the client to the server before files " ++
      "are actually\nrenamed as long as the rename is triggered from within the " ++
      "client.\n\n@since 3.16.0")⟩,
  ⟨"workspace/willDeleteFiles", "WorkspaceWillDeleteFilesRequest", some "DeleteFilesParams",
    some ("The did delete files notification is sent from the client to the server when\nfiles " ++
      "were deleted from within the client.\n\n@since 3.16.0")⟩,
  ⟨"textDocument/moniker", "TextDocumentMonikerRequest", some "TextDocumentPositionParams",
    some ("A request to get the moniker of a symbol at a given text document position.\nThe " ++
      "request parameter is of type \x7b@link TextDocumentPositionParams\x7d.\nThe response is " ++
      "of type \x7b@link Moniker Moniker[]\x7d or `null`.")⟩]

/-- Requests about type hierarchies, hints and diagnostics. -/
def hintRequests : List Request := [
  ⟨"textDocument/prepareTypeHierarchy", "TextDocumentPrepareTypeHierarchyRequest",
    some "TextDocumentPositionParams",
    some ("A request to result a `TypeHierarchyItem` in a document at a given position.\nCan " ++
      "be used as an input to a subtypes or supertypes type hierarchy.\n\n@since 3.17.0")⟩,
  ⟨"typeHierarchy/supertypes", "TypeHierarchySupertypesRequest", some "TypeHierarchyParams",
    some "A request to resolve the supertypes for a given `TypeHierarchyItem`.\n\n@since 3.17.0"⟩,
  ⟨"typeHierarchy/subtypes", "TypeHierarchySubtypesRequest", some "TypeHierarchyParams",
    some "A request to resolve the subtypes for a given `TypeHierarchyItem`.\n\n@since 3.17.0"⟩,
  ⟨"textDocument/inlineValue", "TextDocumentInlineValueRequest", some "InlineValueParams",
    some ("A request to provide inline values in a document. The request's parameter is " ++
      "of\ntype \x7b@link InlineValueParams\x7d, the response is of type\n\x7b@link " ++
      "InlineValue InlineValue[]\x7d or a Thenable that resolves to such.\n\n@since 3.17.0")⟩,
  ⟨"workspace/inlineValue/refresh", "WorkspaceInlineValueRefreshRequest", none,
    some "@since 3.17.0"⟩,
  ⟨"textDocument/inlayHint", "TextDocumentInlayHintRequest", some "InlayHintParams",
    some ("A request to provide inlay hints in a document. The request's parameter is of\ntype " ++
      "\x7b@link InlayHintsParams\x7d, the response is of type\n\x7b@link InlayHint " ++
      "InlayHint[]\x7d or a Thenable that resolves to such.\n\n@since 3.17.0")⟩,
  ⟨"inlayHint/resolve", "InlayHintResolveRequest", some "InlayHint",
    some ("A request to resolve additional properties for an inlay hint.\nThe request's " ++
      "parameter is of type \x7b@link InlayHint\x7d, the response is\nof type \x7b@link " ++
      "InlayHint\x7d or a Thenable that resolves to such.\n\n@since 3.17.0")⟩,
  ⟨"workspace/inlayHint/refresh", "WorkspaceInlayHintRefreshRequest", none,
    some "@since 3.17.0"⟩,
  ⟨"textDocument/diagnostic", "TextDocumentDiagnosticRequest", some "DocumentDiagnosticParams",
    some "The document diagnostic request definition.\n\n@since 3.17.0"⟩,
  ⟨"workspace/diagnostic", "WorkspaceDiagnosticRequest", some "WorkspaceDiagnosticParams",
    some "The workspace diagnostic request definition.\n\n@since 3.17.0"⟩,
  ⟨"workspace/diagnostic/refresh", "WorkspaceDiagnosticRefreshRequest", none,
    some "The diagnostic refresh request definition.\n\n@since 3.17.0"⟩]

/-- Requests about the session itself. -/
def sessionRequests : List Request := [
  ⟨"client/registerCapability", "ClientRegisterCapabilityRequest", some "RegistrationParams",
    some ("The `client/registerCapability` request is sent from the server to the client to " ++
      "register a new capability\nhandler on the client side.")⟩,
  ⟨"client/unregisterCapability", "ClientUnregisterCapabilityRequest", some "UnregistrationParams",
    some ("The `client/unregisterCapability` request is sent from the server to the client to " ++
      "unregister a previously registered capability\nhandler on the client side.")⟩,
  ⟨"initialize", "InitializeRequest", some "InitializeParams",
    some ("The initialize request is sent from the client to the server.\nIt is sent once as " ++
      "the request after starting up the server.\nThe requests parameter is of type \x7b@link " ++
      "InitializeParams\x7d\nthe response if of type \x7b@link InitializeResult\x7d of a " ++
      "Thenable that\nresolves to such.")⟩,
  ⟨"shutdown", "ShutdownRequest", none,
    some ("A shutdown request is sent from the client to the server.\nIt is sent once when the " ++
      "client decides to shutdown the\nserver. The only notification that is sent after a " ++
      "shutdown request\nis the exit event.")⟩,
  ⟨"window/showMessageRequest", "WindowShowMessageRequestRequest", some "ShowMessageRequestParams",
    some ("The show message request is sent from the server to the client to show a " ++
      "message\nand a set of options actions to the user.")⟩,
  ⟨"textDocument/willSaveWaitUntil", "TextDocumentWillSaveWaitUntilRequest",
    some "WillSaveTextDocumentParams",
    some ("A document will save request is sent from the client to the server before\nthe " ++
      "document is actually saved. The request can return an array of TextEdits\nwhich will be " ++
      "applied to the text document before it is saved. Please note that\nclients might drop " ++
      "results if computing the text edits took too long or if a\nserver constantly fails on " ++
      "this request. This is done to keep the save fast and\nreliable.")⟩]

/-- Requests about completion, references and symbols. -/
def completionRequests : List Request := [
  ⟨"textDocument/completion", "TextDocumentCompletionRequest", some "CompletionParams",
    some ("Request to request completion at a given text document position. The " ++
      "request's\nparameter is of type \x7b@link TextDocumentPosition\x7d the response\nis of " ++
      "type \x7b@link CompletionItem CompletionItem[]\x7d or \x7b@link CompletionList\x7d\nor " ++
      "a Thenable that resolves to such.\n\nThe request can delay the computation of the " ++
      "\x7b@link CompletionItem.detail `detail`\x7d\nand \x7b@link " ++
      "CompletionItem.documentation `documentation`\x7d properties to the " ++
      "`completionItem/resolve`\nrequest. However, properties that are needed for the initial " ++
      "sorting and filtering, like `sortText`,\n`filterText`, `insertText`, and `textEdit`, " ++
      "must not be changed during resolve.")⟩,
  ⟨"completionItem/resolve", "CompletionItemResolveRequest", some "CompletionItem",
    some ("Request to resolve additional information for a given completion item.The " ++
      "request's\nparameter is of type \x7b@link CompletionItem\x7d the response\nis of type " ++
      "\x7b@link CompletionItem\x7d or a Thenable that resolves to such.")⟩,
  ⟨"textDocument/hover", "TextDocumentHoverRequest", some "TextDocumentPositionParams",
    some ("Request to request hover information at a given text document position. The " ++
      "request's\nparameter is of type \x7b@link TextDocumentPosition\x7d the response is " ++
      "of\ntype \x7b@link Hover\x7d or a Thenable that resolves to such.")⟩,
  ⟨"textDocument/signatureHelp", "TextDocumentSignatureHelpRequest", some "SignatureHelpParams",
    none⟩,
  ⟨"textDocument/definition", "TextDocumentDefinitionRequest", some "TextDocumentPositionParams",
    some ("A request to resolve the definition location of a symbol at a given text\ndocument " ++
      "position. The request's parameter is of type \x7b@link TextDocumentPosition\x7d\nthe " ++
      "response is of either type \x7b@link Definition\x7d or a typed array of\n\x7b@link " ++
      "DefinitionLink\x7d or a Thenable that resolves to such.")⟩,
  ⟨"textDocument/references", "TextDocumentReferencesRequest", some "ReferenceParams",
    some ("A request to resolve project-wide references for the symbol denoted\nby the given " ++
      "text document position. The request's parameter is of\ntype \x7b@link " ++
      "ReferenceParams\x7d the response is of type\n\x7b@link Location Location[]\x7d or a " ++
      "Thenable that resolves to such.")⟩,
  ⟨"textDocument/documentHighlight", "TextDocumentDocumentHighlightRequest",
    some "TextDocumentPositionParams",
    some ("Request to resolve a \x7b@link DocumentHighlight\x7d for a given\ntext document " ++
      "position. The request's parameter is of type \x7b@link TextDocumentPosition\x7d\nthe " ++
      "request response is an array of type \x7b@link DocumentHighlight\x7d\nor a Thenable " ++
      "that resolves to such.")⟩,
  ⟨"textDocument/documentSymbol", "TextDocumentDocumentSymbolRequest", some "DocumentParams",
    some ("A request to list all symbols found in a given text document. The " ++
      "request's\nparameter is of type \x7b@link TextDocumentIdentifier\x7d the\nresponse is " ++
      "of type \x7b@link SymbolInformation SymbolInformation[]\x7d or a Thenable\nthat " ++
      "resolves to such.")⟩,
  ⟨"textDocument/codeAction", "TextDocumentCodeActionRequest", some "CodeActionParams",
    some "A request to provide commands for the given text document and range."⟩,
  ⟨"codeAction/resolve", "CodeActionResolveRequest", some "CodeAction",
    some ("Request to resolve additional information for a given code action.The " ++
      "request's\nparameter is of type \x7b@link CodeAction\x7d the response\nis of type " ++
      "\x7b@link CodeAction\x7d or a Thenable that resolves to such.")⟩,
  ⟨"workspace/symbol", "WorkspaceSymbolRequest", some "WorkspaceSymbolParams",
    some ("A request to list project-wide symbols matching the query string given\nby the " ++
      "\x7b@link WorkspaceSymbolParams\x7d. The response is\nof type \x7b@link " ++
      "SymbolInformation SymbolInformation[]\x7d or a Thenable that\nresolves to " ++
      "such.\n\n@since 3.17.0 - support for WorkspaceSymbol in the returned data. Clients\n " ++
      "need to advertise support for WorkspaceSymbols via the client capability\n " ++
      "`workspace.symbol.resolveSupport`.\n")⟩,
  ⟨"workspaceSymbol/resolve", "WorkspaceSymbolResolveRequest", some "WorkspaceSymbol",
    some "A request to resolve the range inside the workspace\nsymbol's location.\n\n@since 3.17.0"⟩]

/-- Requests about lenses, links, formatting and commands. -/
def editRequests : List Request := [
  ⟨"textDocument/codeLens", "TextDocumentCodeLensRequest", some "DocumentParams",
    some "A request to provide code lens for the given text document."⟩,
  ⟨"codeLens/resolve", "CodeLensResolveRequest", some "CodeLens",
    some "A request to resolve a command for a given code lens."⟩,
  ⟨"workspace/codeLens/refresh", "WorkspaceCodeLensRefreshRequest", none,
    some "A request to refresh all code actions\n\n@since 3.16.0"⟩,
  ⟨"textDocument/documentLink", "TextDocumentDocumentLinkRequest", some "DocumentParams",
    some "A request to provide document links"⟩,
  ⟨"documentLink/resolve", "DocumentLinkResolveRequest", some "DocumentLink",
    some ("Request to resolve additional information for a given document link. The " ++
      "request's\nparameter is of type \x7b@link DocumentLink\x7d the response\nis of type " ++
      "\x7b@link DocumentLink\x7d or a Thenable that resolves to such.")⟩,
  ⟨"textDocument/formatting", "TextDocumentFormattingRequest", some "DocumentFormattingParams",
    some "A request to format a whole document."⟩,
  ⟨"textDocument/rangeFormatting", "TextDocumentRangeFormattingRequest",
    some "DocumentRangeFormattingParams",
    some "A request to format a range in a document."⟩,
  ⟨"textDocument/onTypeFormatting", "TextDocumentOnTypeFormattingRequest",
    some "DocumentOnTypeFormattingParams",
    some "A request to format a document on type."⟩,
  ⟨"textDocument/rename", "TextDocumentRenameRequest", some "RenameParams",
    some "A request to rename a symbol."⟩,
  ⟨"textDocument/prepareRename", "TextDocumentPrepareRenameRequest", some "PrepareRenameParams",
    some ("A request to test and perform the setup necessary for a rename.\n\n@since 3.16 - " ++
      "support for default behavior")⟩,
  ⟨"workspace/executeCommand", "WorkspaceExecuteCommandRequest", some "ExecuteCommandParams",
    some ("A request send from the client to the server to execute a command. The request " ++
      "might return\na workspace edit which the client will apply to the workspace.")⟩,
  ⟨"workspace/applyEdit", "WorkspaceApplyEditRequest", some "ApplyWorkspaceEditParams",
    some "A request sent from the server to the client to modified certain resources."⟩]

/-- Every request, in the order of the metadata. -/
def requests : List Request :=
  placeRequests ++ tokenRequests ++ hintRequests ++ sessionRequests ++
    completionRequests ++ editRequests

/-- The definition of a request's messages. -/
def Request.schema (r : Request) : Json :=
  let head : Json.Members := [
    ("id", kinds ["integer", "string"]), ("jsonrpc", kind "string"),
    ("method", oneOf "string" [r.method])]
  match r.params with
  | some name =>
    record (head ++ [("params", reference name)]) ["id", "jsonrpc", "method", "params"]
  | none => record head ["id", "jsonrpc", "method"]

/-- The documentation of a request, as the metadata holds it. -/
def Request.entry (r : Request) : Json :=
  .obj ([("method", .str r.method)] ++
    (r.documentation.map fun d => ("documentation", .str d)).toList)

/-- The metadata of the protocol: its requests. -/
def bundledModel : Json := .obj [("requests", .arr (requests.map Request.entry))]

/-- The definitions of the protocol: its types and the messages of its requests. -/
def bundledSchema : Json :=
  .obj [("definitions", .obj (types ++ requests.map fun r => (r.definition, r.schema)))]

end LspGateway.Catalog
