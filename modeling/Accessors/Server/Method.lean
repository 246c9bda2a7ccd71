import Accessors.Server.Session
import Accessors.Server.Shape

/-!
# Methods of the server

The methods of the protocol between editors and servers, and the shapes of their parameters.

* `Method.of?`: what is known of a method.
* `ServerRequest.of`, `Notification.of?`: the messages that methods and their parameters make.
-/

namespace Accessors

open Json (Value)

/-! ## Parameters -/

namespace Shape

/-- A natural number of 32 bits. -/
def natural32 : Shape := .integer "u32" 0 0xFFFFFFFF

/-- An integer of 32 bits. -/
def integer32 : Shape := .integer "i32" (-0x80000000) 0x7FFFFFFF

/-- A part of what an editor can do; its fields are not looked at. -/
def capability (type : String) : Shape := .record type true []

/-- What an editor can do. -/
def clientCapabilities : Shape :=
  .record "ClientCapabilities" false
    [("workspace", .optional, capability "WorkspaceClientCapabilities"),
     ("textDocument", .optional, capability "TextDocumentClientCapabilities"),
     ("notebookDocument", .optional, capability "NotebookDocumentClientCapabilities"),
     ("window", .optional, capability "WindowClientCapabilities"),
     ("general", .optional, capability "GeneralClientCapabilities"),
     ("experimental", .optional, .anything)]

/-- A folder that is open in an editor. -/
def workspaceFolder : Shape :=
  .record "WorkspaceFolder" false [("uri", .required, .uri), ("name", .required, .text)]

/-- The name and the version of an editor. -/
def clientInfo : Shape :=
  .record "ClientInfo" false [("name", .required, .text), ("version", .optional, .text)]

/-- The parameters of the first request. -/
def start : Shape :=
  .record "InitializeParams" false
    [("processId", .optional, natural32), ("rootPath", .optional, .text),
     ("rootUri", .defaulted, .uri), ("initializationOptions", .optional, .anything),
     ("capabilities", .required, clientCapabilities),
     ("trace", .defaulted, .choice ["off", "messages", "verbose"]),
     ("workspaceFolders", .optional, .list workspaceFolder),
     ("clientInfo", .optional, clientInfo), ("locale", .optional, .text)]

/-- The parameters of the notification behind the first answer. -/
def ready : Shape := .record "InitializedParams" false []

/-- A place in a document. -/
def position : Shape :=
  .record "Position" false [("line", .required, natural32), ("character", .required, natural32)]

/-- A part of a document. -/
def range : Shape :=
  .record "Range" false [("start", .required, position), ("end", .required, position)]

/-- The name of a document. -/
def document : Shape := .record "TextDocumentIdentifier" false [("uri", .required, .uri)]

/-- A remark about a part of a document. -/
def diagnostic : Shape :=
  .record "Diagnostic" false [("range", .required, range), ("message", .required, .text)]

/-- The parameters of a request for code actions. -/
def codeActions : Shape :=
  .record "CodeActionParams" true
    [("textDocument", .required, document), ("range", .required, range),
     ("context", .required, .record "CodeActionContext" false
       [("diagnostics", .required, .list diagnostic), ("only", .optional, .list .text),
        ("triggerKind", .optional, integer32)])]

/-- The parameters of the notification that a document is opened. -/
def opened : Shape :=
  .record "DidOpenTextDocumentParams" false
    [("textDocument", .required, .record "TextDocumentItem" false
       [("uri", .required, .uri), ("languageId", .required, .text),
        ("version", .required, integer32), ("text", .required, .text)])]

/-- The parameters of the notification that a document is changed. -/
def changed : Shape :=
  .record "DidChangeTextDocumentParams" false
    [("textDocument", .required, .record "VersionedTextDocumentIdentifier" false
       [("uri", .required, .uri), ("version", .required, integer32)]),
     ("contentChanges", .required, .list (.record "TextDocumentContentChangeEvent" false
       [("range", .optional, range), ("rangeLength", .optional, natural32),
        ("text", .required, .text)]))]

/-- The parameters of the notification that a document is closed. -/
def closed : Shape :=
  .record "DidCloseTextDocumentParams" false [("textDocument", .required, document)]

end Shape

/-! ## Methods -/

/-- What is known of a method. -/
inductive Method where
  | start
  | shutDown
  | codeActions
  | ready
  | opened
  | changed
  | closed
  | exit
  /-- The notification that cancels a request. -/
  | cancel
  /-- A request that this server has no answer to. -/
  | otherRequest
  /-- A notification that this server does nothing upon. -/
  | otherNotification
  deriving DecidableEq, Repr

namespace Method

/-- The methods that this server has a use for. -/
def supported : List (String × Method) :=
  [("initialize", .start), ("shutdown", .shutDown), ("textDocument/codeAction", .codeActions),
   ("initialized", .ready), ("textDocument/didOpen", .opened),
   ("textDocument/didChange", .changed), ("textDocument/didClose", .closed), ("exit", .exit),
   ("$/cancelRequest", .cancel)]

/-- The other requests of the protocol. -/
def otherRequests : List String :=
  ["textDocument/willSaveWaitUntil", "textDocument/declaration", "textDocument/definition",
   "textDocument/typeDefinition", "textDocument/implementation", "textDocument/references",
   "textDocument/prepareCallHierarchy", "callHierarchy/incomingCalls",
   "callHierarchy/outgoingCalls", "textDocument/prepareTypeHierarchy", "typeHierarchy/supertypes",
   "typeHierarchy/subtypes", "textDocument/documentHighlight", "textDocument/documentLink",
   "documentLink/resolve", "textDocument/hover", "textDocument/codeLens", "codeLens/resolve",
   "textDocument/foldingRange", "textDocument/selectionRange", "textDocument/documentSymbol",
   "textDocument/semanticTokens/full", "textDocument/semanticTokens/full/delta",
   "textDocument/semanticTokens/range", "textDocument/inlineValue", "textDocument/inlayHint",
   "inlayHint/resolve", "textDocument/moniker", "textDocument/completion",
   "completionItem/resolve", "textDocument/diagnostic", "workspace/diagnostic",
   "textDocument/signatureHelp", "codeAction/resolve", "textDocument/documentColor",
   "textDocument/colorPresentation", "textDocument/formatting", "textDocument/rangeFormatting",
   "textDocument/onTypeFormatting", "textDocument/rename", "textDocument/prepareRename",
   "textDocument/linkedEditingRange", "workspace/symbol", "workspaceSymbol/resolve",
   "workspace/willCreateFiles", "workspace/willRenameFiles", "workspace/willDeleteFiles",
   "workspace/executeCommand"]

/-- The other notifications of the protocol. -/
def otherNotifications : List String :=
  ["textDocument/willSave", "textDocument/didSave", "workspace/didChangeConfiguration",
   "workspace/didChangeWorkspaceFolders", "workspace/didCreateFiles", "workspace/didRenameFiles",
   "workspace/didDeleteFiles", "workspace/didChangeWatchedFiles"]

/-- What is known of a method. -/
def of? (name : Text) : Option Method :=
  let has (names : List String) : Bool := names.any fun n => n.toList = name
  match supported.find? fun (n, _) => n.toList = name with
  | some (_, m) => some m
  | none =>
    if has otherRequests then some .otherRequest
    else if has otherNotifications then some .otherNotification
    else none

end Method

/-! ## Messages -/

/-- The identifier of the document that a message is about. -/
def documentUri? (params : Value) : Option Uri := do
  let document ← params.member? "textDocument"
  (Uri.parse (← (← document.member? "uri").text?)).toOption

/-- The text of a document that a message opens. -/
def documentText? (params : Value) : Option Text := do
  (← (← params.member? "textDocument").member? "text").text?

/-- The whole texts of a change. -/
def changedTexts? (params : Value) : Option (List Text) := do
  let changes ← (← params.member? "contentChanges").items?
  changes.mapM fun change => do (← change.member? "text").text?

/-- The request that a method and its parameters make. -/
def ServerRequest.of (name : Text) (params : Option Value) : ServerRequest :=
  match Method.of? name with
  | none => .unknown name
  | some .start =>
    match Shape.start.parameters? params with
    | some why => .garbledStart why
    | none => .start
  | some .shutDown =>
    match params with
    | some v => .garbledShutDown ("Unexpected params: ".toList ++ v.compact)
    | none => .shutDown
  | some .codeActions =>
    match Shape.codeActions.parameters? params, params.bind documentUri? with
    | none, some uri => .codeActions uri
    | why, _ => .garbled (why.getD [])
  | some .cancel => .misplacedCancel
  | some .otherRequest =>
    if params.isNone then .garbled "Missing params field".toList else .unsupported
  | some _ => .misplaced

/-- The notification that a method and its parameters make, if the server does anything upon it. -/
def Notification.of? (name : Text) (params : Option Value) : Option Notification :=
  let fits (s : Shape) : Option Value := if (s.parameters? params).isNone then params else none
  match Method.of? name with
  | some .ready => (fits .ready).map fun _ => .ready
  | some .exit => some .exit
  | some .opened => do
    let v ← fits .opened
    return .opened (← documentUri? v) (← documentText? v)
  | some .changed => do
    let v ← fits .changed
    return .changed (← documentUri? v) (← changedTexts? v)
  | some .closed => do return .closed (← documentUri? (← fits .closed))
  | _ => none

end Accessors
