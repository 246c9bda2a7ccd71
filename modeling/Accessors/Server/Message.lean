import Accessors.CommandLine.Help
import Accessors.Json.Reader
import Accessors.Server.Method

/-!
# Messages of the server

The messages between an editor and the server as JSON.

* `Message.ofJson?`: what a message from the editor says.
* `Message.decode`: the same for the bytes of a message.
* `Reply.result`, `Notice.params`: the parts of the messages to the editor.
* `Message.reply`, `Message.notice`: those messages in their envelopes.
-/

namespace Accessors

open Json (Value)

/-- A message from the editor. -/
inductive Message where
  | request (id : Value) (r : ServerRequest)
  | notification (n : Notification)
  /-- The request with an identifier is no longer of interest. -/
  | cancel (id : Value)
  /-- An answer, or a message that nothing is known of and that asks for none. -/
  | ignored

/-! ## From the editor -/

namespace Message

/-- The value that identifies a request: an integer of 64 bits, a text or null. -/
def isId : Value → Bool
  | .integer i => -0x8000000000000000 ≤ i && i < 0x8000000000000000
  | .string _ | .null => true
  | _ => false

/-- Whether a value is the version of the envelope. -/
def isVersion (v : Value) : Bool := v.text? = some "2.0".toList

/-- Whether a value is the error in an answer. -/
def isError (v : Value) : Bool :=
  match v.membersNamed "code", v.membersNamed "message" with
  | [.integer _], [.string _] => true
  | _, _ => false

/-- Whether an object is an answer. -/
def isAnswer (v : Value) : Bool :=
  match v.membersNamed "jsonrpc", v.membersNamed "id" with
  | [version], [id] =>
    isVersion version && isId id &&
      ((v.membersNamed "result").length = 1 ||
        match v.membersNamed "error" with
        | [e] => isError e
        | _ => false)
  | _, _ => false

/-- The message of a method with its parameters; one that is identified asks for an answer. -/
def ofCall (method : Text) (params id : Option Value) : Message :=
  match Method.of? method, id with
  | some .exit, _ => .notification .exit
  | some .cancel, none =>
    match params.bind (·.member? "id") with
    | some id => .cancel id
    | none => .ignored
  | none, some id =>
    if "$/".toList.isPrefixOf method then .ignored else .request id (.unknown method)
  | _, some id => .request id (.of method params)
  | _, none =>
    match Notification.of? method params with
    | some n => .notification n
    | none => .ignored

/-- The message of the fields of a request, each at most one value. A message without a method has
the empty one. -/
def ofFields? (version : Value) (method params id : Option Value) : Option Message :=
  if isVersion version && id.all isId then
    match method with
    | none => some (ofCall [] params id)
    | some (.string name) => some (ofCall name params id)
    | some _ => none
  else none

/-- The only value of a list, if there is one at all; none when there are several. -/
def atMostOne? : List Value → Option (Option Value)
  | [] => some none
  | [v] => some (some v)
  | _ => none

/-- What a message from the editor says. The fields of a request may be given as a list. -/
def ofJson? (v : Value) : Option Message :=
  if isAnswer v then some .ignored
  else match v with
    | .object _ =>
      match v.membersNamed "jsonrpc" with
      | [version] => do
        ofFields? version (← atMostOne? (v.membersNamed "method"))
          (← atMostOne? (v.membersNamed "params")) (← atMostOne? (v.membersNamed "id"))
      | _ => none
    | .array (version :: fields) =>
      if fields.length ≤ 3 then ofFields? version fields[0]? fields[1]? fields[2]? else none
    | _ => none

/-- What the bytes of a message say. -/
def decode (body : List UInt8) : Except Refusal Message :=
  match (Text.ofUtf8? body).bind Json.takeValue? with
  | none => .error .unreadable
  | some (v, rest) =>
    match ofJson? v with
    | none => .error .invalid
    | some m => if rest.isEmpty then .ok m else .error .unreadable

end Message

/-! ## To the editor -/

/-- A position. -/
def Position.json (p : Position) : Value :=
  .record [("line", .natural p.line), ("character", .natural p.column)]

/-- A replacement in a document. -/
def TextEdit.json (e : TextEdit) : Value :=
  .record
    [("range", .record [("start", e.range.start.json), ("end", e.range.stop.json)]),
     ("newText", .string e.newText)]

/-- A code action on a document. -/
def CodeAction.json (uri : Uri) (a : CodeAction) : Value :=
  .record
    [("title", .string a.action.description), ("kind", .literal "refactor"),
     ("edit", .record
       [("changes", .object [(uri.text, .array (a.edits.map TextEdit.json))])])]

/-- What the server can do: it is sent whole texts, and it has code actions. -/
def serverCapabilities : Value :=
  .record
    [("capabilities", .record
       [("textDocumentSync", .natural 1), ("codeActionProvider", .boolean true)]),
     ("serverInfo", .record
       [("name", .string CommandLine.programName), ("version", .string CommandLine.version)])]

/-- The result of an answer, or why there is none. -/
def Reply.result : Reply → Except Refusal Value
  | .capabilities => .ok serverCapabilities
  | .codeActions uri actions => .ok (.array (actions.map (CodeAction.json uri)))
  | .nothing => .ok .null
  | .refused why => .error why

namespace Notice

/-- The method of a notice. -/
def method : Notice → Text
  | .log _ => "window/logMessage".toList
  | .error _ => "window/showMessage".toList

/-- The parameters of a notice: its importance and its text. -/
def params : Notice → Value
  | .log text => .record [("type", .natural 3), ("message", .string text)]
  | .error text => .record [("type", .natural 1), ("message", .string text)]

end Notice

namespace Message

/-- The version of the envelope. -/
def version : String × Value := ("jsonrpc", .literal "2.0")

/-- The answer to a request. -/
def reply (id : Value) (a : Reply) : Value :=
  match a.result with
  | .ok result => .record [version, ("result", result), ("id", id)]
  | .error why =>
    let detail := why.detail.map fun t => ("data", Value.string t)
    .record
      [version,
       ("error", .record
         ([("code", .integer why.code), ("message", .string why.message)] ++ detail.toList)),
       ("id", id)]

/-- A message that the server sends of its own accord. -/
def notice (n : Notice) : Value :=
  .record [version, ("method", .string n.method), ("params", n.params)]

end Message

end Accessors
