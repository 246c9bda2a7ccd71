import Accessors.Server.CodeAction

/-!
# Server sessions

The server that offers code actions to an editor, as a state that messages change. It keeps the
texts of the open PHP documents. Requests are answered only between the first request and the
request to shut down.

* `DocumentStore`: the texts of the open documents.
* `Session.notify`: what a notification changes.
* `Session.receive`, `Session.request`: what a request changes, and its answer.
-/

namespace Accessors

/-! ## Documents -/

/-- The open documents with their texts. -/
structure DocumentStore where
  entries : List (Uri × Text)
  deriving DecidableEq, Repr

namespace DocumentStore

/-- The store without documents. -/
def empty : DocumentStore := ⟨[]⟩

/-- The text of a document. -/
def get? (s : DocumentStore) (u : Uri) : Option Text := s.entries.lookup u

/-- The store without a document. -/
def erase (s : DocumentStore) (u : Uri) : DocumentStore :=
  ⟨s.entries.filter fun e => decide (e.1 ≠ u)⟩

/-- The store with a text for a document. -/
def insert (s : DocumentStore) (u : Uri) (text : Text) : DocumentStore :=
  ⟨(u, text) :: (s.erase u).entries⟩

end DocumentStore

/-- Whether an identifier names a PHP document. -/
def Uri.isPhp (u : Uri) : Bool := Text.endsWith u.path ".php".toList

/-! ## Messages -/

/-- Messages from the editor that have no answer. -/
inductive Notification where
  /-- The editor has seen the answer to its first request. -/
  | ready
  | opened (uri : Uri) (text : Text)
  /-- The texts are whole texts of the document. -/
  | changed (uri : Uri) (texts : List Text)
  | closed (uri : Uri)
  | exit
  deriving DecidableEq, Repr

/-- Messages from the editor that have an answer. -/
inductive ServerRequest where
  /-- The first request. -/
  | start
  /-- The first request with parameters that make no sense, and what is wrong with them. -/
  | garbledStart (why : Text)
  | codeActions (uri : Uri)
  | shutDown
  /-- A request to shut down with parameters, which it cannot have. -/
  | garbledShutDown (why : Text)
  /-- A request with parameters that make no sense, and what is wrong with them. -/
  | garbled (why : Text)
  /-- A request that this server has no answer to. -/
  | unsupported
  /-- A request that nothing is known of. -/
  | unknown (method : Text)
  /-- A notification that asks for an answer. -/
  | misplaced
  /-- The same for the notification that cancels a request. -/
  | misplacedCancel
  deriving DecidableEq, Repr

/-- Why a request is refused. -/
inductive Refusal where
  | notStarted
  | invalid
  /-- The method, if nothing is known of it. -/
  | unknownMethod (method : Option Text)
  | garbledParameters (why : Text)
  | unreadable
  | cancelled
  deriving DecidableEq, Repr

namespace Refusal

/-- The number of a refusal. -/
def code : Refusal → Int
  | .notStarted => -32002
  | .invalid => -32600
  | .unknownMethod _ => -32601
  | .garbledParameters _ => -32602
  | .unreadable => -32700
  | .cancelled => -32800

/-- The text of a refusal. -/
def message : Refusal → Text
  | .notStarted => "Server not initialized".toList
  | .invalid => "Invalid request".toList
  | .unknownMethod _ => "Method not found".toList
  | .garbledParameters why => why
  | .unreadable => "Parse error".toList
  | .cancelled => "Canceled".toList

/-- What a refusal tells beyond its text. -/
def detail : Refusal → Option Text
  | .unknownMethod method => method
  | _ => none

end Refusal

/-- The answer to a request. -/
inductive Reply where
  /-- What the server can do. -/
  | capabilities
  | codeActions (uri : Uri) (actions : List CodeAction)
  | nothing
  | refused (why : Refusal)
  deriving DecidableEq, Repr

/-- Messages that the server sends of its own accord. -/
inductive Notice where
  /-- A line of the log. -/
  | log (text : Text)
  /-- An error to show. -/
  | error (text : Text)
  deriving DecidableEq, Repr

/-! ## Sessions -/

/-- How far a session is. -/
inductive Phase where
  | waiting
  /-- The first request is being answered; the flag tells whether the answer will be a success. -/
  | starting (succeeds : Bool)
  | running
  | shutDown
  | exited
  deriving DecidableEq, Repr

/-- A session: how far it is, and the open documents. -/
structure Session where
  phase : Phase
  documents : DocumentStore
  deriving DecidableEq, Repr

/-- What a notification changes in the store. Only PHP documents are kept. Of the texts of one
change the first is taken. -/
def DocumentStore.notify (s : DocumentStore) : Notification → DocumentStore
  | .opened uri text => if uri.isPhp then s.insert uri text else s
  | .changed uri texts =>
    match texts with
    | text :: _ => if uri.isPhp then s.insert uri text else s
    | [] => s
  | .closed uri => s.erase uri
  | .ready | .exit => s

namespace Session

/-- The session before any message. -/
def initial : Session := ⟨.waiting, .empty⟩

/-- What a notification changes, and what the server sends upon it. Outside a running session all
but the last notification mean nothing. -/
def notify (s : Session) (n : Notification) : Session × List Notice :=
  match n, s.phase with
  | .exit, _ => ({ s with phase := .exited }, [])
  | .ready, .running => (s, [.log "phpaccess LSP server initialized".toList])
  | n, .running => ({ s with documents := s.documents.notify n }, [])
  | _, _ => (s, [])

/-- The code actions for a document. -/
def codeActions (settings : ServerSettings) (s : Session) (uri : Uri) : Reply × List Notice :=
  if !uri.isPhp then (.nothing, [])
  else match s.documents.get? uri with
    | none => (.nothing, [.error (Failure.message .noActiveDocument)])
    | some text =>
      match CodeAction.all settings text with
      | [] => (.nothing, [])
      | actions => (.codeActions uri actions, [])

/-- What becomes of a session once its answers are given. -/
def settle (s : Session) : Session :=
  match s.phase with
  | .starting true => { s with phase := .running }
  | .starting false => { s with phase := .waiting }
  | _ => s

/-- Why a request is refused outside a running session. -/
def outside : Phase → Refusal
  | .waiting | .starting _ => .notStarted
  | _ => .invalid

/-- A request while the session runs. -/
def requestRunning (settings : ServerSettings) (s : Session) :
    ServerRequest → Session × Reply × List Notice
  | .codeActions uri =>
    let (answer, notices) := codeActions settings s uri
    (s, answer, notices)
  | .shutDown => ({ s with phase := .shutDown }, .nothing, [])
  | .garbledShutDown why => ({ s with phase := .shutDown }, .refused (.garbledParameters why), [])
  | .garbled why => (s, .refused (.garbledParameters why), [])
  | .unsupported => (s, .refused (.unknownMethod none), [])
  | .unknown method => (s, .refused (.unknownMethod (some method)), [])
  | .start | .garbledStart _ | .misplaced | .misplacedCancel => (s, .refused .invalid, [])

/-- What receiving a request changes, its answer, and what the server sends before it. A session
that is starting runs once the answer is given. -/
def receive (settings : ServerSettings) (s : Session) (r : ServerRequest) :
    Session × Reply × List Notice :=
  match r, s.phase with
  | .unknown method, _ => (s, .refused (.unknownMethod (some method)), [])
  | .misplacedCancel, _ => (s, .refused .invalid, [])
  | .start, .waiting => ({ s with phase := .starting true }, .capabilities, [])
  | .garbledStart why, .waiting =>
    ({ s with phase := .starting false }, .refused (.garbledParameters why), [])
  | .start, _ | .garbledStart _, _ => (s, .refused .invalid, [])
  | r, .running => requestRunning settings s r
  | _, phase => (s, .refused (outside phase), [])

/-- What a request changes, its answer, and what the server sends before it. -/
def request (settings : ServerSettings) (s : Session) (r : ServerRequest) :
    Session × Reply × List Notice :=
  let (s, reply, notices) := s.receive settings r
  (s.settle, reply, notices)

end Session

end Accessors
