import Accessors.Json.Printer
import Accessors.Server.Message
import Accessors.Text.Number

/-!
# Transport

The stream of messages between an editor and the server. A message is a header, which gives its
length in bytes, and a JSON text. The messages that arrive together are all received before any of
them is answered.

* `Transport.take`: the first message of a stream.
* `Batch.run`: the messages that arrive together.
* `Connection.feed`, `Connection.finish`: what the server writes upon bytes that arrive, and upon
  the end of the stream.
* `Transport.serve`: everything the server writes upon a stream that arrives at once.
-/

namespace Accessors

open Json (Value)

namespace Transport

/-! ## Headers -/

/-- A text with the header that gives its length. -/
def frame (body : Text) : Text :=
  "Content-Length: ".toList ++ Text.ofNat (Text.byteLength body) ++ "\r\n\r\n".toList ++ body

/-- Whether a byte can stand in the name of a line of a header. -/
def isNameByte (b : UInt8) : Bool :=
  let c := Char.ofNat b.toNat
  c.isAlphanum || "!#$%&*+-.^_|~\x27\x60".toList.contains c

/-- Whether a byte can stand in the value of a line of a header. -/
def isValueByte (b : UInt8) : Bool := b = 9 || (32 ≤ b && b ≠ 127)

/-- What the reading of a part of a stream comes to. -/
inductive Read (α : Type) where
  | done (a : α) (rest : List UInt8)
  /-- More has to arrive. -/
  | waiting
  /-- Whatever arrives, it makes no sense. -/
  | broken

/-- Take a line break off the front. -/
def lineBreak : List UInt8 → Read Unit
  | 10 :: rest => .done () rest
  | 13 :: 10 :: rest => .done () rest
  | [] | [13] => .waiting
  | _ => .broken

/-- A value without the blanks around it. -/
def trimmed (value : List UInt8) : List UInt8 :=
  let isBlank (b : UInt8) : Bool := b = 32 || b = 9
  ((value.dropWhile isBlank).reverse.dropWhile isBlank).reverse

/-- A line of a header: its name and its value. -/
def headerLine (bytes : List UInt8) : Read (List UInt8 × List UInt8) :=
  let name := bytes.takeWhile isNameByte
  match bytes.dropWhile isNameByte with
  | [] => .waiting
  | 58 :: rest =>
    if name.isEmpty then .broken
    else match lineBreak (rest.dropWhile isValueByte) with
      | .done _ behind => .done (name, trimmed (rest.takeWhile isValueByte)) behind
      | .waiting => .waiting
      | .broken => .broken
  | _ => .broken

/-- The lines of a header, at most `limit` of them, with the empty line behind them. -/
def header : Nat → List UInt8 → Read (List (List UInt8 × List UInt8))
  | limit, bytes =>
    match lineBreak bytes with
    | .done _ rest => .done [] rest
    | .waiting => .waiting
    | .broken =>
      match limit with
      | 0 => .broken
      | limit + 1 =>
        match headerLine bytes with
        | .done line rest =>
          match header limit rest with
          | .done lines rest => .done (line :: lines) rest
          | .waiting => .waiting
          | .broken => .broken
        | .waiting => .waiting
        | .broken => .broken

/-- Whether the type of the contents names the encoding that messages have. -/
def isUtf8Type (value : Text) : Bool :=
  let parameters := ((Text.splitOn ';' value).drop 1).map Text.trim
  let mark := "charset=".toList
  match parameters.find? (mark.isPrefixOf ·) with
  | some p => p.drop mark.length = "utf-8".toList || p.drop mark.length = "utf8".toList
  | none => false

/-- The length that the lines of a header give, after one that is known; none when a line makes no
sense. -/
def lengthFrom (known : Option Nat) : List (List UInt8 × List UInt8) → Option (Option Nat)
  | [] => some known
  | (name, value) :: lines =>
    if name = Text.toUtf8 "Content-Length".toList then do
      lengthFrom (some (← (Text.ofUtf8? value).bind Text.word64?)) lines
    else if name = Text.toUtf8 "Content-Type".toList then do
      if isUtf8Type (← Text.ofUtf8? value) then lengthFrom known lines else none
    else lengthFrom known lines

/-- How many lines a header has at most. -/
def headerLimit : Nat := 2

/-! ## Bodies -/

/-- What stands at the front of a stream. -/
inductive Front where
  | message (body rest : List UInt8)
  /-- No message is complete. The length is that of a message whose header is taken. -/
  | waiting (length : Option Nat) (rest : List UInt8)
  | broken

/-- The message at the front of a stream, its header already taken. A message without contents is
passed over. -/
def takeBody (length : Nat) (bytes : List UInt8) : Front :=
  if bytes.length < length then .waiting (some length) bytes
  else if length = 0 then .waiting none bytes
  else .message (bytes.take length) (bytes.drop length)

/-- The message at the front of a stream. -/
def take (length : Option Nat) (bytes : List UInt8) : Front :=
  match length with
  | some n => takeBody n bytes
  | none =>
    match header headerLimit bytes with
    | .waiting => .waiting none bytes
    | .broken => .broken
    | .done lines rest =>
      match lengthFrom none lines with
      | some (some n) => takeBody n rest
      | _ => .broken

end Transport

/-! ## Messages that arrive together -/

/-- An answer that is still to be given. -/
structure PendingAnswer where
  id : Value
  reply : Reply
  /-- What is sent in front of it. -/
  notices : List Notice
  /-- Whether it can be called off until it is given. -/
  cancellable : Bool

/-- The messages that arrived together, as far as they are received. -/
structure Batch where
  session : Session
  length : Option Nat
  bytes : List UInt8
  /-- In the order of the requests. -/
  answers : List PendingAnswer
  /-- What the server sends besides. -/
  notices : List Notice
  /-- Why the stream makes no sense. -/
  failure : Option Refusal
  isOpen : Bool

namespace Batch

/-- Whether a session works on a request, and does not refuse it at once. -/
def worksOn (phase : Phase) : ServerRequest → Bool
  | .start | .garbledStart _ => phase = .waiting
  | .unknown _ | .misplacedCancel => false
  | _ => phase = .running

/-- Whether two identifiers are the same. -/
def sameId : Value → Value → Bool
  | .integer i, .integer j => i = j
  | .string s, .string t => s = t
  | .null, .null => true
  | _, _ => false

/-- Call off the answers of a kind. -/
def callOff (b : Batch) (p : PendingAnswer → Bool) : Batch :=
  let hit (a : PendingAnswer) : Bool := a.cancellable && p a
  let startFails := b.answers.any fun a => hit a && a.reply = .capabilities
  { b with
    answers := b.answers.map fun a =>
      if hit a then { a with reply := .refused .cancelled, cancellable := false } else a
    session := if startFails then { b.session with phase := .starting false } else b.session }

/-- Receive a message. -/
def receive (settings : ServerSettings) (b : Batch) : Message → Batch
  | .request id r =>
    let works := worksOn b.session.phase r
    let (session, reply, notices) := b.session.receive settings r
    let answer : PendingAnswer :=
      if works && b.answers.any fun a => a.cancellable && sameId a.id id then
        ⟨id, .refused .invalid, [], false⟩
      else ⟨id, reply, notices, works⟩
    { b with session, answers := b.answers ++ [answer] }
  | .notification .exit =>
    let b := b.callOff fun _ => true
    { b with session := (b.session.notify .exit).1, isOpen := false }
  | .notification n =>
    let (session, notices) := b.session.notify n
    { b with session, notices := b.notices ++ notices }
  | .cancel id => b.callOff fun a => sameId a.id id
  | .ignored => b

/-- The stream makes no sense from here on. -/
def fail (b : Batch) (why : Refusal) : Batch := { b with failure := some why, isOpen := false }

/-- Receive at most `fuel` messages. At the end of the stream nothing may be left over. -/
def run (settings : ServerSettings) (atEnd : Bool) : Nat → Batch → Batch
  | 0, b => b
  | fuel + 1, b =>
    match Transport.take b.length b.bytes with
    | .broken => b.fail .unreadable
    | .waiting length rest =>
      let b := { b with length, bytes := rest }
      if atEnd && !rest.isEmpty then b.fail .unreadable else b
    | .message body rest =>
      let b := { b with length := none, bytes := rest }
      match Message.decode body with
      | .error why => b.fail why
      | .ok m =>
        let b := b.receive settings m
        if b.isOpen then run settings atEnd fuel b else b

/-- What the server writes: first that the stream makes no sense, then the answers. -/
def values (b : Batch) : List Value :=
  (b.failure.map fun why => Message.reply .null (.refused why)).toList ++
    b.notices.map Message.notice ++
    b.answers.flatMap fun a => a.notices.map Message.notice ++ [Message.reply a.id a.reply]

/-- What the server writes, as text. -/
def written (b : Batch) : Text := b.values.flatMap fun v => Transport.frame v.compact

end Batch

/-! ## Connections -/

/-- A connection to an editor between two arrivals of bytes. -/
structure Connection where
  session : Session
  /-- The length of the message whose header is taken. -/
  length : Option Nat
  /-- The bytes that are not used up. -/
  bytes : List UInt8
  isOpen : Bool

namespace Connection

/-- The connection before anything arrives. -/
def initial : Connection := ⟨.initial, none, [], true⟩

/-- The connection after bytes have arrived, or the end of the stream, and what the server writes
upon it. -/
def advance (settings : ServerSettings) (c : Connection) (arrived : List UInt8) (atEnd : Bool) :
    Connection × Text :=
  if c.isOpen then
    let bytes := c.bytes ++ arrived
    let b := Batch.run settings atEnd (bytes.length + 1)
      ⟨c.session, c.length, bytes, [], [], none, true⟩
    (⟨b.session.settle, b.length, b.bytes, b.isOpen⟩, b.written)
  else (c, [])

/-- The connection after bytes have arrived, and what the server writes upon them. -/
def feed (settings : ServerSettings) (c : Connection) (arrived : List UInt8) :
    Connection × Text :=
  c.advance settings arrived false

/-- What the server writes at the end of the stream. -/
def finish (settings : ServerSettings) (c : Connection) : Text :=
  (c.advance settings [] true).2

end Connection

/-- Everything the server writes upon a stream that arrives at once. -/
def Transport.serve (settings : ServerSettings) (bytes : List UInt8) : Text :=
  let (c, out) := Connection.initial.feed settings bytes
  out ++ c.finish settings

end Accessors
