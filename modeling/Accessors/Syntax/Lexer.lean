import Accessors.Syntax.Template

/-!
# Scanning PHP

The tokens of a source file. Text outside the tags is one token, blanks and comments are dropped,
and a string with interpolation gives an opening token, its literal parts, the tokens of the code
between them and a closing token.

* `Lexer.scanScript`: the token at the front of a piece of code.
* `Lexer.State.step`: one step of the scanner.
* `tokenize?`: the tokens of a file; none when a string or comment has no end or a character can
  start no token.
-/

namespace Accessors.Syntax.Lexer

/-! ## Modes -/

/-- What is still missing of the statement that ends the program. -/
inductive HaltStage where
  | leftParen
  | rightParen
  | terminator
  /-- Nothing: the rest of the file is data. -/
  | data
  deriving DecidableEq, Repr

/-- What the scanner reads next. -/
inductive Mode where
  | html
  | script
  | quoted (delimiter : Delimiter)
  | heredoc (label : Text)
  | halt (stage : HaltStage)

/-- A piece at the front of a text: its kind, if it is a token, the text behind it and how the
scanner goes on there. -/
structure Piece where
  kind : Option TokenKind
  rest : Text
  mode : Mode

/-! ## Code -/

/-- The symbol at the front of a text. -/
def symbolPiece? (t : Text) : Option Piece :=
  Symbol.table.findSome? fun (spelling, s) =>
    if spelling.isPrefixOf t then some ⟨some (.symbol s), t.drop spelling.length, .script⟩ else none

/-- The word or name at the front of a text. -/
def wordPiece (inString : Bool) (t : Text) : Piece :=
  let (text, rest) := spanName inString t
  if text.contains '\\' then ⟨some .qualified, rest, .script⟩
  else match Keyword.ofSpelling? text with
    | none => ⟨some (.name text), rest, .script⟩
    | some word =>
      let plain : Piece := ⟨some (.keyword word text), rest, .script⟩
      match word with
      | .isPrivate | .isProtected | .isPublic =>
        match afterWord? "(set)".toList rest with
        | some rest => ⟨some .setVisibility, rest, .script⟩
        | none => plain
      | .haltCompiler => { plain with mode := .halt .leftParen }
      | _ => plain

/-- The heredoc at the front of a text, if it starts one. -/
def heredocPiece? (t : Text) : Option Piece := do
  let start ← heredocStart? t
  if start.literal then
    let rest ← skipLiteralBody? start.label true start.rest
    return ⟨some .string, rest, .script⟩
  else return ⟨some .opening, start.rest, .heredoc start.label⟩

/-- The piece at the front of a text inside the tags. The flag tells whether the code stands
inside a string. -/
def scanScript (inString : Bool) : Text → Option Piece
  | [] => none
  | '?' :: '>' :: t => some ⟨some .closeTag, t, .html⟩
  | '#' :: '[' :: t => some ⟨some (.symbol .attribute), t, .script⟩
  | '#' :: t => some ⟨none, skipLine t, .script⟩
  | '/' :: '/' :: t => some ⟨none, skipLine t, .script⟩
  | '/' :: '*' :: t => (skipBlock? t).map (⟨none, ·, .script⟩)
  | '\x27' :: t => (skipSingleQuoted? t).map (⟨some .string, ·, .script⟩)
  | '\x22' :: t =>
    if isLiteral t then (skipDoubleQuoted? t).map (⟨some .string, ·, .script⟩)
    else some ⟨some .opening, t, .quoted .doubleQuote⟩
  | '\x60' :: t => some ⟨some .opening, t, .quoted .backtick⟩
  | '<' :: '<' :: '<' :: t =>
    match heredocStart? t with
    | some _ => heredocPiece? t
    | none => symbolPiece? ('<' :: '<' :: '<' :: t)
  | '(' :: t =>
    match afterCast? t with
    | some rest => some ⟨some .cast, rest, .script⟩
    | none => some ⟨some (.symbol .leftParen), t, .script⟩
  | c :: t =>
    if isSpace c then some ⟨none, t.dropWhile isSpace, .script⟩
    else if isWordStart c || (c = '\\' && startsWord t) then some (wordPiece inString (c :: t))
    else if h : c = '$' ∧ startsWord t = true then
      some ⟨some (.variable (.atFront t h.2)), t.dropWhile isWordChar, .script⟩
    else if c.isDigit || (c = '.' && (t.head?.any Char.isDigit)) then
      some ⟨some .number, skipNumber (c :: t), .script⟩
    else symbolPiece? (c :: t)

/-- The piece at the front of a text behind the word that ends the program. -/
def scanHalt : HaltStage → Text → Option Piece
  | .data, _ => some ⟨some .html, [], .halt .data⟩
  | .leftParen, '(' :: t => some ⟨some (.symbol .leftParen), t, .halt .rightParen⟩
  | .rightParen, ')' :: t => some ⟨some (.symbol .rightParen), t, .halt .terminator⟩
  | .terminator, ';' :: t => some ⟨some (.symbol .semicolon), t, .halt .data⟩
  | .terminator, '?' :: '>' :: t => some ⟨some .closeTag, t, .halt .data⟩
  | stage, c :: t => if isSpace c then some ⟨none, t.dropWhile isSpace, .halt stage⟩ else none
  | _, [] => none

/-! ## Text outside the tags -/

/-- The tag at the front of a text, if there is one. -/
def tagPiece? (t : Text) : Option Piece :=
  match t with
  | '<' :: '?' :: '=' :: rest => some ⟨some .echoTag, rest, .script⟩
  | '<' :: '?' :: rest =>
    match afterWord? "php".toList rest with
    | some rest => some ⟨some .openTag, rest, .script⟩
    | none => some ⟨some .openTag, rest, .script⟩
  | _ => none

/-- What follows text outside the tags. -/
def skipHtml : Text → Text
  | [] => []
  | c :: t =>
    match tagPiece? (c :: t) with
    | some _ => c :: t
    | none => skipHtml t

/-- The piece at the front of a text outside the tags. A line that names an interpreter is text,
whatever it holds. -/
def scanHtml (t : Text) : Piece :=
  match tagPiece? t with
  | some piece => piece
  | none =>
    match t with
    | '#' :: '!' :: _ => ⟨some .html, (t.dropWhile (· ≠ '\n')).drop 1, .html⟩
    | _ => ⟨some .html, skipHtml t, .html⟩

/-! ## The scanner -/

/-- An interpolation that is being read: where it ends and how the string goes on behind it. -/
structure Frame where
  stop : Nat
  resume : Mode

/-- The state of the scanner. The number of characters left is kept, so that it need not be counted
for every token. -/
structure State where
  mode : Mode
  frames : List Frame
  offset : Nat
  rest : Text
  left : Nat
  left_eq : left = rest.length

/-- The state before anything is read. -/
def State.start (source : Text) : State := ⟨.html, [], 0, source, source.length, rfl⟩

/-- Whether the end of the text is not inside a string. -/
def State.isComplete (s : State) : Bool :=
  match s.mode with
  | .html | .script | .halt _ => s.frames.isEmpty
  | _ => false

/-- The piece the scanner reads next; none for an interpolation that starts here. -/
def State.piece? (s : State) : Option (Option Piece) :=
  match s.mode with
  | .html => some (some (scanHtml s.rest))
  | .script => (scanScript (!s.frames.isEmpty) s.rest).map some
  | .halt stage => (scanHalt stage s.rest).map some
  | .quoted delimiter =>
    let rest := skipQuotedPart delimiter false s.rest
    if rest.length < s.left then some (some ⟨some .part, rest, s.mode⟩)
    else match s.rest with
      | c :: t => if c = delimiter.char then some (some ⟨some .closing, t, .script⟩) else some none
      | [] => none
  | .heredoc label =>
    match skipHeredocPart label true false s.rest with
    | .closing rest => some (some ⟨some .closing, rest, .script⟩)
    | .part rest =>
      if rest.length < s.left then some (some ⟨some .part, rest, s.mode⟩) else some none

/-- The offset at which the given number of characters is left. -/
def State.offsetAt (s : State) (left : Nat) : Nat :=
  s.offset + Text.byteLength (s.rest.take (s.left - left))

/-- Enter the interpolation at the front of the text. -/
def State.enter (s : State) : State :=
  let stop := s.offsetAt (skipInterpolation s.rest).length
  { s with mode := .script, frames := ⟨stop, s.mode⟩ :: s.frames }

/-- Leave the innermost interpolation once its end is reached. -/
def State.leave (s : State) : State :=
  match s.mode, s.frames with
  | .script, frame :: frames =>
    if frame.stop ≤ s.offset then { s with mode := frame.resume, frames } else s
  | _, _ => s

/-- Take a piece off the front of the text. -/
def State.take (s : State) (p : Piece) : Option Token × State :=
  let left := p.rest.length
  let offset := s.offsetAt left
  let token := p.kind.map (⟨·, s.offset, offset⟩)
  (token, State.leave ⟨p.mode, s.frames, offset, p.rest, left, rfl⟩)

/-- One step of the scanner. -/
def State.step (s : State) : Option (Option Token × State) :=
  s.piece?.map fun
    | some piece => s.take piece
    | none => (none, s.enter)

/-- The tokens read in at most the given number of steps. -/
def scan : Nat → State → Option (List Token)
  | 0, _ => none
  | fuel + 1, s =>
    if s.rest.isEmpty then if s.isComplete then some [] else none
    else do
      let (token, next) ← s.step
      let tokens ← scan fuel next
      return token.toList ++ tokens

end Lexer

/-- The tokens of a source file. Every step takes a character or enters an interpolation, and no
interpolation is entered twice in a row, so twice the length of the text bounds the steps. -/
def tokenize? (source : Text) : Option (List Token) :=
  Lexer.scan (2 * source.length + 2) (Lexer.State.start source)

end Accessors.Syntax
