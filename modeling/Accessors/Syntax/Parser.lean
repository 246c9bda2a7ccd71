import Accessors.Syntax.Token
import Accessors.Syntax.Tree

/-!
# Parsers on tokens

A parser takes tokens off the front of a list, and it collects the statements that it meets inside
expressions. There is one kind of failure: any syntax error refuses the whole file.

* `Parser.collect`: run a parser and hand over the statements it met.
* `Parser.manyUntil`, `Parser.itemsUntil`, `Parser.commaList`, `Parser.separated`,
  `Parser.repeatWhile`: repetition, bounded by the number of tokens left.
-/

namespace Accessors.Syntax

/-- The tokens left and the statements met inside expressions. -/
structure ParserState where
  tokens : List Token
  nested : List Statement

/-- A parser: it fails, or it gives a result and the state behind what it took. -/
abbrev Parser (α : Type) := StateT ParserState Option α

namespace Parser

/-! ## Single tokens -/

/-- The parser that always fails. -/
def fail {α : Type} : Parser α := fun _ => none

/-- The tokens left. -/
def tokens : Parser (List Token) := return (← get).tokens

/-- The kind of the next token. -/
def peek? : Parser (Option TokenKind) := return (← tokens).head?.map (·.kind)

/-- The kind of the token some places ahead. -/
def peekAt? (n : Nat) : Parser (Option TokenKind) := return (← tokens)[n]?.map (·.kind)

/-- Take the next token. -/
def next : Parser Token := do
  match ← tokens with
  | [] => fail
  | t :: rest =>
    modify fun s => { s with tokens := rest }
    return t

/-- Take the next token if it is of a kind. -/
def accept (kind : TokenKind) : Parser Bool := do
  if (← peek?) = some kind then
    let _ ← next
    return true
  else return false

/-- Take the next token, which must be the given symbol. -/
def symbol (s : Symbol) : Parser Token := do
  let t ← next
  if t.kind = .symbol s then return t else fail

/-- Take the next token if it is the given symbol. -/
def acceptSymbol (s : Symbol) : Parser Bool := accept (.symbol s)

/-- Whether the next token is the given reserved word. -/
def atKeyword (k : Keyword) : Parser Bool := do
  match ← peek? with
  | some (.keyword word _) => return decide (word = k)
  | _ => return false

/-- Take the next token if it is the given reserved word. -/
def acceptKeyword (k : Keyword) : Parser Bool := do
  if ← atKeyword k then
    let _ ← next
    return true
  else return false

/-- Take the next token, which must be the given reserved word. -/
def keyword (k : Keyword) : Parser Unit := do
  if ← acceptKeyword k then return () else fail

/-- Take a word, reserved or not. -/
def word : Parser Text := do
  match (← next).kind with
  | .name text | .keyword _ text => return text
  | _ => fail

/-- Whether a token is a word, reserved or not. -/
def isWord : Option TokenKind → Bool
  | some (.name _) | some (.keyword _ _) => true
  | _ => false

/-- Take the name of a class, function or namespace; a reserved word is a name where nothing else
can stand. -/
def name : Parser Unit := do
  match (← next).kind with
  | .name _ | .keyword _ _ | .qualified => return ()
  | _ => fail

/-- Take a variable. -/
def variableName : Parser Variable := do
  match (← next).kind with
  | .variable v => return v
  | _ => fail

/-- Whether a token ends a statement. -/
def isTerminator : Option TokenKind → Bool
  | some (.symbol .semicolon) | some .closeTag => true
  | _ => false

/-- Take the end of a statement: a semicolon, or a closing tag with the opening tag directly behind
it. -/
def terminator : Parser Unit := do
  match (← next).kind with
  | .symbol .semicolon => return ()
  | .closeTag =>
    let _ ← accept .openTag
  | _ => fail

/-! ## Nested statements -/

/-- Record statements met inside an expression. -/
def emit (statements : List Statement) : Parser Unit :=
  modify fun s => { s with nested := s.nested ++ statements }

/-- Run a parser and hand over the statements it met. -/
def collect {α : Type} (p : Parser α) : Parser (α × List Statement) := do
  let outer := (← get).nested
  modify fun s => { s with nested := [] }
  let a ← p
  let inner := (← get).nested
  modify fun s => { s with nested := outer }
  return (a, inner)

/-! ## Repetition -/

/-- Repeat a parser as long as the next token does not stop it, at most `fuel` times. -/
def manyUntilWithin {α : Type} (stop : Option TokenKind → Bool) (p : Parser α) :
    Nat → Parser (List α)
  | 0 => fail
  | fuel + 1 => do
    if stop (← peek?) then return []
    else
      let a ← p
      let rest ← manyUntilWithin stop p fuel
      return a :: rest

/-- Repeat a parser that takes tokens as long as the next token does not stop it. -/
def manyUntil {α : Type} (stop : Option TokenKind → Bool) (p : Parser α) : Parser (List α) := do
  manyUntilWithin stop p ((← tokens).length + 1)

/-- Items with commas between them in front of a token that stops them, at most `fuel` of them. -/
def itemsUntilWithin (stop : Option TokenKind → Bool) (item : Parser Unit) : Nat → Parser Unit
  | 0 => fail
  | fuel + 1 => do
    if stop (← peek?) then return ()
    else
      item
      if ← acceptSymbol .comma then itemsUntilWithin stop item fuel else return ()

/-- Items with commas between them, and perhaps one behind the last, in front of a token that stops
them. There may be no item at all. -/
def itemsUntil (stop : Option TokenKind → Bool) (item : Parser Unit) : Parser Unit := do
  itemsUntilWithin stop item ((← tokens).length + 1)

/-- Items with commas between them, and perhaps one behind the last, up to a closing symbol. -/
def commaList (close : Symbol) (item : Parser Unit) : Parser Unit := do
  itemsUntil (· = some (.symbol close)) item
  let _ ← symbol close

/-- Items with commas between them, and perhaps one behind the last, up to the end of the
statement. -/
def terminatedList (item : Parser Unit) : Parser Unit := do
  itemsUntil isTerminator item
  terminator

/-- Repeat a parser while it says that it took something, at most `fuel` times. -/
def repeatWhileWithin (p : Parser Bool) : Nat → Parser Unit
  | 0 => fail
  | fuel + 1 => do
    if ← p then repeatWhileWithin p fuel else return ()

/-- Repeat a parser while it says that it took something. -/
def repeatWhile (p : Parser Bool) : Parser Unit := do
  repeatWhileWithin p ((← tokens).length + 1)

/-- One or more items with commas between them. -/
def separated (item : Parser Unit) : Parser Unit := do
  item
  repeatWhile do
    if ← acceptSymbol .comma then
      item
      return true
    else return false

end Parser

end Accessors.Syntax
