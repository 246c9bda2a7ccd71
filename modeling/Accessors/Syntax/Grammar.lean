import Accessors.Syntax.Parser

/-!
# Grammar: types, arguments and parameters

The rules of the grammar refer to each other. A `Grammar` bundles the parsers of the rules that
recur; each rule is written as a function of such a bundle, which stands for the rules one level of
nesting below.

* `Grammar.hintRule`: types.
* `Grammar.arguments`, `Grammar.parameters`, `Grammar.attributes`: lists in parentheses and
  brackets.
* `Grammar.hooks`: the hooks of a property.
-/

namespace Accessors.Syntax

/-- The parsers of the rules that recur. -/
structure Grammar where
  /-- A type; the result is the offset at which it ends. -/
  hint : Parser Nat
  expression : Parser Unit
  statement : Parser Statement

namespace Grammar

open Accessors.Syntax.Parser

/-! ## Types -/

/-- Whether a reserved word is a type. -/
def isTypeKeyword : Keyword → Bool
  | .array | .callable | .static | .enum | .from => true
  | _ => false

/-- A type that is not a union or an intersection. -/
def simpleHint (g : Grammar) : Parser Nat := do
  let t ← next
  match t.kind with
  | .symbol .question => g.hint
  | .symbol .leftParen =>
    let _ ← g.hint
    return (← symbol .rightParen).stop
  | .name _ | .qualified => return t.stop
  | .keyword k _ => if isTypeKeyword k then return t.stop else fail
  | _ => fail

/-- A type. An ampersand in front of a variable marks a reference and is not part of the type. -/
def hintRule (g : Grammar) : Parser Nat := do
  let stop ← simpleHint g
  match ← peek? with
  | some (.symbol .pipe) =>
    let _ ← next
    g.hint
  | some (.symbol .ampersand) =>
    match ← peekAt? 1 with
    | some (.variable _) | some (.symbol .ellipsis) | some (.symbol .ampersand) => return stop
    | _ =>
      let _ ← next
      g.hint
  | _ => return stop

/-- The type behind a colon, if there is one. -/
def returnType (g : Grammar) : Parser Unit := do
  if ← acceptSymbol .colon then
    let _ ← g.hint
    return ()
  else return ()

/-! ## Arguments and attributes -/

/-- The name in front of an argument, if it has one. -/
def argumentName : Parser Unit := do
  if isWord (← peek?) && (← peekAt? 1) = some (.symbol .colon) then
    let _ ← next
    let _ ← next

/-- One argument: spread, named or plain. -/
def argument (g : Grammar) : Parser Unit := do
  if ← acceptSymbol .ellipsis then g.expression
  else
    argumentName
    g.expression

/-- The arguments of what is created or ended, the opening parenthesis already taken. -/
def arguments (g : Grammar) : Parser Unit := commaList .rightParen (argument g)

/-- Whether a token ends an argument. -/
def endsArgument : Option TokenKind → Bool
  | some (.symbol s) => s = .comma || s = .rightParen
  | _ => false

/-- One argument of a call. A question mark, perhaps with a name, or an ellipsis alone leaves
arguments open, so that the call gives a function. -/
def callArgument (g : Grammar) : Parser Unit := do
  if ← acceptSymbol .ellipsis then
    if endsArgument (← peek?) then return () else g.expression
  else
    argumentName
    if ← acceptSymbol .question then return () else g.expression

/-- The arguments of a call, the opening parenthesis already taken. -/
def callArguments (g : Grammar) : Parser Unit := commaList .rightParen (callArgument g)

/-- The arguments of what is created or ended, if there are any. -/
def optionalArguments (g : Grammar) : Parser Unit := do
  if ← acceptSymbol .leftParen then arguments g else return ()

/-- Any number of attribute groups. -/
def attributes (g : Grammar) : Parser Unit :=
  repeatWhile do
    if ← acceptSymbol .attribute then
      commaList .rightBracket do
        name
        optionalArguments g
      return true
    else return false

/-! ## Modifiers -/

/-- The modifier a token stands for. -/
def modifier? : TokenKind → Option Modifier
  | .keyword .isPublic _ => some .isPublic
  | .keyword .isProtected _ => some .isProtected
  | .keyword .isPrivate _ => some .isPrivate
  | .keyword .static _ | .keyword .final _ | .keyword .abstract _ | .keyword .readonly _
  | .setVisibility => some .other
  | _ => none

/-- Any number of modifiers. -/
def modifiers : Parser (List Modifier) := do
  manyUntil (fun kind => (kind.bind modifier?).isNone) do
    match modifier? (← next).kind with
    | some m => return m
    | none => fail

/-! ## Parameters, bodies and hooks -/

/-- A list of statements in braces. -/
def block (g : Grammar) : Parser (List Statement) := do
  let _ ← symbol .leftBrace
  let body ← manyUntil (· = some (.symbol .rightBrace)) g.statement
  let _ ← symbol .rightBrace
  return body

/-- A value behind an equals sign, if there is one. -/
def optionalValue (g : Grammar) : Parser Unit := do
  if ← acceptSymbol .assign then g.expression else return ()

/-- One parameter, without hooks. -/
def plainParameter (g : Grammar) : Parser Unit := do
  attributes g
  let _ ← modifiers
  match ← peek? with
  | some (.variable _) | some (.symbol .ellipsis) | some (.symbol .ampersand) => pure ()
  | _ =>
    let _ ← g.hint
  let _ ← acceptSymbol .ampersand
  let _ ← acceptSymbol .ellipsis
  let _ ← variableName
  optionalValue g

/-- One hook of a property. -/
def hook (g : Grammar) : Parser Unit := do
  attributes g
  let _ ← acceptSymbol .ampersand
  let _ ← modifiers
  let _ ← word
  if ← acceptSymbol .leftParen then commaList .rightParen (plainParameter g)
  if ← acceptSymbol .semicolon then return ()
  else if ← acceptSymbol .doubleArrow then
    g.expression
    let _ ← symbol .semicolon
    return ()
  else emit (← block g)

/-- The hooks of a property, the opening brace already taken. -/
def hooks (g : Grammar) : Parser Unit := do
  let _ ← manyUntil (· = some (.symbol .rightBrace)) (hook g)
  let _ ← symbol .rightBrace
  return ()

/-- One parameter. -/
def parameter (g : Grammar) : Parser Unit := do
  plainParameter g
  if ← acceptSymbol .leftBrace then hooks g else return ()

/-- A list of parameters. -/
def parameters (g : Grammar) : Parser Unit := do
  let _ ← symbol .leftParen
  commaList .rightParen (parameter g)

end Grammar

end Accessors.Syntax
