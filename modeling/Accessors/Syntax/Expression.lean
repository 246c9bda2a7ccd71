import Accessors.Syntax.Member

/-!
# Grammar: expressions

Expressions are recognised, not built: what matters about them is where they end and which
statements are nested in them. Operators are read from left to right without regard to their
precedence, which changes neither.

* `Grammar.operand`: a prefix operator with its operand, or a primary expression with what is
  attached to it.
* `Grammar.expressionRule`: operands with operators between them.
-/

namespace Accessors.Syntax.Grammar

open Accessors.Syntax.Parser

/-! ## Pieces of expressions -/

/-- An expression in parentheses. -/
def parenthesized (g : Grammar) : Parser Unit := do
  let _ ← symbol .leftParen
  g.expression
  let _ ← symbol .rightParen

/-- An expression up to a closing brace, the opening one already taken. -/
def braced (g : Grammar) : Parser Unit := do
  g.expression
  let _ ← symbol .rightBrace

/-- A variable variable behind its first dollar sign. -/
def dollarTail (g : Grammar) : Parser Unit := do
  repeatWhile (acceptSymbol .dollar)
  if ← acceptSymbol .dollarBrace then braced g
  else
    let _ ← variableName

/-- The member named behind an arrow or a double colon. -/
def memberName (g : Grammar) : Parser Unit := do
  match (← next).kind with
  | .name _ | .keyword _ _ | .variable _ => return ()
  | .symbol .leftBrace | .symbol .dollarBrace => braced g
  | .symbol .dollar => dollarTail g
  | _ => fail

/-- One item of an array or of a list. Items may be left out of a list. -/
def arrayItem (g : Grammar) : Parser Unit := do
  if (← peek?) = some (.symbol .comma) then return ()
  else if ← acceptSymbol .ellipsis then g.expression
  else
    g.expression
    if ← acceptSymbol .doubleArrow then g.expression

/-- A subscript or a member attached to a primary expression. -/
def access (g : Grammar) : Parser Bool := do
  match ← peek? with
  | some (.symbol .leftBracket) =>
    let _ ← next
    if ← acceptSymbol .rightBracket then return true
    else
      g.expression
      let _ ← symbol .rightBracket
      return true
  | some (.symbol .arrow) | some (.symbol .doubleColon) | some (.symbol .safeArrow) =>
    let _ ← next
    memberName g
    return true
  | _ => return false

/-- What can be attached to a primary expression: a subscript, a member, a call, a step. A call
behind `?->` takes all of its arguments. -/
def attachment (g : Grammar) : Parser Bool := do
  match ← peek? with
  | some (.symbol .safeArrow) =>
    let _ ← next
    memberName g
    optionalArguments g
    return true
  | some (.symbol .leftParen) =>
    let _ ← next
    callArguments g
    return true
  | some (.symbol .step) =>
    let _ ← next
    return true
  | _ => access g

/-- Everything attached to a primary expression. -/
def attachments (g : Grammar) : Parser Unit := repeatWhile (attachment g)

/-- One part of a string with interpolation; false at its end. -/
def templatePart (g : Grammar) : Parser Bool := do
  match ← peek? with
  | some .closing =>
    let _ ← next
    return false
  | some .part =>
    let _ ← next
    return true
  | some (.symbol .leftBrace) | some (.symbol .dollarBrace) =>
    let _ ← next
    braced g
    return true
  | _ =>
    g.expression
    return true

/-! ## Functions, matches and objects -/

/-- A closure behind the reserved word. -/
def closure (g : Grammar) : Parser Unit := do
  let _ ← acceptSymbol .ampersand
  parameters g
  if ← acceptKeyword .use then
    let _ ← symbol .leftParen
    commaList .rightParen do
      let _ ← acceptSymbol .ampersand
      let _ ← variableName
  returnType g
  emit (← block g)

/-- An arrow function behind the reserved word. -/
def arrowFunction (g : Grammar) : Parser Unit := do
  let _ ← acceptSymbol .ampersand
  parameters g
  returnType g
  let _ ← symbol .doubleArrow
  g.expression

/-- A function as a value. -/
def functionValue (g : Grammar) : Parser Unit := do
  if ← acceptKeyword .fn then arrowFunction g
  else
    keyword .function
    closure g

/-- One arm of a match. -/
def matchArm (g : Grammar) : Parser Unit := do
  if ← acceptKeyword .defaultLabel then
    let _ ← symbol .doubleArrow
    g.expression
  else
    commaList .doubleArrow g.expression
    g.expression

/-- A match behind the reserved word. -/
def matchExpression (g : Grammar) : Parser Unit := do
  parenthesized g
  let _ ← symbol .leftBrace
  commaList .rightBrace (matchArm g)

/-- An anonymous class: attributes, modifiers, the reserved word, and the class. -/
def anonymousClass (g : Grammar) : Parser Unit := do
  attributes g
  let _ ← modifiers
  keyword .classDecl
  optionalArguments g
  optionalExtends
  optionalImplements
  let (members, _) ← classBody g
  emit (members.flatMap Member.nested)

/-- Whether a token behind `new` starts an anonymous class: its reserved word, an attribute, or a
modifier, of which `static` alone is a class by itself. -/
def startsAnonymousClass : Option TokenKind → Bool
  | some (.symbol .attribute) | some (.keyword .classDecl _) => true
  | some (.keyword .static _) | none => false
  | some kind => (modifier? kind).isSome

/-- Whether a yield stands without an operand. -/
def endsYield : Option TokenKind → Bool
  | some (.symbol .rightParen) => true
  | kind => isTerminator kind

/-- A yield behind the reserved word. -/
def yieldExpression (g : Grammar) : Parser Unit := do
  if ← acceptKeyword .from then g.expression
  else if endsYield (← peek?) then return ()
  else
    g.expression
    if ← acceptSymbol .doubleArrow then g.expression

/-! ## Operands -/

/-- Run a parser if the next token is an opening parenthesis. -/
def beforeParen (p : Parser Unit) : Parser Unit := do
  if (← peek?) = some (.symbol .leftParen) then p

/-- Run a parser if the next token is an opening parenthesis or an ampersand. -/
def beforeParameters (p : Parser Unit) : Parser Unit := do
  match ← peek? with
  | some (.symbol .leftParen) | some (.symbol .ampersand) => p
  | _ => return ()

/-- An operand that starts with a reserved word, the word already taken. A word that starts no
construct here is an ordinary name. -/
def keywordOperand (g : Grammar) : Keyword → Parser Unit
  | .array | .list =>
    beforeParen do
      let _ ← symbol .leftParen
      commaList .rightParen (arrayItem g)
  | .isset => do
    let _ ← symbol .leftParen
    commaList .rightParen g.expression
  | .empty => parenthesized g
  | .exit => optionalArguments g
  | .clone => do
    if ← acceptSymbol .leftParen then callArguments g else g.expression
  | .eval | .print | .includeFile | .throw => g.expression
  | .yield => yieldExpression g
  | .fn => beforeParameters (arrowFunction g)
  | .function => beforeParameters (closure g)
  | .static => do
    if (← atKeyword .function) || (← atKeyword .fn) then functionValue g
  | .matchExpr => beforeParen (matchExpression g)
  | _ => return ()

/-- A primary expression, or a prefix operator with its operand. -/
def primary (g : Grammar) : Parser Unit := do
  match ← peek? with
  | some (.symbol .attribute) =>
    attributes g
    let _ ← acceptKeyword .static
    functionValue g
  | _ =>
    match (← next).kind with
    | .variable _ | .number | .string | .name _ | .qualified => return ()
    | .opening => repeatWhile (templatePart g)
    | .cast | .symbol .sign | .symbol .unary | .symbol .step | .symbol .ampersand => g.expression
    | .symbol .dollar => dollarTail g
    | .symbol .dollarBrace => braced g
    | .symbol .leftParen =>
      g.expression
      let _ ← symbol .rightParen
    | .symbol .leftBracket => commaList .rightBracket (arrayItem g)
    | .keyword k _ => keywordOperand g k
    | _ => fail

/-- What stands behind `new`: an anonymous class, or a class, perhaps reached through subscripts
and members, with arguments. -/
def creation (g : Grammar) : Parser Unit := do
  if startsAnonymousClass (← peek?) then anonymousClass g
  else
    if ← atKeyword .new then g.expression
    else
      primary g
      repeatWhile (access g)
    optionalArguments g

/-- An operand with everything attached to it. -/
def operand (g : Grammar) : Parser Unit := do
  if ← acceptKeyword .new then creation g else primary g
  attachments g

/-! ## Operators -/

/-- An operator with the operand behind it; false if there is none. -/
def operation (g : Grammar) : Parser Bool := do
  match ← peek? with
  | some (.symbol .question) =>
    let _ ← next
    if ← acceptSymbol .colon then operand g
    else
      g.expression
      let _ ← symbol .colon
      operand g
    return true
  | some (.symbol .assign) | some (.symbol .binary) | some (.symbol .sign)
  | some (.symbol .ampersand) | some (.symbol .pipe) | some (.keyword .logical _)
  | some (.keyword .instanceof _) =>
    let _ ← next
    operand g
    return true
  | _ => return false

/-- An expression. -/
def expressionRule (g : Grammar) : Parser Unit := do
  operand g
  repeatWhile (operation g)

end Accessors.Syntax.Grammar
