import Accessors.Syntax.Expression

/-!
# Grammar: statements

* `Grammar.statementRule`: any statement.
* `Grammar.conditional`, `Grammar.classStatement`, `Grammar.namespaceStatement`: the statements
  through which class declarations are reached.
-/

namespace Accessors.Syntax.Grammar

open Accessors.Syntax.Parser

/-! ## Bodies -/

/-- Whether a token is one of the given reserved words. -/
def isKeyword (words : List Keyword) : Option TokenKind → Bool
  | some (.keyword k _) => words.contains k
  | _ => false

/-- Statements up to one of the given reserved words. -/
def statementsUntil (g : Grammar) (words : List Keyword) : Parser (List Statement) :=
  manyUntil (isKeyword words) g.statement

/-- The body of a loop: statements between a colon and a closing word, or one statement. -/
def loopBody (g : Grammar) (closing : Keyword) : Parser (List Statement) := do
  if ← acceptSymbol .colon then
    let body ← statementsUntil g [closing]
    keyword closing
    terminator
    return body
  else return [← g.statement]

/-- A statement that encloses others: those its parser returns, behind those met in its
expressions. -/
def enclosing (kind : Enclosure) (p : Parser (List Statement)) : Parser Statement := do
  let (body, nested) ← collect p
  return .other kind (nested ++ body)

/-- A statement without a body. -/
def simple (p : Parser Unit) : Parser Statement :=
  enclosing .simple do
    p
    return []

/-! ## Conditionals -/

/-- The condition of a conditional: the statements nested in it. -/
def condition (g : Grammar) : Parser (List Statement) := do
  let (_, nested) ← collect (parenthesized g)
  return nested

/-- The branches of a conditional behind its first condition. -/
def branches {β : Type} (g : Grammar) (branch : Parser β) : Parser (Branches Statement β) := do
  let first ← branch
  let elseIfs ← manyUntil (fun kind => !isKeyword [.elseifClause] kind) do
    keyword .elseifClause
    let condition ← condition g
    return ⟨condition, ← branch⟩
  if ← acceptKeyword .elseClause then return ⟨first, elseIfs, some (← branch)⟩
  else return ⟨first, elseIfs, none⟩

/-- A branch of a conditional in colon form. -/
def colonBranch (g : Grammar) : Parser (List Statement) := do
  let _ ← symbol .colon
  statementsUntil g [.elseifClause, .elseClause, .endIf]

/-- A conditional behind the reserved word. -/
def conditional (g : Grammar) : Parser Statement := do
  let condition ← condition g
  if (← peek?) = some (.symbol .colon) then
    let branches ← branches g (colonBranch g)
    keyword .endIf
    terminator
    return .colonConditional condition branches
  else return .conditional condition (← branches g g.statement)

/-! ## Loops -/

/-- A while loop behind the reserved word. -/
def whileLoop (g : Grammar) : Parser (List Statement) := do
  parenthesized g
  loopBody g .endWhile

/-- A do loop behind the reserved word. -/
def doLoop (g : Grammar) : Parser (List Statement) := do
  let body ← g.statement
  keyword .whileLoop
  parenthesized g
  terminator
  return [body]

/-- A for loop behind the reserved word. -/
def forLoop (g : Grammar) : Parser (List Statement) := do
  let _ ← symbol .leftParen
  commaList .semicolon g.expression
  commaList .semicolon g.expression
  commaList .rightParen g.expression
  loopBody g .endFor

/-- A foreach loop behind the reserved word. -/
def foreachLoop (g : Grammar) : Parser (List Statement) := do
  let _ ← symbol .leftParen
  g.expression
  keyword .as
  g.expression
  if ← acceptSymbol .doubleArrow then g.expression
  let _ ← symbol .rightParen
  loopBody g .endForeach

/-! ## Switch, try and declare -/

/-- One case of a switch. -/
def switchCase (g : Grammar) : Parser (List Statement) := do
  if ← acceptKeyword .caseLabel then g.expression else keyword .defaultLabel
  if ← acceptSymbol .colon then pure ()
  else
    let _ ← symbol .semicolon
  manyUntil
    (fun kind => kind = some (.symbol .rightBrace) ||
      isKeyword [.caseLabel, .defaultLabel, .endSwitch] kind)
    g.statement

/-- The cases of a switch; the end of a statement may stand in front of them. -/
def switchCases (g : Grammar) : Parser (List Statement) := do
  if isTerminator (← peek?) then terminator
  let cases ← manyUntil
    (fun kind => kind = some (.symbol .rightBrace) || isKeyword [.endSwitch] kind) (switchCase g)
  return cases.flatten

/-- A switch behind the reserved word. -/
def switchStatement (g : Grammar) : Parser (List Statement) := do
  parenthesized g
  if ← acceptSymbol .colon then
    let cases ← switchCases g
    keyword .endSwitch
    terminator
    return cases
  else
    let _ ← symbol .leftBrace
    let cases ← switchCases g
    let _ ← symbol .rightBrace
    return cases

/-- A catch clause. -/
def catchClause (g : Grammar) : Parser (List Statement) := do
  keyword .catchClause
  let _ ← symbol .leftParen
  let _ ← g.hint
  if (← peek?) ≠ some (.symbol .rightParen) then
    let _ ← variableName
  let _ ← symbol .rightParen
  block g

/-- A try block behind the reserved word. -/
def tryStatement (g : Grammar) : Parser (List Statement) := do
  let body ← block g
  let handlers ← manyUntil (fun kind => !isKeyword [.catchClause] kind) (catchClause g)
  let last ← if ← acceptKeyword .finallyClause then block g else pure []
  return body ++ handlers.flatten ++ last

/-- A declare statement behind the reserved word. -/
def declareStatement (g : Grammar) : Parser (List Statement) := do
  let _ ← symbol .leftParen
  commaList .rightParen do
    let _ ← word
    let _ ← symbol .assign
    g.expression
  loopBody g .endDeclare

/-! ## Declarations -/

/-- A class declaration: modifiers, the reserved word, and the class. -/
def classStatement (g : Grammar) : Parser Statement := do
  let _ ← modifiers
  let t ← next
  match t.kind with
  | .keyword .classDecl _ =>
    let name ← word
    optionalExtends
    optionalImplements
    let (members, closing) ← classBody g
    return .classDecl { name, keyword := t.start, closing, members }
  | _ => fail

/-- An interface, a trait or an enumeration behind its reserved word, with the clauses that may
stand between its name and its body. -/
def classLike (g : Grammar) (clauses : Parser Unit) : Parser (List Statement) := do
  let _ ← word
  clauses
  let (members, _) ← classBody g
  return members.flatMap Member.nested

/-- The type of the values of an enumeration, and its interfaces. -/
def enumClauses (g : Grammar) : Parser Unit := do
  returnType g
  optionalImplements

/-- A function declaration behind the reserved word. -/
def functionStatement (g : Grammar) : Parser (List Statement) := do
  let _ ← acceptSymbol .ampersand
  let _ ← word
  parameters g
  returnType g
  block g

/-- A namespace behind the reserved word. -/
def namespaceStatement (g : Grammar) : Parser Statement := do
  if !(isTerminator (← peek?) || (← peek?) = some (.symbol .leftBrace)) then name
  if (← peek?) = some (.symbol .leftBrace) then return .namespaceDecl true (← block g)
  else
    terminator
    let body ← manyUntil (fun kind => kind.isNone || isKeyword [.namespaceDecl] kind) g.statement
    return .namespaceDecl false body

/-- One name of an import, perhaps with another name for it. -/
def importName : Parser Unit := do
  name
  if ← acceptKeyword .as then
    let _ ← word

/-- Take the word that says that functions or constants are imported, if there is one. -/
def importKind : Parser Bool := do
  if ← acceptKeyword .function then return true else acceptKeyword .const

/-- The names of an import from one namespace, in braces. Each may say what it is, unless the import
as a whole does. -/
def importGroup (typed : Bool) : Parser Unit := do
  name
  let _ ← symbol .backslash
  let _ ← symbol .leftBrace
  commaList .rightBrace do
    if !typed then
      let _ ← importKind
    importName
  terminator

/-- An import behind the reserved word. -/
def importStatement : Parser Unit := do
  let typed ← importKind
  if (← peekAt? 1) = some (.symbol .backslash) then importGroup typed
  else terminatedList importName

/-- Constants behind the reserved word. -/
def constStatement (g : Grammar) : Parser Unit := do
  terminatedList do
    let _ ← word
    let _ ← symbol .assign
    g.expression

/-! ## Other statements -/

/-- Variables with optional values behind the reserved word. -/
def staticVariables (g : Grammar) : Parser Unit := do
  terminatedList do
    let _ ← variableName
    optionalValue g

/-- A variable, or one whose name is computed. -/
def anyVariable (g : Grammar) : Parser Unit := do
  match (← next).kind with
  | .variable _ => return ()
  | .symbol .dollar => dollarTail g
  | .symbol .dollarBrace => braced g
  | _ => fail

/-- A reserved word with an optional operand. -/
def optionalOperand (g : Grammar) : Parser Unit := do
  if !isTerminator (← peek?) then g.expression
  terminator

/-- An expression as a statement. -/
def expressionStatement (g : Grammar) : Parser Statement :=
  simple do
    expressionRule g
    terminator

/-- A function as a statement of its own: nothing is attached to it. -/
def functionValueStatement (g : Grammar) : Parser Statement :=
  simple do
    let _ ← acceptKeyword .static
    functionValue g
    terminator

/-- Whether a closure, and not a function declaration, starts at the reserved word. -/
def atClosure : Parser Bool := do
  match ← peekAt? 1 with
  | some (.symbol .ampersand) => return (← peekAt? 2) = some (.symbol .leftParen)
  | kind => return kind = some (.symbol .leftParen)

/-- A label, or an expression that starts with a word. -/
def labelOrExpression (g : Grammar) : Parser Statement := do
  if (← peekAt? 1) = some (.symbol .colon) then simple (next *> next *> pure ())
  else expressionStatement g

/-- Whether a token may go on with the modifiers of a class, or is the word for one. -/
def continuesClass : Option TokenKind → Bool
  | some (.keyword .classDecl _) => true
  | some kind => (modifier? kind).isSome
  | none => false

/-- A statement that starts with a reserved word. -/
def keywordStatement (g : Grammar) (k : Keyword) : Parser Statement := do
  match k with
  | .classDecl | .abstract | .final | .isPublic | .isProtected | .isPrivate => classStatement g
  | .readonly =>
    if (← peekAt? 1) = some (.symbol .leftParen) then expressionStatement g else classStatement g
  | .static =>
    match ← peekAt? 1 with
    | some (.variable _) => simple (next *> staticVariables g)
    | kind => if continuesClass kind then classStatement g else labelOrExpression g
  | .interface => enclosing .interface (next *> classLike g optionalExtends)
  | .trait => enclosing .trait (next *> classLike g (pure ()))
  | .enum => enclosing .enum (next *> classLike g (enumClauses g))
  | .function =>
    if ← atClosure then functionValueStatement g
    else enclosing .function (next *> functionStatement g)
  | .namespaceDecl => next *> namespaceStatement g
  | .use => simple (next *> importStatement)
  | .const => simple (next *> constStatement g)
  | .ifClause => next *> conditional g
  | .whileLoop => enclosing .loop (next *> whileLoop g)
  | .doLoop => enclosing .loop (next *> doLoop g)
  | .forLoop => enclosing .loop (next *> forLoop g)
  | .foreach => enclosing .loop (next *> foreachLoop g)
  | .switch => enclosing .switch (next *> switchStatement g)
  | .tryBlock => enclosing .tryBlock (next *> tryStatement g)
  | .declare => enclosing .declare (next *> declareStatement g)
  | .echo => simple (next *> terminatedList g.expression)
  | .global => simple (next *> terminatedList (anyVariable g))
  | .returnStmt | .leave => simple (next *> optionalOperand g)
  | .goto => simple (next *> word *> terminator)
  | .unset => simple (next *> symbol .leftParen *> commaList .rightParen g.expression *> terminator)
  | .haltCompiler => simple (next *> symbol .leftParen *> symbol .rightParen *> terminator)
  | _ => labelOrExpression g

/-- A statement behind attributes: a declaration or a function. -/
def attributedStatement (g : Grammar) : Parser Statement := do
  match ← peek? with
  | some (.keyword .fn _) => functionValueStatement g
  | some (.keyword .static _) =>
    if isKeyword [.fn, .function] (← peekAt? 1) then functionValueStatement g
    else classStatement g
  | some (.keyword k _) =>
    if [.function, .interface, .trait, .enum, .const].contains k then keywordStatement g k
    else classStatement g
  | _ => classStatement g

/-- A statement. -/
def statementRule (g : Grammar) : Parser Statement := do
  match ← peek? with
  | some .html | some .openTag | some .closeTag | some (.symbol .semicolon) =>
    simple (next *> pure ())
  | some .echoTag => simple (next *> terminatedList g.expression)
  | some (.symbol .leftBrace) => return .block (← block g)
  | some (.symbol .attribute) =>
    attributes g
    attributedStatement g
  | some .setVisibility => classStatement g
  | some (.name _) => labelOrExpression g
  | some (.keyword k _) => keywordStatement g k
  | some _ => expressionStatement g
  | none => fail

end Accessors.Syntax.Grammar
