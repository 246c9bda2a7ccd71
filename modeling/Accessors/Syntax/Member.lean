import Accessors.Syntax.Grammar

/-!
# Grammar: members of classes

* `Grammar.property`: a property declaration, plain or with hooks.
* `Grammar.member`: any member.
* `Grammar.classBody`: the members in braces, with the offset of the closing brace.
* `Grammar.optionalExtends`, `Grammar.optionalImplements`: the clauses between the name of a class
  and its body.
-/

namespace Accessors.Syntax.Grammar

open Accessors.Syntax.Parser

/-! ## Properties -/

/-- A variable and its value in a property declaration. -/
def propertyItem (g : Grammar) : Parser Variable := do
  let v ← variableName
  optionalValue g
  return v

/-- The variables of a property declaration behind the first one. -/
def furtherItems (g : Grammar) : Parser (List Variable) :=
  manyUntil (· ≠ some (.symbol .comma)) do
    let _ ← next
    propertyItem g

/-- The type of a property, if it has one, with the offsets it covers. -/
def propertyHint (g : Grammar) : Parser (Option (Nat × Nat)) := do
  match ← tokens with
  | [] => fail
  | t :: _ =>
    match t.kind with
    | .variable _ => return none
    | _ => return some (t.start, ← g.hint)

/-- A property declaration behind its modifiers. -/
def property (g : Grammar) (modifiers : List Modifier) : Parser PropertyDecl := do
  let _ ← acceptKeyword .var
  let hint ← propertyHint g
  let first ← propertyItem g
  if ← acceptSymbol .leftBrace then
    hooks g
    return { modifiers, hint, first, others := [], hooked := true }
  else
    let others ← furtherItems g
    terminator
    return { modifiers, hint, first, others, hooked := false }

/-! ## Other members -/

/-- The constants of a class, the reserved word already taken. -/
def classConstants (g : Grammar) : Parser Unit := do
  if (← peekAt? 1) ≠ some (.symbol .assign) then
    let _ ← g.hint
  terminatedList do
    let _ ← word
    let _ ← symbol .assign
    g.expression

/-- A case of an enumeration, the reserved word already taken. -/
def enumCase (g : Grammar) : Parser Unit := do
  let _ ← word
  optionalValue g
  terminator

/-- Take a visibility if there is one. -/
def acceptVisibility : Parser Bool := do
  if ← acceptKeyword .isPublic then return true
  else if ← acceptKeyword .isProtected then return true
  else acceptKeyword .isPrivate

/-- What is done with a method of a trait: it is preferred over those of other traits, for which
its own trait has to be named, or it gets a visibility, another name, or both. -/
def adaptation : Parser Unit := do
  let absolute := (← peekAt? 1) = some (.symbol .doubleColon)
  if absolute then
    name
    let _ ← symbol .doubleColon
  let _ ← word
  if ← acceptKeyword .insteadof then
    if absolute then terminatedList name else fail
  else
    keyword .as
    let _ ← acceptVisibility
    if isWord (← peek?) then
      let _ ← word
    terminator

/-- A use of traits, the reserved word already taken. -/
def traitUse : Parser Unit := do
  itemsUntil (fun kind => kind = some (.symbol .leftBrace) || isTerminator kind) name
  if ← acceptSymbol .leftBrace then
    let _ ← manyUntil (· = some (.symbol .rightBrace)) adaptation
    let _ ← symbol .rightBrace
  else terminator

/-- A method behind the reserved word: its name. -/
def method (g : Grammar) : Parser Text := do
  let _ ← acceptSymbol .ampersand
  let name ← word
  parameters g
  returnType g
  if ← acceptSymbol .semicolon then return name
  else
    emit (← block g)
    return name

/-! ## Bodies -/

/-- A member of a class. -/
def member (g : Grammar) : Parser (Member Statement) := do
  let (make, nested) ← collect (shape g)
  return make nested
where
  /-- The member but for the statements nested in it. -/
  shape (g : Grammar) : Parser (List Statement → Member Statement) := do
    if ← acceptKeyword .use then
      traitUse
      return .other
    attributes g
    if ← acceptKeyword .caseLabel then
      enumCase g
      return .other
    else
      let modifiers ← modifiers
      if ← acceptKeyword .const then
        classConstants g
        return .other
      else if ← acceptKeyword .function then return .method (← method g)
      else return .property (← property g modifiers)

/-- The members of a class in braces, and the offset of the closing brace. -/
def classBody (g : Grammar) : Parser (List (Member Statement) × Nat) := do
  let _ ← symbol .leftBrace
  let members ← manyUntil (· = some (.symbol .rightBrace)) (member g)
  return (members, (← symbol .rightBrace).start)

/-- The names behind `extends`, if it is there. -/
def optionalExtends : Parser Unit := do
  if ← acceptKeyword .extends then separated name

/-- The names behind `implements`, if it is there. -/
def optionalImplements : Parser Unit := do
  if ← acceptKeyword .implements then separated name

end Accessors.Syntax.Grammar
