import Accessors.Syntax.Token

/-!
# PHP syntax trees

The part of a syntax tree that declarations depend on. Statements keep their shape as far as a
class declaration can be reached through them; of any other statement, and of expressions, the
tree keeps the statements nested inside (bodies of functions, closures and methods).

* `Statement`, `ClassDecl`, `Member`, `Branches`: the tree.
* `Program.classes`: the class declarations a reader of the file would call declared by it, in
  source order: those at the top level, in namespaces, in plain blocks and in the branches of
  conditionals.
-/

namespace Accessors.Syntax

/-- A modifier in front of a member; only the visibilities are told apart. -/
inductive Modifier where
  | isPublic
  | isProtected
  | isPrivate
  | other
  deriving DecidableEq, Repr

/-- A property declaration. -/
structure PropertyDecl where
  modifiers : List Modifier
  /-- The byte offsets of the type, if there is one. -/
  hint : Option (Nat × Nat)
  first : Variable
  /-- The other variables of the declaration. -/
  others : List Variable
  /-- Whether the property has hooks. -/
  hooked : Bool
  deriving DecidableEq, Repr

/-- A member of a class; `σ` is the type of the statements nested in it. -/
inductive Member (σ : Type) where
  | property (decl : PropertyDecl) (nested : List σ)
  | method (name : Text) (nested : List σ)
  /-- Constants, cases and uses of traits. -/
  | other (nested : List σ)

/-- The statements nested in a member. -/
def Member.nested {σ : Type} : Member σ → List σ
  | .property _ nested | .method _ nested | .other nested => nested

/-- A class declaration. -/
structure ClassDecl (σ : Type) where
  name : Text
  /-- Byte offset of the class keyword. -/
  keyword : Nat
  /-- Byte offset of the closing brace. -/
  closing : Nat
  members : List (Member σ)

/-- Statements through which no class declaration is reached. -/
inductive Enclosure where
  | function
  | loop
  | switch
  | tryBlock
  | declare
  | interface
  | trait
  | enum
  /-- Statements without a body: expressions, imports, text outside the tags and so on. -/
  | simple
  deriving DecidableEq, Repr

/-- A clause of a conditional behind its first branch: the statements nested in its condition, and
its branch. -/
structure ElseIf (σ β : Type) where
  condition : List σ
  branch : β

/-- The branches of a conditional. `σ` is the type of the statements nested in conditions, `β` the
type of a branch. -/
structure Branches (σ β : Type) where
  first : β
  elseIfs : List (ElseIf σ β)
  otherwise : Option β

/-- A statement. -/
inductive Statement where
  | classDecl (decl : ClassDecl Statement)
  /-- A namespace with its statements, in braces or up to the next namespace. -/
  | namespaceDecl (braced : Bool) (body : List Statement)
  | block (body : List Statement)
  /-- A conditional in statement form: a branch is one statement. -/
  | conditional (condition : List Statement) (branches : Branches Statement Statement)
  /-- A conditional in colon form: a branch is a list of statements. -/
  | colonConditional (condition : List Statement) (branches : Branches Statement (List Statement))
  | other (kind : Enclosure) (nested : List Statement)

/-- A source file. -/
structure Program where
  statements : List Statement

/-! ## Reaching classes -/

mutual

/-- The class declarations reached through a statement. -/
def Statement.classes : Statement → List (ClassDecl Statement)
  | .classDecl decl => [decl]
  | .namespaceDecl _ body => classesIn body
  | .block body => classesIn body
  | .conditional _ ⟨first, elseIfs, none⟩ => first.classes ++ classesInElseIfs elseIfs
  | .conditional _ ⟨first, elseIfs, some last⟩ =>
    first.classes ++ classesInElseIfs elseIfs ++ last.classes
  | .colonConditional _ ⟨first, elseIfs, none⟩ => classesIn first ++ classesInColonElseIfs elseIfs
  | .colonConditional _ ⟨first, elseIfs, some last⟩ =>
    classesIn first ++ classesInColonElseIfs elseIfs ++ classesIn last
  | .other _ _ => []

/-- The class declarations reached through a list of statements. -/
def classesIn : List Statement → List (ClassDecl Statement)
  | [] => []
  | s :: rest => s.classes ++ classesIn rest

/-- The class declarations reached through further branches in statement form. -/
def classesInElseIfs : List (ElseIf Statement Statement) → List (ClassDecl Statement)
  | [] => []
  | ⟨_, branch⟩ :: rest => branch.classes ++ classesInElseIfs rest

/-- The class declarations reached through further branches in colon form. -/
def classesInColonElseIfs : List (ElseIf Statement (List Statement)) → List (ClassDecl Statement)
  | [] => []
  | ⟨_, branch⟩ :: rest => classesIn branch ++ classesInColonElseIfs rest

end

/-- The class declarations of a program. -/
def Program.classes (p : Program) : List (ClassDecl Statement) := classesIn p.statements

end Accessors.Syntax
