import Accessors.Document
import Accessors.Failure
import Accessors.Model
import Accessors.Syntax.Program

/-!
# Extraction

The models of the classes of a PHP file that declare a property of the wanted visibility.

* `Syntax.PropertyDecl.qualifies`: whether a declaration has the wanted visibility.
* `Extract.classModel?`: the model of a class, if it has a qualifying property.
* `Extract.classModels`: the models of a program's classes, in source order.
* `Extract.ofSource`: the same for a source file.
-/

namespace Accessors

/-! ## Visibility of properties -/

namespace Syntax.PropertyDecl

/-- The last visibility among the modifiers. -/
def visibility? (p : PropertyDecl) : Option Modifier :=
  (p.modifiers.filter (· ≠ .other)).getLast?

/-- Whether a property has the wanted visibility; without a modifier it is public. -/
def qualifies (wanted : Visibility) (p : PropertyDecl) : Bool :=
  match wanted, p.visibility? with
  | .isPrivate, some .isPrivate => true
  | .isPublic, none | .isPublic, some .isPublic => true
  | _, _ => false

end Syntax.PropertyDecl

namespace Extract

open Syntax (ClassDecl Member Program PropertyDecl Statement)

/-! ## Models -/

/-- The property a declaration stands for: its first variable without dollar signs, and its type
as written. -/
def property? (d : Document) (p : PropertyDecl) : Option Property :=
  match p.first.text.dropWhile (· = '$') with
  | [] => none
  | name => some ⟨name, p.hint.map fun (start, stop) => Text.sliceBytes d.text start stop⟩

/-- The qualifying properties among members. -/
def properties (wanted : Visibility) (d : Document) (members : List (Member Statement)) :
    List Property :=
  members.filterMap fun
    | .property decl _ => if decl.qualifies wanted then property? d decl else none
    | _ => none

/-- The names of the methods among members. -/
def methodNames (members : List (Member Statement)) : List Text :=
  members.filterMap fun
    | .method name _ => some name
    | _ => none

/-- The model of a class, if it has a qualifying property. -/
def classModel? (wanted : Visibility) (d : Document) (c : ClassDecl Statement) :
    Option ClassModel :=
  match properties wanted d c.members with
  | [] => none
  | properties =>
    let closing := d.positionAt c.closing
    some
      { name := c.name
        startLine := (d.positionAt c.keyword).line
        endLine := closing.line
        endColumn := closing.column
        properties
        methodNames := methodNames c.members }

/-- The models of a program's classes. -/
def classModels (wanted : Visibility) (d : Document) (p : Program) :
    Except Failure (List ClassModel) :=
  match p.classes with
  | [] => .error .noClassesFound
  | classes =>
    match classes.filterMap (classModel? wanted d) with
    | [] => .error (.noQualifyingProperties wanted)
    | models => .ok models

/-- The models of a source file's classes. A syntax error anywhere refuses the whole file. -/
def ofSource (wanted : Visibility) (source : Text) : Except Failure (List ClassModel) :=
  match Program.parse? source with
  | none => .error .parseFailure
  | some program => classModels wanted (Document.ofText source) program

end Extract

end Accessors
