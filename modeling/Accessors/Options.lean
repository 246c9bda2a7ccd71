import Accessors.Text.Blank
import Accessors.Text.Case
import Accessors.Text.Number

/-!
# Options

What a run is asked for: the accessor kinds, the visibility of the properties, the indentation.

* `Visibility.parse?`, `resolveTabSize`: settings given as text.
* `Action`: the three named actions and the kinds they ask for.
* `Options`: everything a run needs besides the document.
-/

namespace Accessors

/-- Which properties get accessors. -/
inductive Visibility where
  | isPrivate
  | isPublic
  deriving DecidableEq, Repr

namespace Visibility

/-- The keyword of a visibility. -/
def name : Visibility → Text
  | .isPrivate => "private".toList
  | .isPublic => "public".toList

/-- The visibility a keyword stands for. -/
def ofKeyword? (t : Text) : Option Visibility :=
  if t = "private".toList then some .isPrivate
  else if t = "public".toList then some .isPublic
  else none

/-- The visibility a setting stands for; case does not matter. -/
def parse? (t : Text) : Option Visibility := ofKeyword? (Text.lower t)

end Visibility

/-- The accessor kinds asked for. -/
structure Kinds where
  getters : Bool
  setters : Bool
  deriving DecidableEq, Repr

namespace Kinds

/-- Getters and setters. -/
def both : Kinds := ⟨true, true⟩

/-- Getters only. -/
def gettersOnly : Kinds := ⟨true, false⟩

/-- Setters only. -/
def settersOnly : Kinds := ⟨false, true⟩

/-- The name of the kinds in a prompt. -/
def title : Kinds → Text
  | ⟨true, true⟩ => "Getters/Setters".toList
  | ⟨true, false⟩ => "Getters".toList
  | _ => "Setters".toList

end Kinds

/-- The actions a user can ask for. -/
inductive Action where
  | gettersAndSetters
  | getters
  | setters
  deriving DecidableEq, Repr

namespace Action

/-- Every action, in the order in which they are offered. -/
def all : List Action := [.gettersAndSetters, .getters, .setters]

/-- The name of an action on the command line. -/
def name : Action → Text
  | .gettersAndSetters => "getters-setters".toList
  | .getters => "getters".toList
  | .setters => "setters".toList

/-- What an action does. -/
def description : Action → Text
  | .gettersAndSetters => "Generate missing getters and setters".toList
  | .getters => "Generate missing getters".toList
  | .setters => "Generate missing setters".toList

/-- The kinds an action asks for. -/
def kinds : Action → Kinds
  | .gettersAndSetters => .both
  | .getters => .gettersOnly
  | .setters => .settersOnly

/-- The action with a given name. -/
def ofName? (t : Text) : Option Action := all.find? fun a => decide (a.name = t)

end Action

/-- Indentation when no usable width is given. -/
def defaultTabSize : Nat := 4

/-- The indentation a setting stands for. What is not a positive number stands for the default. -/
def resolveTabSize (setting : Option Text) : Nat :=
  match setting.bind fun t => Text.word64? (Text.trim t) with
  | some (n + 1) => n + 1
  | _ => defaultTabSize

/-- Everything a run needs besides the document. -/
structure Options where
  kinds : Kinds
  visibility : Visibility
  tabSize : Nat
  deriving DecidableEq, Repr

end Accessors
