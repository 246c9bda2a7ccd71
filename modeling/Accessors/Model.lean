import Accessors.Options
import Accessors.Text.Case

/-!
# Classes and their accessors

The model of a class that a run works on, and which accessors the class already has. A method
covers a property when its name is `get` or `set` followed by the property's name, without regard
to case.

* `ClassModel.hasGetter`, `ClassModel.hasSetter`: the coverage of one property.
* `ClassModel.isCandidate`: whether a class still lacks an accessor of a requested kind.
-/

namespace Accessors

/-- A property that qualifies for accessors. -/
structure Property where
  /-- The name without its dollar sign. -/
  name : Text
  /-- The declared type as written. -/
  type : Option Text
  deriving DecidableEq, Repr

/-- A class with its qualifying properties. -/
structure ClassModel where
  name : Text
  /-- The line of the class keyword. -/
  startLine : Nat
  /-- The line of the closing brace. -/
  endLine : Nat
  /-- The column of the closing brace. -/
  endColumn : Nat
  /-- Qualifying properties in the order of their declarations. -/
  properties : List Property
  /-- Names of all methods declared in the class, as written. -/
  methodNames : List Text
  deriving DecidableEq, Repr

namespace ClassModel

/-- Whether some method has the given name once in lower case. -/
def hasMethod (c : ClassModel) (wanted : Text) : Bool :=
  c.methodNames.any fun method => decide (Text.lower method = wanted)

/-- Whether the class has a getter for a property name. -/
def hasGetter (c : ClassModel) (property : Text) : Bool :=
  c.hasMethod ("get".toList ++ Text.lower property)

/-- Whether the class has a setter for a property name. -/
def hasSetter (c : ClassModel) (property : Text) : Bool :=
  c.hasMethod ("set".toList ++ Text.lower property)

/-- Whether every property has a getter. -/
def hasAllGetters (c : ClassModel) : Bool := c.properties.all fun p => c.hasGetter p.name

/-- Whether every property has a setter. -/
def hasAllSetters (c : ClassModel) : Bool := c.properties.all fun p => c.hasSetter p.name

/-- Whether every property has both accessors. -/
def hasFullCoverage (c : ClassModel) : Bool := c.hasAllGetters && c.hasAllSetters

/-- Whether the class lacks an accessor of a requested kind. -/
def isCandidate (kinds : Kinds) (c : ClassModel) : Bool :=
  match kinds with
  | ⟨true, true⟩ => !c.hasFullCoverage
  | ⟨true, false⟩ => !c.hasAllGetters
  | ⟨false, true⟩ => !c.hasAllSetters
  | ⟨false, false⟩ => false

end ClassModel

end Accessors
