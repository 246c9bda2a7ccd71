import Accessors.Model

/-!
# Accessor methods

The getter and the setter of a property: their names, their text, and which of them a class still
lacks.

* `Accessor.name`, `Accessor.block`: one accessor, its method followed by a blank line.
* `ClassModel.missing`: the accessors to add to a class, in the order in which they are written.
-/

namespace Accessors

/-- The two kinds of accessor. -/
inductive AccessorKind where
  | getter
  | setter
  deriving DecidableEq, Repr

/-- An accessor of a property. -/
structure Accessor where
  kind : AccessorKind
  property : Property
  deriving DecidableEq, Repr

namespace Accessor

/-! ## Names and text -/

/-- The name of the method. -/
def name : Accessor → Text
  | ⟨.getter, p⟩ => "get".toList ++ Text.capitalize p.name
  | ⟨.setter, p⟩ => "set".toList ++ Text.capitalize p.name

/-- The parameters of the method: a setter takes the property's variable with its type. -/
def parameters : Accessor → Text
  | ⟨.getter, _⟩ => []
  | ⟨.setter, ⟨name, some type⟩⟩ => type ++ " $".toList ++ name
  | ⟨.setter, ⟨name, none⟩⟩ => '$' :: name

/-- The statement of the method. -/
def statement : Accessor → Text
  | ⟨.getter, p⟩ => "return $this->".toList ++ p.name ++ [';']
  | ⟨.setter, p⟩ => "$this->".toList ++ p.name ++ " = $".toList ++ p.name ++ [';']

/-- The method followed by a blank line, its lines ended by `eol`. -/
def block (tabSize : Nat) (eol : Text) (a : Accessor) : Text :=
  let indent := Text.spaces tabSize
  indent ++ "public function ".toList ++ a.name ++ ['('] ++ a.parameters ++ ") \x7b".toList ++ eol ++
    indent ++ indent ++ a.statement ++ eol ++
    indent ++ ['\x7d'] ++ eol ++ eol

end Accessor

/-! ## What a class lacks -/

namespace ClassModel

/-- The accessors of a property that are asked for and not there. -/
def lacking (kinds : Kinds) (c : ClassModel) (p : Property) : List Accessor :=
  (if kinds.getters && !c.hasGetter p.name then [⟨.getter, p⟩] else []) ++
    (if kinds.setters && !c.hasSetter p.name then [⟨.setter, p⟩] else [])

/-- The accessors whose names, without regard to case, are neither in `seen` nor used by an
earlier accessor of the list. -/
def keepFirst (seen : List Text) : List Accessor → List Accessor
  | [] => []
  | a :: rest =>
    let key := Text.lower a.name
    if seen.contains key then keepFirst seen rest else a :: keepFirst (key :: seen) rest

/-- The accessors to add to a class, property by property, getters first; a name declared twice
gets one accessor of each kind. -/
def missing (kinds : Kinds) (c : ClassModel) : List Accessor :=
  keepFirst [] (c.properties.flatMap (c.lacking kinds))

end ClassModel

end Accessors
