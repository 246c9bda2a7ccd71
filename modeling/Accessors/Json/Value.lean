import Accessors.Text.Basic

/-!
# JSON values

* `Json.Value`: values; an object keeps its members in order.
* `Json.Value.member?`, `Json.Value.text?`, `Json.Value.items?`: the parts of a value.
-/

namespace Accessors.Json

/-- A value. A number with a fraction or an exponent is kept as it was written. -/
inductive Value where
  | null
  | boolean (b : Bool)
  | integer (i : Int)
  | decimal (literal : Text)
  | string (t : Text)
  | array (items : List Value)
  | object (members : List (Text × Value))

namespace Value

/-- A natural number. -/
def natural (n : Nat) : Value := .integer n

/-- A text written as a literal. -/
def literal (s : String) : Value := .string s.toList

/-- An object whose names are written as literals. -/
def record (members : List (String × Value)) : Value :=
  .object (members.map fun (name, v) => (name.toList, v))

/-- The members of an object with a name, in order. -/
def membersNamed (name : String) : Value → List Value
  | .object members => members.filterMap fun (n, v) => if n = name.toList then some v else none
  | _ => []

/-- The member of an object with a name; of several the last one. -/
def member? (name : String) (v : Value) : Option Value := (v.membersNamed name).getLast?

/-- Whether a value is null. -/
def isNull : Value → Bool
  | .null => true
  | _ => false

/-- The text that a value is. -/
def text? : Value → Option Text
  | .string t => some t
  | _ => none

/-- The items that a value holds. -/
def items? : Value → Option (List Value)
  | .array items => some items
  | _ => none

end Value

end Accessors.Json
