import Accessors.Json.Printer
import Accessors.Server.Uri
import Accessors.Text.Quoted

/-!
# Shapes of parameters

What the parameters of a message have to look like, and what is said about those that do not.

* `Shape`: the shape of a value.
* `Shape.problem?`: what is wrong with a value.
* `Shape.parameters?`: what is wrong with the parameters of a message, which may be missing.
-/

namespace Accessors

open Json (Value)

/-- Whether a field of a record has to be there. One that has not may also be null. -/
inductive Presence where
  | required
  | optional
  /-- Optional, also at its place in a list of the fields. -/
  | defaulted
  deriving DecidableEq, Repr

/-- The shape of a value. -/
inductive Shape where
  | anything
  | text
  | uri
  /-- An integer between two bounds, with the name of its type. -/
  | integer (type : String) (low high : Int)
  /-- One of some words. -/
  | choice (words : List String)
  | list (s : Shape)
  /-- Named fields. A record that is not open may be given as the list of its fields. -/
  | record (type : String) (isOpen : Bool) (fields : List (String × Presence × Shape))

namespace Shape

/-! ## Wording -/

/-- A kind of value as a message names it. -/
def kindOf : Value → Text
  | .null => "null".toList
  | .boolean b => "boolean ".toList ++ ticked (if b then "true".toList else "false".toList)
  | .integer i => "integer ".toList ++ ticked (Text.ofInt i)
  | .decimal literal => "floating point ".toList ++ ticked literal
  | .string t => "string ".toList ++ Text.shown t
  | .array _ => "sequence".toList
  | .object _ => "map".toList
where
  /-- A text between backticks. -/
  ticked (t : Text) : Text := '\x60' :: t ++ ['\x60']

/-- A value of another kind than the one expected. -/
def wrongKind (v : Value) (expected : String) : Text :=
  "invalid type: ".toList ++ kindOf v ++ ", expected ".toList ++ expected.toList

/-- A value of the right kind that is not allowed. -/
def wrongValue (v : Value) (expected : String) : Text :=
  "invalid value: ".toList ++ kindOf v ++ ", expected ".toList ++ expected.toList

/-- A list of the wrong length. -/
def wrongLength (length : Nat) (expected : Text) : Text :=
  "invalid length ".toList ++ Text.ofNat length ++ ", expected ".toList ++ expected

/-- A word that is none of those expected. -/
def unknownWord (t : Text) (words : List String) : Text :=
  "unknown variant ".toList ++ kindOf.ticked t ++ ", expected one of ".toList ++
    Text.join ", ".toList (words.map fun w => kindOf.ticked w.toList)

/-- A field that is not there. -/
def missing (name : String) : Text := "missing field ".toList ++ kindOf.ticked name.toList

/-- What is wrong with an identifier. -/
def uriProblem (e : UriError) (t : Text) : Text := e.message ++ ": ".toList ++ Text.shown t

/-! ## Checking -/

/-- The problem of the member whose name comes first. -/
def firstByName (problems : List (String × Text)) : Option Text :=
  (problems.mergeSort fun a b => decide (a.1 ≤ b.1)).head?.map (·.2)

/-- The first of the required fields that an object does not have. -/
def missingField? (fields : List (String × Presence × Shape)) (v : Value) : Option Text :=
  fields.findSome? fun (name, presence, _) =>
    if presence = Presence.required && (v.member? name).isNone then some (missing name) else none

mutual

/-- What is wrong with a value. -/
def problem? : Shape → Value → Option Text
  | .anything, _ => none
  | .text, .string _ => none
  | .text, v => some (wrongKind v "a string")
  | .uri, .string t =>
    match Uri.parse t with
    | .ok _ => none
    | .error e => some (uriProblem e t)
  | .uri, v => some (wrongKind v "a string representing an URL")
  | .integer type low high, .integer i =>
    if low ≤ i ∧ i ≤ high then none else some (wrongValue (.integer i) type)
  | .integer type _ _, v => some (wrongKind v type)
  | .choice words, .string t =>
    if words.any fun w => w.toList = t then none else some (unknownWord t words)
  | .choice _, .object members =>
    some (wrongValue (.object members) "map with a single key")
  | .choice _, v => some (wrongKind v "string or map")
  | .list s, .array items => items.findSome? s.problem?
  | .list _, v => some (wrongKind v "a sequence")
  | .record _ _ fields, .object members =>
    match firstByName (fieldProblems fields (.object members)) with
    | some problem => some problem
    | none => missingField? fields (.object members)
  | .record type true _, v => some (wrongKind v ("struct " ++ type))
  | .record type false fields, .array items =>
    itemProblem? ("struct ".toList ++ type.toList ++ " with ".toList ++
      Text.ofNat fields.length ++ " elements".toList) items.length 0 fields items
  | .record type false _, v => some (wrongKind v ("struct " ++ type))

/-- What is wrong with the fields that an object has, by name. -/
def fieldProblems : List (String × Presence × Shape) → Value → List (String × Text)
  | [], _ => []
  | (name, presence, s) :: fields, v =>
    let found := do
      let member ← v.member? name
      if presence ≠ Presence.required && member.isNull then none else s.problem? member
    (found.map (name, ·)).toList ++ fieldProblems fields v

/-- What is wrong with the fields of a record that is given as a list. -/
def itemProblem? (expected : Text) (total index : Nat) :
    List (String × Presence × Shape) → List Value → Option Text
  | [], [] => none
  | [], _ :: _ => some (wrongLength total "fewer elements in array".toList)
  | (_, presence, _) :: fields, [] =>
    if presence = Presence.defaulted then itemProblem? expected total (index + 1) fields []
    else some (wrongLength index expected)
  | (_, presence, s) :: fields, v :: items =>
    let found := if presence ≠ Presence.required && v.isNull then none else s.problem? v
    found.or (itemProblem? expected total (index + 1) fields items)

end

/-- What is wrong with the parameters of a message. -/
def parameters? (s : Shape) : Option Value → Option Text
  | none => some "Missing params field".toList
  | some v => s.problem? v

end Shape

end Accessors
