import Accessors.Json.Value
import Accessors.Text.Number

/-!
# Writing JSON

* `Json.quoted`: a text in quotes.
* `Json.Value.compact`: a value without blanks.
* `Json.Value.pretty`: a value over several lines, indented by two spaces a level.
-/

namespace Accessors.Json

/-! ## Strings -/

/-- A hexadecimal digit. -/
def hexDigit (n : Nat) : Char := Nat.digitChar n

/-- A character as it stands in quotes. Quotes, backslashes and control characters are escaped. -/
def escaped (c : Char) : Text :=
  match c with
  | '\x22' => ['\\', '\x22']
  | '\\' => ['\\', '\\']
  | '\x08' => ['\\', 'b']
  | '\x0c' => ['\\', 'f']
  | '\n' => ['\\', 'n']
  | '\r' => ['\\', 'r']
  | '\t' => ['\\', 't']
  | _ =>
    if c.toNat < 0x20 then ['\\', 'u', '0', '0', hexDigit (c.toNat / 16), hexDigit (c.toNat % 16)]
    else [c]

/-- A text in quotes. -/
def quoted (t : Text) : Text := '\x22' :: t.flatMap escaped ++ ['\x22']

/-! ## One line -/

mutual

/-- A value without blanks. -/
def Value.compact : Value → Text
  | .null => "null".toList
  | .boolean true => "true".toList
  | .boolean false => "false".toList
  | .integer i => Text.ofInt i
  | .decimal literal => literal
  | .string t => quoted t
  | .array items => '[' :: Text.join [','] (compactItems items) ++ [']']
  | .object members => '\x7b' :: Text.join [','] (compactMembers members) ++ ['\x7d']

/-- The items of an array. -/
def compactItems : List Value → List Text
  | [] => []
  | v :: items => v.compact :: compactItems items

/-- The members of an object. -/
def compactMembers : List (Text × Value) → List Text
  | [] => []
  | (name, v) :: members => (quoted name ++ ':' :: v.compact) :: compactMembers members

end

/-! ## Several lines -/

/-- Parts between brackets, each on a line of its own; nothing between them stays on one line. -/
def bracketed (opening closing : Char) (level : Nat) (parts : List Text) : Text :=
  match parts with
  | [] => [opening, closing]
  | _ =>
    let margin := '\n' :: Text.spaces (2 * (level + 1))
    opening :: margin ++ Text.join (',' :: margin) parts ++ '\n' :: Text.spaces (2 * level) ++ [closing]

mutual

/-- A value over several lines, its first line already indented to a level. -/
def Value.prettyAt (level : Nat) : Value → Text
  | .array items => bracketed '[' ']' level (prettyItems (level + 1) items)
  | .object members => bracketed '\x7b' '\x7d' level (prettyMembers (level + 1) members)
  | .null => "null".toList
  | .boolean true => "true".toList
  | .boolean false => "false".toList
  | .integer i => Text.ofInt i
  | .decimal literal => literal
  | .string t => quoted t

/-- The items of an array. -/
def prettyItems (level : Nat) : List Value → List Text
  | [] => []
  | v :: items => v.prettyAt level :: prettyItems level items

/-- The members of an object. -/
def prettyMembers (level : Nat) : List (Text × Value) → List Text
  | [] => []
  | (name, v) :: members =>
    (quoted name ++ ": ".toList ++ v.prettyAt level) :: prettyMembers level members

end

/-- A value over several lines. -/
def Value.pretty (v : Value) : Text := v.prettyAt 0

end Accessors.Json
