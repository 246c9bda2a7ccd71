import Accessors.Text.Number
import Accessors.Text.Utf8

/-!
# Percent signs in identifiers

A character that may not stand in a part of an identifier is written as the bytes of its UTF-8
form, each with a percent sign and two hexadecimal digits.

* `Uri.escape`: write the characters of a class with percent signs.
* `Uri.unescape`: the bytes of a text with percent signs.
* `Uri.escapedInPath` and its neighbours: the classes, one for each part of an identifier.
-/

namespace Accessors.Uri

/-- A byte written with a percent sign and two digits. -/
def percentByte (b : UInt8) : Text :=
  let digit (n : Nat) : Char := (Nat.digitChar n).toUpper
  ['%', digit (b.toNat / 16), digit (b.toNat % 16)]

/-- Write the characters of a class, the control characters and all beyond ASCII with percent
signs. -/
def escape (isEscaped : Char → Bool) (t : Text) : Text :=
  t.flatMap fun c =>
    if c.toNat < 0x20 || 0x7E < c.toNat || isEscaped c then
      (Text.toUtf8 [c]).flatMap percentByte
    else [c]

/-- The bytes of a text, those written with percent signs among them. A percent sign without two
digits stands for itself. -/
def unescape : Text → List UInt8
  | [] => []
  | '%' :: a :: b :: t =>
    if Text.isHexDigit a && Text.isHexDigit b then (Text.valueOf 16 [a, b]).toUInt8 :: unescape t
    else Text.toUtf8 ['%'] ++ unescape (a :: b :: t)
  | c :: t => Text.toUtf8 [c] ++ unescape t

/-! ## Classes -/

/-- The characters that are escaped in a fragment. -/
def escapedInFragment (c : Char) : Bool :=
  c = ' ' || c = '\x22' || c = '<' || c = '>' || c = '\x60'

/-- The characters that are escaped in a path with slashes. -/
def escapedInPath (c : Char) : Bool :=
  escapedInFragment c || c = '#' || c = '?' || c = '\x7b' || c = '\x7d'

/-- The characters that are escaped in the name of a user. -/
def escapedInUser (c : Char) : Bool := escapedInPath c || "/:;=@[\\]^|".toList.contains c

/-- The characters that are escaped in a query; an apostrophe only under the schemes of the web. -/
def escapedInQuery (special : Bool) (c : Char) : Bool :=
  c = ' ' || c = '\x22' || c = '<' || c = '>' || c = '#' || (special && c = '\x27')

end Accessors.Uri
