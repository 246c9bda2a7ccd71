import Accessors.Text.Basic

/-!
# Blank characters

The characters with the Unicode property White_Space, and trimming by it. Zero-width
characters such as U+200B and the byte order mark are not blank.

* `Text.isBlankChar`: the property.
* `Text.trim`, `Text.trimEnd`: a text without its surrounding or trailing blanks.
-/

namespace Accessors.Text

/-- The Unicode property White_Space. -/
def isBlankChar (c : Char) : Bool :=
  let n := c.toNat
  (9 ≤ n && n ≤ 13) || n == 0x20 || n == 0x85 || n == 0xA0 || n == 0x1680 ||
    (0x2000 ≤ n && n ≤ 0x200A) || n == 0x2028 || n == 0x2029 || n == 0x202F || n == 0x205F ||
    n == 0x3000

/-- A text without its leading blanks. -/
def trimStart (t : Text) : Text := t.dropWhile isBlankChar

/-- A text without its trailing blanks. -/
def trimEnd (t : Text) : Text := (t.reverse.dropWhile isBlankChar).reverse

/-- A text without its surrounding blanks. -/
def trim (t : Text) : Text := trimEnd (trimStart t)

/-- Whether a text holds blanks only. -/
def isBlank (t : Text) : Bool := t.all isBlankChar

end Accessors.Text
