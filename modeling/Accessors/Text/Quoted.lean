import Accessors.Text.Basic
import Accessors.Text.HiddenTable

/-!
# Texts in quotes

A text as an error message shows it, so that what cannot be seen can still be read.

* `Text.isHidden`: characters that cannot be seen, or that change the one in front of them.
* `Text.shown`: a text in double quotes.
-/

namespace Accessors.Text

/-- Whether a character is shown by its number. -/
def isHidden (c : Char) : Bool :=
  HiddenTable.ranges.any fun (first, last) => first ≤ c.toNat && c.toNat ≤ last

/-- A character as it stands in quotes. -/
def shownChar (c : Char) : Text :=
  match c with
  | '\x22' => ['\\', '\x22']
  | '\\' => ['\\', '\\']
  | '\n' => ['\\', 'n']
  | '\r' => ['\\', 'r']
  | '\t' => ['\\', 't']
  | '\x00' => ['\\', '0']
  | _ =>
    if isHidden c then ['\\', 'u', '\x7b'] ++ Nat.toDigits 16 c.toNat ++ ['\x7d'] else [c]

/-- A text in double quotes. -/
def shown (t : Text) : Text := '\x22' :: t.flatMap shownChar ++ ['\x22']

end Accessors.Text
