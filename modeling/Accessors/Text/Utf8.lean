import Accessors.Text.Basic

/-!
# Bytes and text

* `Text.ofUtf8?`: the text that bytes encode in UTF-8, if they do.
* `Text.toUtf8`: the bytes of a text.
-/

namespace Accessors.Text

/-- The text that bytes encode. -/
def ofUtf8? (bytes : List UInt8) : Option Text :=
  (ByteArray.mk bytes.toArray).utf8Decode?.map Array.toList

/-- The bytes that encode a text. -/
def toUtf8 (t : Text) : List UInt8 := t.flatMap String.utf8EncodeChar

end Accessors.Text
