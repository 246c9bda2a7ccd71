import Accessors.Text.Basic

/-!
# Readers

Reading a text from the front.

* `Reader`: a step that fails, or gives a result and the text behind what it took.
* `Reader.accept`, `Reader.expect`: a given text that may, or must, stand at the front.
* `Reader.takeWhile`: the characters of a class.
-/

namespace Accessors

/-- A reader: it fails, or it gives a result and the text behind what it took. -/
abbrev Reader (α : Type) := StateT Text Option α

namespace Reader

/-- The reader that always fails. -/
def refuse {α : Type} : Reader α := fun _ => none

/-- Take a text off the front if it stands there. -/
def accept (expected : Text) : Reader Bool := do
  let t ← get
  if expected.isPrefixOf t then
    set (t.drop expected.length)
    return true
  else return false

/-- Take a text off the front, where it must stand. -/
def expect (expected : Text) : Reader Unit := do
  if ← accept expected then return () else refuse

/-- Take the characters of a class off the front. -/
def takeWhile (p : Char → Bool) : Reader Text := do
  let t ← get
  set (t.dropWhile p)
  return t.takeWhile p

end Reader

end Accessors
