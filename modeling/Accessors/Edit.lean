import Accessors.Text.Basic
import Accessors.Text.Number

/-!
# Edits

An edit replaces the bytes between two offsets of a text. Edits are collected first and applied as
one batch: the whole batch is checked, and then either every edit lands or none does.

* `Edit.replace`: an edit for a span; offsets are kept in 32 bits.
* `Edit.checkBatch`: the first fault of a batch, from the back of the text to its front.
* `Edit.applyAll`: apply a batch, back to front.
-/

namespace Accessors

/-- The replacement of a byte span by a text. -/
structure Edit where
  start : UInt32
  stop : UInt32
  replacement : Text
  /-- What the edit is for. -/
  message : Text
  deriving DecidableEq

/-- Why a batch of edits is refused. -/
inductive EditError where
  | overlapping (offset : Nat)
  | outOfBounds (start stop length : Nat)
  | notOnBoundary (start stop : Nat)
  deriving DecidableEq, Repr

/-- The text shown for a refused batch. -/
def EditError.message : EditError → Text
  | .overlapping offset => "Overlapping edits detected at offset ".toList ++ Text.ofNat offset
  | .outOfBounds start stop length =>
    "Edit span ".toList ++ Text.ofNat start ++ "..".toList ++ Text.ofNat stop ++
      " out of bounds for source length ".toList ++ Text.ofNat length
  | .notOnBoundary start stop =>
    "Edit span ".toList ++ Text.ofNat start ++ "..".toList ++ Text.ofNat stop ++
      " does not fall on a character boundary".toList

namespace Edit

/-- An edit of the bytes from `start` up to `stop`. Offsets are taken modulo `2 ^ 32`. -/
def replace (start stop : Nat) (replacement message : Text) : Edit :=
  ⟨UInt32.ofNat start, UInt32.ofNat stop, replacement, message⟩

/-- Where the edit starts. -/
def startOffset (e : Edit) : Nat := e.start.toNat

/-- Where the edit ends. -/
def stopOffset (e : Edit) : Nat := e.stop.toNat

/-- Whether the edit removes nothing. -/
def isInsertion (e : Edit) : Bool := e.startOffset == e.stopOffset

/-! ## Checking a batch -/

/-- The order in which a batch is checked and applied: later starts first, and of two edits with
one start the one that ends later first. -/
def laterFirst (a b : Edit) : Bool :=
  b.startOffset < a.startOffset || (b.startOffset == a.startOffset && b.stopOffset ≤ a.stopOffset)

/-- Check edits that are already ordered; `behind` is the start of the edit checked before. An
edit must not reach past that start, and an insertion must not share it. -/
def checkOrdered (source : Text) (behind : Option Nat) : List Edit → Except EditError Unit
  | [] => .ok ()
  | e :: es =>
    let start := e.startOffset
    let stop := e.stopOffset
    let length := Text.byteLength source
    if stop < start || length < stop then .error (.outOfBounds start stop length)
    else if ¬ (Text.IsBoundary source start ∧ Text.IsBoundary source stop) then
      .error (.notOnBoundary start stop)
    else if behind.any fun next => next < stop || (start == next && e.isInsertion) then
      .error (.overlapping start)
    else checkOrdered source (some start) es

/-- A batch in the order in which it is checked and applied. -/
def ordered (edits : List Edit) : List Edit := edits.mergeSort laterFirst

/-- Check a batch. -/
def checkBatch (source : Text) (edits : List Edit) : Except EditError Unit :=
  checkOrdered source none (ordered edits)

/-! ## Applying a batch -/

/-- The text after one edit. -/
def apply (source : Text) (e : Edit) : Text :=
  Text.takeBytes source e.startOffset ++ e.replacement ++ Text.dropBytes source e.stopOffset

/-- Apply a batch of edits to a text. -/
def applyAll (source : Text) (edits : List Edit) : Except EditError Text := do
  checkBatch source edits
  return (ordered edits).foldl apply source

end Edit

end Accessors
