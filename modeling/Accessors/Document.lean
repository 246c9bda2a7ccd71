import Accessors.Text.Basic
import Accessors.Text.Blank

/-!
# Documents

A document is a text seen line by line. Only a line feed ends a line, and one carriage return in
front of it is not part of the line. Lines and columns count from zero, and columns count
characters.

* `Document.ofText`: a text as a document.
* `Document.line?`, `Document.isBlank`, `Document.lineLength`: one line.
* `Document.lineEnding`: the line break the document uses.
* `Document.offsetAt`: the byte offset of a position, clamped to the document.
* `Document.positionAt`: the position of a byte offset.
* `Document.unitPosition`: a position with its column counted in UTF-16 code units.
-/

namespace Accessors

/-- A line and a column in it. -/
structure Position where
  line : Nat
  column : Nat
  deriving DecidableEq, Repr

/-- The stretch from one position up to another. -/
structure Range where
  start : Position
  stop : Position
  deriving DecidableEq, Repr

/-- How lines end. -/
inductive LineEnding where
  | lf
  | crlf
  deriving DecidableEq, Repr

/-- The characters of a line break. -/
def LineEnding.text : LineEnding → Text
  | .lf => ['\n']
  | .crlf => ['\r', '\n']

/-- A text that is read line by line. Its lines are kept beside it. -/
structure Document where
  text : Text
  /-- The lines between line feeds, each with its carriage return if it has one. -/
  rawLines : List Text
  rawLines_eq : rawLines = Text.splitOn '\n' text

namespace Document

/-- A text as a document. -/
def ofText (t : Text) : Document := ⟨t, Text.splitOn '\n' t, rfl⟩

@[simp] theorem text_ofText (t : Text) : (ofText t).text = t := rfl

/-! ## Lines -/

/-- A line without one carriage return at its end. -/
def stripReturn (line : Text) : Text :=
  match line.getLast? with
  | some '\r' => line.dropLast
  | _ => line

/-- The text of a line. -/
def line? (d : Document) (n : Nat) : Option Text := d.rawLines[n]?.map stripReturn

/-- Whether a line is empty or blank; lines past the end count as blank. -/
def isBlank (d : Document) (n : Nat) : Bool :=
  match d.line? n with
  | none => true
  | some line => Text.isBlank line

/-- Number of characters of a line, zero past the end. -/
def lineLength (d : Document) (n : Nat) : Nat := ((d.line? n).getD []).length

/-- The line break of the document, taken from its first line. -/
def lineEnding (d : Document) : LineEnding :=
  match d.rawLines with
  | first :: _ :: _ => if first.getLast? = some '\r' then .crlf else .lf
  | _ => .lf

/-! ## Offsets and positions -/

/-- Byte offset at which a line starts, if there is such a line. -/
def lineStartIn : List Text → Nat → Option Nat
  | [], _ => none
  | _ :: _, 0 => some 0
  | line :: lines, n + 1 => (lineStartIn lines n).map (Text.byteLength line + 1 + ·)

/-- Byte offset of a position. A line past the end stands for the end of the document, and a
column past the end of its line for the end of that line. -/
def offsetAt (d : Document) (p : Position) : Nat :=
  match lineStartIn d.rawLines p.line, d.line? p.line with
  | some start, some line => start + Text.byteLength (line.take p.column)
  | _, _ => Text.byteLength d.text

/-- Position of a byte offset among lines. The last line takes every offset left. -/
def positionIn : List Text → Nat → Position
  | [], _ => ⟨0, 0⟩
  | [line], offset => ⟨0, (Text.takeBytes line offset).length⟩
  | line :: next :: lines, offset =>
    if offset ≤ Text.byteLength line then ⟨0, (Text.takeBytes line offset).length⟩
    else
      let below := positionIn (next :: lines) (offset - (Text.byteLength line + 1))
      ⟨below.line + 1, below.column⟩

/-- Position of a byte offset; an offset past the end stands for the end. -/
def positionAt (d : Document) (offset : Nat) : Position := positionIn d.rawLines offset

/-- Position of a byte offset that does not fall inside a character. -/
def positionAt? (d : Document) (offset : Nat) : Option Position :=
  if Text.IsBoundary d.text (min offset (Text.byteLength d.text)) then some (d.positionAt offset)
  else none

/-- A position clamped to the document, its column counted in UTF-16 code units. -/
def unitPosition (d : Document) (p : Position) : Position :=
  let offset := d.offsetAt p
  let clamped := d.positionAt offset
  let start := d.offsetAt ⟨clamped.line, 0⟩
  ⟨clamped.line, Text.unitLength (Text.sliceBytes d.text start offset)⟩

end Document

end Accessors
