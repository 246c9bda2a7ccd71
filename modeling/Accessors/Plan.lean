import Accessors.Accessor
import Accessors.Document
import Accessors.Edit

/-!
# Planning

Where the generated methods of a class go and what is inserted there. The methods stand right
before the closing brace of the class. If the line above the brace holds code they are appended
after it; if it is blank, the run of blank lines above the brace is replaced. A class that ends on
the line where it starts is opened up in place.

* `Plan.insertionPoint`: where the methods go and how many line breaks precede them.
* `Plan.planClass`, `Plan.planAll`: the planned edits.
* `PlannedEdit.toEdit`: a planned edit as a byte-span edit.
-/

namespace Accessors

/-- Where a planned edit lands. -/
inductive InsertAt where
  | point (p : Position)
  | range (r : Range)
  deriving DecidableEq, Repr

/-- The stretch of the document that is replaced. -/
def InsertAt.span : InsertAt → Range
  | .point p => ⟨p, p⟩
  | .range r => r

/-- The generated text of one class. -/
structure PlannedEdit where
  className : Text
  insertAt : InsertAt
  text : Text
  /-- Names of the generated methods in the order of the text. -/
  methods : List Text
  deriving DecidableEq, Repr

namespace PlannedEdit

/-- The line a summary names, counted from one. -/
def lineNumber (e : PlannedEdit) : Nat := e.insertAt.span.start.line + 1

/-- The planned edit as a byte-span edit of the document it was planned for. -/
def toEdit (d : Document) (e : PlannedEdit) : Edit :=
  let span := e.insertAt.span
  Edit.replace (d.offsetAt span.start) (d.offsetAt span.stop) e.text
    ("Generate ".toList ++ Text.join ", ".toList e.methods ++ " in ".toList ++ e.className)

end PlannedEdit

namespace Plan

/-! ## Insertion points -/

/-- The first line of the run of blank lines that ends at a line, without going above `floor`. -/
def blankRunStart (d : Document) (floor : Nat) : Nat → Nat
  | 0 => 0
  | n + 1 => if floor < n + 1 ∧ d.isBlank n then blankRunStart d floor n else n + 1

/-- The point right before a closing brace that shares its line with the start of the class. The
blanks in front of the brace are dropped. -/
def inlinePoint (c : ClassModel) (d : Document) : InsertAt :=
  let before := ((d.line? c.endLine).getD []).take c.endColumn
  let column := (Text.trimEnd before).length
  let brace : Position := ⟨c.endLine, c.endColumn⟩
  if column = c.endColumn then .point brace else .range ⟨⟨c.endLine, column⟩, brace⟩

/-- Where the methods of a class go, and how many line breaks precede them. -/
def insertionPoint (tabSize : Nat) (c : ClassModel) (d : Document) : InsertAt × Nat :=
  if c.endLine ≤ c.startLine then (inlinePoint c d, 2)
  else
    let anchor := c.endLine - 1
    if d.isBlank anchor then
      let first := blankRunStart d (c.startLine + 1) anchor
      (.range ⟨⟨first, tabSize⟩, ⟨anchor, tabSize⟩⟩, 1)
    else (.point ⟨anchor, d.lineLength anchor⟩, 2)

/-! ## Planned edits -/

/-- The text of methods after some line breaks. Of two line breaks at the end one is dropped. -/
def insertedText (eol : Text) (breaks : Nat) (body : Text) : Text :=
  let text := Text.times breaks eol ++ body
  if Text.endsWith text (eol ++ eol) then text.take (text.length - eol.length) else text

/-- The edit planned for a class, if it lacks an accessor. -/
def planClass (kinds : Kinds) (tabSize : Nat) (d : Document) (c : ClassModel) :
    Option PlannedEdit :=
  match c.missing kinds with
  | [] => none
  | accessors =>
    let eol := d.lineEnding.text
    let (insertAt, breaks) := insertionPoint tabSize c d
    some
      { className := c.name
        insertAt
        text := insertedText eol breaks (accessors.flatMap (Accessor.block tabSize eol))
        methods := accessors.map Accessor.name }

/-- The edits planned for a list of classes. -/
def planAll (kinds : Kinds) (tabSize : Nat) (d : Document) (classes : List ClassModel) :
    List PlannedEdit :=
  classes.filterMap (planClass kinds tabSize d)

end Plan

end Accessors
