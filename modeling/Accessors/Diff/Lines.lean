import Accessors.Text.Basic

/-!
# Line differences

The lines that two texts do not have in common, by a longest common subsequence of their lines.
Within a changed stretch the removed lines stand before the added ones.

* `LineDiff.lcsTable`: lengths of longest common subsequences.
* `LineDiff.compare`: both texts line by line.
-/

namespace Accessors.LineDiff

/-- A line of the comparison of two texts. -/
inductive Entry where
  | removed (line : Text)
  | added (line : Text)
  | kept (line : Text)
  deriving DecidableEq, Repr

/-! ## Longest common subsequences -/

/-- One row of the table behind its first cell: the cell to the left, the cells of the row above
from the one diagonally above on, and the lines of the columns. -/
def nextCells (x : Text) (left : Nat) : List Nat → List Text → List Nat
  | diagonal :: above :: row, y :: ys =>
    let cell := if x = y then diagonal + 1 else max above left
    cell :: nextCells x cell (above :: row) ys
  | _, _ => []

/-- The rows of the table below a given row. -/
def lcsRows (row : List Nat) (ys : List Text) : List Text → List (List Nat)
  | [] => [row]
  | x :: xs => row :: lcsRows (0 :: nextCells x 0 row ys) ys xs

/-- The table whose cell at `i`, `j` is the length of a longest common subsequence of the first
`i` and the first `j` lines. -/
def lcsTable (xs ys : List Text) : Array (Array Nat) :=
  ((lcsRows (List.replicate (ys.length + 1) 0) ys xs).map List.toArray).toArray

/-- A cell of a table. -/
def cell (table : Array (Array Nat)) (i j : Nat) : Nat := (table.getD i #[]).getD j 0

/-- Walk the table back from a cell; the lines in front of the cell are given nearest first. -/
def walkBack (table : Array (Array Nat)) : Nat → List Text → List Text → List Entry → List Entry
  | 0, _, _, acc => acc
  | _ + 1, [], [], acc => acc
  | fuel + 1, [], y :: ys, acc => walkBack table fuel [] ys (.added y :: acc)
  | fuel + 1, x :: xs, [], acc => walkBack table fuel xs [] (.removed x :: acc)
  | fuel + 1, x :: xs, y :: ys, acc =>
    let i := xs.length + 1
    let j := ys.length + 1
    if cell table i j = cell table i (j - 1) then
      walkBack table fuel (x :: xs) ys (.added y :: acc)
    else if cell table i j = cell table (i - 1) j then
      walkBack table fuel xs (y :: ys) (.removed x :: acc)
    else walkBack table fuel xs ys (.kept x :: acc)

/-- The comparison of two lists of lines that start and end differently. -/
def compareMiddle (xs ys : List Text) : List Entry :=
  walkBack (lcsTable xs ys) (xs.length + ys.length) xs.reverse ys.reverse []

/-! ## Texts -/

/-- Number of lines two lists have in common at the front. -/
def commonFront : List Text → List Text → Nat
  | x :: xs, y :: ys => if x = y then commonFront xs ys + 1 else 0
  | _, _ => 0

/-- The comparison of two lists of lines. -/
def compareLines (xs ys : List Text) : List Entry :=
  let front := commonFront xs ys
  let xs' := xs.drop front
  let ys' := ys.drop front
  let back := commonFront xs'.reverse ys'.reverse
  (xs.take front).map .kept ++
    compareMiddle (xs'.take (xs'.length - back)) (ys'.take (ys'.length - back)) ++
    (xs'.drop (xs'.length - back)).map .kept

/-- A line without the carriage return of its line break. -/
def stripReturn (line : Text) : Text :=
  match line.getLast? with
  | some '\r' => line.dropLast
  | _ => line

/-- The lines of a text without their line breaks; a break at the end starts no line. -/
def linesOf (t : Text) : List Text :=
  let pieces := Text.splitOn '\n' t
  let broken := pieces.dropLast.map stripReturn
  match pieces.getLast? with
  | none | some [] => broken
  | some last => broken ++ [last]

/-- Whether a text ends with a line feed. -/
def endsLine (t : Text) : Bool := t.getLast? = some '\n'

/-- The comparison of two texts. A line feed at the end counts as one more, empty line. -/
def compare (old new : Text) : List Entry :=
  compareLines (linesOf old) (linesOf new) ++
    match endsLine old, endsLine new with
    | true, true => [.kept []]
    | true, false => [.removed []]
    | false, true => [.added []]
    | false, false => []

end Accessors.LineDiff
