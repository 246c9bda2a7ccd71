import Accessors.Diff.Script
import Accessors.Text.Number

/-!
# Unified differences

The changes between two texts as hunks with three lines of context.

* `Unified.hunks`: the operations of a script in groups.
* `Unified.render`: the difference as text.
-/

namespace Accessors.Unified

open Script (Op)

/-! ## Lines -/

/-- The lines of a text, each with its line break: a line feed, a carriage return, or both. -/
def linesOf : Text → List Text
  | [] => []
  | '\r' :: '\n' :: t => ['\r', '\n'] :: linesOf t
  | c :: t =>
    if c = '\n' || c = '\r' then [c] :: linesOf t
    else match linesOf t with
      | [] => [[c]]
      | line :: lines => (c :: line) :: lines

/-- Whether a line has a line break. -/
def isBroken (line : Text) : Bool :=
  match line.getLast? with
  | some c => c = '\n' || c = '\r'
  | none => false

/-! ## Hunks -/

/-- Lines of context around a change. -/
def radius : Nat := 3

/-- Cut equal lines at the front of a script down to the context. -/
def trimFront : List Op → List Op
  | .equal old new length :: ops =>
    let extra := length - radius
    .equal (old + extra) (new + extra) (length - extra) :: ops
  | ops => ops

/-- Cut equal lines at the back of a script down to the context. -/
def trimBack : List Op → List Op
  | [] => []
  | [.equal old new length] => [.equal old new (min length radius)]
  | op :: ops => op :: trimBack ops

/-- Split a script at long stretches of equal lines; `group` is the current group, last first. -/
def splitGroups (group : List Op) : List Op → List (List Op)
  | [] =>
    match group with
    | [] | [.equal _ _ _] => []
    | _ => [group.reverse]
  | .equal old new length :: ops =>
    if 2 * radius < length then
      (.equal old new radius :: group).reverse ::
        splitGroups [.equal (old + length - radius) (new + length - radius) radius] ops
    else splitGroups (.equal old new length :: group) ops
  | op :: ops => splitGroups (op :: group) ops

/-- The operations of a script in groups, each with its context. -/
def hunks (ops : List Op) : List (List Op) := splitGroups [] (trimBack (trimFront ops))

/-! ## Text -/

/-- A range of lines in a header. Lines count from one, a single line is given by its number
alone, and an empty range by the line in front of it. -/
def rangeText (start stop : Nat) : Text :=
  let length := stop - start
  if length = 1 then Text.ofNat (start + 1)
  else if length = 0 then Text.ofNat start ++ ",0".toList
  else Text.ofNat (start + 1) ++ [','] ++ Text.ofNat length

/-- The header of a hunk. -/
def header (first last : Op) : Text :=
  "@@ -".toList ++ rangeText first.oldStart last.oldStop ++ " +".toList ++
    rangeText first.newStart last.newStop ++ " @@\n".toList

/-- A line of a hunk. A line without a break is followed by two. -/
def hunkLine (sign : Char) (line : Text) : Text :=
  sign :: line ++ if isBroken line then [] else ['\n', '\n']

/-- Some lines of a hunk. -/
def hunkLines (sign : Char) (lines : List Text) (start length : Nat) : Text :=
  ((lines.drop start).take length).flatMap (hunkLine sign)

/-- The lines of an operation. -/
def opText (old new : List Text) : Op → Text
  | .equal o _ length => hunkLines ' ' old o length
  | .delete o length _ => hunkLines '-' old o length
  | .insert _ n length => hunkLines '+' new n length
  | .replace o oldLength n newLength =>
    hunkLines '-' old o oldLength ++ hunkLines '+' new n newLength

/-- A hunk with its header. -/
def hunkText (old new : List Text) (ops : List Op) : Text :=
  match ops.head?, ops.getLast? with
  | some first, some last => header first last ++ ops.flatMap (opText old new)
  | _, _ => []

/-- The difference of two texts of a file. -/
def render (path old new : Text) : Text :=
  let oldLines := linesOf old
  let newLines := linesOf new
  "--- a/".toList ++ path ++ "\n+++ b/".toList ++ path ++ ['\n'] ++
    (hunks (Script.compare oldLines newLines)).flatMap (hunkText oldLines newLines)

end Accessors.Unified
