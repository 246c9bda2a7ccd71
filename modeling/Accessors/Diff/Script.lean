import Accessors.Text.Basic

/-!
# Edit scripts

A shortest script of deletions and insertions that turns one list of lines into another. The script
is found by divide and conquer: searches from both ends meet in the middle of a shortest path.
Afterwards insertions are moved down as far as equal lines allow.

* `Script.Op`: the operations.
* `Script.middle?`: where the searches from both ends meet.
* `Script.conquer`: the operations between two places.
* `Script.compact`: moving insertions.
* `Script.compare`: the script for two lists of lines.
-/

namespace Accessors.Script

/-- An operation on lines: where it starts in the old and in the new list, and how many lines it
covers. -/
inductive Op where
  | equal (old new length : Nat)
  | delete (old length new : Nat)
  | insert (old new length : Nat)
  | replace (old oldLength new newLength : Nat)
  deriving DecidableEq, Repr

namespace Op

/-- Where an operation starts in the old list. -/
def oldStart : Op → Nat
  | .equal old _ _ | .delete old _ _ | .insert old _ _ | .replace old _ _ _ => old

/-- How many old lines an operation covers. -/
def oldLength : Op → Nat
  | .equal _ _ length | .delete _ length _ | .replace _ length _ _ => length
  | .insert _ _ _ => 0

/-- Where an operation starts in the new list. -/
def newStart : Op → Nat
  | .equal _ new _ | .delete _ _ new | .insert _ new _ | .replace _ _ new _ => new

/-- How many new lines an operation covers. -/
def newLength : Op → Nat
  | .equal _ _ length | .insert _ _ length | .replace _ _ _ length => length
  | .delete _ _ _ => 0

/-- Where an operation ends in the old list. -/
def oldStop (o : Op) : Nat := o.oldStart + o.oldLength

/-- Where an operation ends in the new list. -/
def newStop (o : Op) : Nat := o.newStart + o.newLength

/-- Whether an operation covers nothing. -/
def isEmpty (o : Op) : Bool := o.oldLength == 0 && o.newLength == 0

end Op

/-- The two lists a script is about. -/
structure Sides where
  old : Array Text
  new : Array Text

namespace Sides

/-- Whether the lines at two places are equal. -/
def agree (s : Sides) (i j : Nat) : Bool := s.old.getD i [] = s.new.getD j []

/-- How many lines agree from two places on, at most `limit`. -/
def agreeingFrom (s : Sides) (i j : Nat) : Nat → Nat
  | 0 => 0
  | limit + 1 => if s.agree i j then s.agreeingFrom (i + 1) (j + 1) limit + 1 else 0

/-- How many lines agree in front of two places, at most `limit`. -/
def agreeingBefore (s : Sides) (i j : Nat) : Nat → Nat
  | 0 => 0
  | limit + 1 =>
    if s.agree (i - 1) (j - 1) then s.agreeingBefore (i - 1) (j - 1) limit + 1 else 0

end Sides

/-! ## Meeting in the middle -/

/-- A stretch of the old list and a stretch of the new one. -/
structure Box where
  oldStart : Nat
  oldStop : Nat
  newStart : Nat
  newStop : Nat

/-- Whether a place lies in a box. -/
def Box.holds (b : Box) (place : Nat × Nat) : Bool :=
  b.oldStart ≤ place.1 && place.1 ≤ b.oldStop && b.newStart ≤ place.2 && place.2 ≤ b.newStop

/-- The operations that delete the old lines of a box and insert the new ones. -/
def Box.replaced (b : Box) : List Op :=
  [.delete b.oldStart (b.oldStop - b.oldStart) b.newStart,
    .insert b.oldStart b.newStart (b.newStop - b.newStart)]

/-- The furthest place reached on each diagonal; diagonals count from `-size` up to `size`. -/
structure Frontier where
  size : Nat
  reached : Array Nat

/-- A frontier on which nothing is reached yet. -/
def Frontier.start (size : Nat) : Frontier := ⟨size, Array.replicate (2 * size + 2) 0⟩

/-- The place reached on a diagonal. -/
def Frontier.get (f : Frontier) (k : Int) : Nat := f.reached.getD (f.size + k).toNat 0

/-- Record the place reached on a diagonal. -/
def Frontier.set (f : Frontier) (k : Int) (x : Nat) : Frontier :=
  ⟨f.size, f.reached.setIfInBounds (f.size + k).toNat x⟩

/-- Where the next path on a diagonal starts: one insertion or one deletion behind the better of
its neighbours. -/
def Frontier.advance (f : Frontier) (d : Nat) (k : Int) : Nat :=
  if k = -(d : Int) || (k ≠ (d : Int) && f.get (k - 1) < f.get (k + 1)) then f.get (k + 1)
  else f.get (k - 1) + 1

/-- The diagonals that paths of `d` edits can end on, from the last one down. -/
def diagonals (d : Nat) : List Int := (List.range (d + 1)).map fun (i : Nat) => (d : Int) - 2 * i

/-- Extend the paths from the front by one edit. An exception is the place where a path meets one
from the back. -/
def forward (s : Sides) (b : Box) (d : Nat) (vf vb : Frontier) : Except (Nat × Nat) Frontier :=
  let n := b.oldStop - b.oldStart
  let m := b.newStop - b.newStart
  let delta : Int := n - m
  (diagonals d).foldlM
    (fun vf k =>
      let x := vf.advance d k
      let y := ((x : Int) - k).toNat
      let run :=
        if x < n && y < m then s.agreeingFrom (b.oldStart + x) (b.newStart + y) (min (n - x) (m - y))
        else 0
      let vf := vf.set k (x + run)
      if delta % 2 ≠ 0 && (k - delta).natAbs < d && n ≤ x + run + vb.get (-(k - delta)) then
        .error (b.oldStart + x, b.newStart + y)
      else .ok vf)
    vf

/-- Extend the paths from the back by one edit. -/
def backward (s : Sides) (b : Box) (d : Nat) (vf vb : Frontier) : Except (Nat × Nat) Frontier :=
  let n := b.oldStop - b.oldStart
  let m := b.newStop - b.newStart
  let delta : Int := n - m
  (diagonals d).foldlM
    (fun vb k =>
      let x := vb.advance d k
      let y := ((x : Int) - k).toNat
      let run :=
        if x < n && y < m then
          s.agreeingBefore (b.oldStart + n - x) (b.newStart + m - y) (min (n - x) (m - y))
        else 0
      let vb := vb.set k (x + run)
      if delta % 2 = 0 && (k - delta).natAbs ≤ d && n ≤ x + run + vf.get (-(k - delta)) then
        .error (b.oldStart + (n - (x + run)), b.newStart + (m - (y + run)))
      else .ok vb)
    vb

/-- A place on a shortest path in the middle of a box. -/
def middle? (s : Sides) (b : Box) : Option (Nat × Nat) :=
  let n := b.oldStop - b.oldStart
  let m := b.newStop - b.newStart
  let size := (n + m + 1) / 2 + 1
  let search : Except (Nat × Nat) (Frontier × Frontier) :=
    (List.range size).foldlM
      (fun (vf, vb) d => do
        let vf ← forward s b d vf vb
        let vb ← backward s b d vf vb
        return (vf, vb))
      (Frontier.start (size + 1), Frontier.start (size + 1))
  match search with
  | .error place => if b.holds place then some place else none
  | .ok _ => none

/-! ## Divide and conquer -/

/-- The operations between the corners of a box. Both parts of a box are smaller than the box, so
that its size bounds the depth. -/
def conquer (s : Sides) : Nat → Box → List Op
  | 0, b => b.replaced
  | fuel + 1, b =>
    let front := s.agreeingFrom b.oldStart b.newStart
      (min (b.oldStop - b.oldStart) (b.newStop - b.newStart))
    let i := b.oldStart + front
    let j := b.newStart + front
    let back := s.agreeingBefore b.oldStop b.newStop (min (b.oldStop - i) (b.newStop - j))
    let i' := b.oldStop - back
    let j' := b.newStop - back
    let inner : List Op :=
      if i' ≤ i && j' ≤ j then []
      else if j' ≤ j then [.delete i (i' - i) j]
      else if i' ≤ i then [.insert i j (j' - j)]
      else match middle? s ⟨i, i', j, j'⟩ with
        | some (x, y) => conquer s fuel ⟨i, x, j, y⟩ ++ conquer s fuel ⟨x, i', y, j'⟩
        | none => Box.replaced ⟨i, i', j, j'⟩
    (if 0 < front then [.equal b.oldStart b.newStart front] else []) ++ inner ++
      (if 0 < back then [.equal i' j' back] else [])

/-! ## Moving insertions -/

/-- An operation among others: those before it, nearest first, and those behind it. -/
structure Focus where
  before : List Op
  this : Op
  after : List Op

/-- Equal lines put in front of operations, joined with equal lines that already stand there. -/
def consEqual (old new length : Nat) : List Op → List Op
  | .equal o n l :: ops => .equal (o - length) (n - length) (l + length) :: ops
  | ops => .equal old new length :: ops

/-- Move an operation up: insertions past equal lines that agree with them, deletions and
insertions past each other. Operations of one kind that meet become one. -/
def moveUp (s : Sides) : Nat → Focus → Focus
  | 0, f => f
  | fuel + 1, f =>
    match f.this, f.before with
    | .insert old new length, .equal o n l :: before =>
      let run := s.agreeingBefore (o + l) (new + length) (min l length)
      if 0 < run then
        moveUp s fuel
          { before := if run = l then before else .equal o n (l - run) :: before
            this := .insert (old - run) (new - run) length
            after := consEqual (o + l - run) (new + length - run) run f.after }
      else f
    | .insert old new length, .delete o l n :: before =>
      moveUp s fuel ⟨before, .insert old new length, .delete o l n :: f.after⟩
    | .delete old length new, .insert o n l :: before =>
      moveUp s fuel ⟨before, .delete old length new, .insert o n l :: f.after⟩
    | .insert _ _ length, .insert o n l :: before =>
      moveUp s fuel ⟨before, .insert o n (l + length), f.after⟩
    | .delete _ length _, .delete o l n :: before =>
      moveUp s fuel ⟨before, .delete o (l + length) n, f.after⟩
    | _, _ => f

/-- Equal lines put behind operations that are given nearest first. -/
def snocEqual (old new length : Nat) : List Op → List Op
  | .equal o n l :: ops => .equal o n (l + length) :: ops
  | ops => .equal old new length :: ops

/-- Move an operation down, by the rules by which it is moved up. -/
def moveDown (s : Sides) : Nat → Focus → Focus
  | 0, f => f
  | fuel + 1, f =>
    match f.this, f.after with
    | .insert old new length, .equal o n l :: after =>
      let run := s.agreeingFrom o new (min l length)
      if 0 < run then
        moveDown s fuel
          { before := snocEqual o new run f.before
            this := .insert (old + run) (new + run) length
            after := if run = l then after else .equal (o + run) (n + run) (l - run) :: after }
      else f
    | .insert old new length, .delete o l n :: after =>
      moveDown s fuel ⟨.delete o l n :: f.before, .insert old new length, after⟩
    | .delete old length new, .insert o n l :: after =>
      moveDown s fuel ⟨.insert o n l :: f.before, .delete old length new, after⟩
    | .insert o n length, .insert _ _ l :: after =>
      moveDown s fuel ⟨f.before, .insert o n (length + l), after⟩
    | .delete o length n, .delete _ l _ :: after =>
      moveDown s fuel ⟨f.before, .delete o (length + l) n, after⟩
    | _, _ => f

/-- Whether an operation only deletes. -/
def isDelete : Op → Bool
  | .delete _ _ _ => true
  | _ => false

/-- Whether an operation only inserts. -/
def isInsert : Op → Bool
  | .insert _ _ _ => true
  | _ => false

/-- Move the operations of a kind, one after the other; `before` is what is already passed. -/
def moveAll (s : Sides) (limit : Nat) (moves : Op → Bool) : Nat → List Op → List Op → List Op
  | 0, before, ops => before.reverse ++ ops
  | _ + 1, before, [] => before.reverse
  | fuel + 1, before, op :: ops =>
    if moves op then
      let f := moveDown s limit (moveUp s limit ⟨before, op, ops⟩)
      moveAll s limit moves fuel (f.this :: f.before) f.after
    else moveAll s limit moves fuel (op :: before) ops

/-- Move the deletions and then the insertions of a script. -/
def compact (s : Sides) (ops : List Op) : List Op :=
  let limit := 4 * (s.old.size + s.new.size + ops.length) + 4
  let ops := moveAll s limit isDelete limit [] ops
  moveAll s limit isInsert limit [] ops

/-! ## Joining -/

/-- Deletions and insertions met since the last equal lines. -/
structure Pending where
  delete : Option (Nat × Nat × Nat)
  insert : Option (Nat × Nat × Nat)

/-- The operation that pending ones amount to. -/
def Pending.flush (p : Pending) : List Op :=
  match p.delete, p.insert with
  | some (old, length, _), some (_, new, newLength) => [.replace old length new newLength]
  | some (old, length, new), none => [.delete old length new]
  | none, some (old, new, length) => [.insert old new length]
  | none, none => []

/-- Join neighbours: deletions with insertions to replacements, and equal lines with each other. -/
def joinFrom (p : Pending) : List Op → List Op
  | [] => p.flush
  | .equal old new length :: ops =>
    let rest := joinFrom ⟨none, none⟩ ops
    p.flush ++ match rest with
      | .equal _ _ l :: rest => .equal old new (length + l) :: rest
      | rest => .equal old new length :: rest
  | .delete old length new :: ops =>
    match p.delete with
    | some (o, l, n) => joinFrom { p with delete := some (o, l + length, n) } ops
    | none => joinFrom { p with delete := some (old, length, new) } ops
  | .insert old new length :: ops =>
    match p.insert with
    | some (o, n, l) => joinFrom { p with insert := some (o, n, l + length) } ops
    | none => joinFrom { p with insert := some (old, new, length) } ops
  | op :: ops => p.flush ++ op :: joinFrom ⟨none, none⟩ ops

/-- The script that turns one list of lines into another. -/
def compare (old new : List Text) : List Op :=
  let s : Sides := ⟨old.toArray, new.toArray⟩
  let ops := conquer s (old.length + new.length + 1) ⟨0, old.length, 0, new.length⟩
  joinFrom ⟨none, none⟩ (compact s ops)

end Accessors.Script
