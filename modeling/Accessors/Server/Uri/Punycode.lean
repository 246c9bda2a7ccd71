import Accessors.Text.Basic

/-!
# Punycode

Labels of domain names with characters beyond ASCII, written in ASCII. The characters are taken in
the order of their code points; for each the distance to the one before it, in code points and
places, is written as a number with variable digits.

* `Punycode.encode`: a label in ASCII.
* `Punycode.decode?`: the label that a text in ASCII stands for.
-/

namespace Accessors.Punycode

/-! ## Digits -/

/-- A digit: the letters stand for the numbers below 26, the digits for the next ten. -/
def digitChar (d : Nat) : Char := Char.ofNat (if d < 26 then 0x61 + d else 0x30 + (d - 26))

/-- The number that a digit stands for. -/
def digitValue? (c : Char) : Option Nat :=
  if c.isLower then some (c.toNat - 0x61)
  else if c.isUpper then some (c.toNat - 0x41)
  else if c.isDigit then some (c.toNat - 0x30 + 26)
  else none

/-- The least digit that does not end a number, at a place counted in steps of 36. -/
def threshold (place bias : Nat) : Nat :=
  if place ≤ bias then 1 else min 26 (place - bias)

theorem threshold_pos (place bias : Nat) : 1 ≤ threshold place bias := by
  unfold threshold
  split <;> omega

/-- Divide a distance by 35 until it is small; `place` counts the divisions in steps of 36. -/
def settle (distance place : Nat) : Nat :=
  if 455 < distance then settle (distance / 35) (place + 36)
  else place + 36 * distance / (distance + 38)
termination_by distance

/-- The bias behind a distance, when `count` characters are written. -/
def adapt (distance count : Nat) (first : Bool) : Nat :=
  let distance := if first then distance / 700 else distance / 2
  settle (distance + distance / count) 0

/-! ## Writing -/

/-- The digits of a number from a place on. -/
def digits (bias place n : Nat) : Text :=
  let t := threshold place bias
  if n < t then [digitChar n]
  else digitChar (t + (n - t) % (36 - t)) :: digits bias (place + 36) ((n - t) / (36 - t))
termination_by n
decreasing_by
  have := threshold_pos place bias
  calc (n - threshold place bias) / (36 - threshold place bias)
      ≤ n - threshold place bias := Nat.div_le_self _ _
    _ < n := by omega

/-- What is known while a label is written. -/
structure Writer where
  written : Text
  distance : Nat
  bias : Nat
  /-- How many characters of the label are written. -/
  count : Nat

/-- Pass one character of the label while those with the code point `n` are written. -/
def Writer.pass (plain n : Nat) (w : Writer) (c : Char) : Writer :=
  if c.toNat < n then { w with distance := w.distance + 1 }
  else if c.toNat = n then
    { written := w.written ++ digits w.bias 36 w.distance
      distance := 0
      bias := adapt w.distance (w.count + 1) (w.count = plain)
      count := w.count + 1 }
  else w

/-- Write the characters with the given code points, which are sorted, the first `next` code points
being done. -/
def Writer.run (label : Text) (plain : Nat) (w : Writer) (next : Nat) : List Nat → Writer
  | [] => w
  | n :: points =>
    let w := { w with distance := w.distance + (n - next) * (w.count + 1) }
    let w := label.foldl (Writer.pass plain n) w
    Writer.run label plain { w with distance := w.distance + 1 } (n + 1) points

/-- A label in ASCII. -/
def encode (label : Text) : Text :=
  let plain := label.filter fun c => c.toNat < 128
  let points := (label.map Char.toNat).filter (128 ≤ ·)
  let points := points.mergeSort.eraseDups
  let start : Writer := ⟨[], 0, 72, plain.length⟩
  plain ++ (if plain.isEmpty then [] else ['-']) ++
    (Writer.run label plain.length start 128 points).written

/-! ## Reading -/

/-- Read one number: its value and the text behind it. -/
def takeNumber? (bias place weight acc : Nat) : Text → Option (Nat × Text)
  | [] => none
  | c :: t =>
    match digitValue? c with
    | none => none
    | some d =>
      let n := acc + d * weight
      let low := threshold place bias
      if d < low then some (n, t) else takeNumber? bias (place + 36) (weight * (36 - low)) n t

/-- Read numbers and put the characters they stand for into a label, at most `fuel` of them. -/
def insertAll? (bias point place : Nat) (label : Text) : Nat → Text → Option Text
  | _, [] => some label
  | 0, _ => none
  | fuel + 1, t => do
    let (distance, rest) ← takeNumber? bias 36 1 0 t
    let size := label.length + 1
    let point := point + (place + distance) / size
    let index := (place + distance) % size
    if point < 0xD800 || (0xDFFF < point && point ≤ 0x10FFFF) then
      let label := label.take index ++ Char.ofNat point :: label.drop index
      insertAll? (adapt distance size (place = 0)) point (index + 1) label fuel rest
    else none

/-- The text in front of the last hyphen, and the text behind it. -/
def splitPlain (t : Text) : Text × Text :=
  match t.reverse.dropWhile (· ≠ '-') with
  | [] => ([], t)
  | _ :: front => (front.reverse, (t.reverse.takeWhile (· ≠ '-')).reverse)

/-- The label that a text in ASCII stands for. -/
def decode? (t : Text) : Option Text :=
  let (plain, rest) := splitPlain t
  insertAll? 72 128 0 plain t.length rest

end Accessors.Punycode
