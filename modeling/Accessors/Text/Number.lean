import Accessors.Text.Basic

/-!
# Natural numbers as text

Reading a natural number that fits in 64 bits, and writing numbers in decimal.

* `Text.natValue?`: the number a non-empty text of decimal digits stands for.
* `Text.word64?`: the same with one optional plus sign in front, below `2 ^ 64`.
* `Text.valueOf`: the number that digits denote in a base up to sixteen.
* `Text.ofNat`, `Text.ofInt`: decimal notation.
* `Text.exceedsDouble`: whether a decimal number is beyond the floating-point numbers of 64 bits.
-/

namespace Accessors.Text

/-- The value of a decimal digit. -/
def digitValue? (c : Char) : Option Nat :=
  if c.isDigit then some (c.toNat - '0'.toNat) else none

/-- The number denoted by decimal digits that follow a number already read. -/
def natValueFrom (acc : Nat) : Text → Option Nat
  | [] => some acc
  | c :: t => (digitValue? c).bind fun d => natValueFrom (10 * acc + d) t

/-- The number a non-empty text of decimal digits stands for. -/
def natValue? (t : Text) : Option Nat :=
  if t.isEmpty then none else natValueFrom 0 t

/-- A number below `2 ^ 64` in decimal digits, with an optional plus sign in front. -/
def word64? (t : Text) : Option Nat :=
  let digits := match t with
    | '+' :: rest => rest
    | _ => t
  (natValue? digits).filter (· < UInt64.size)

/-- The value of a digit in bases up to sixteen. -/
def digitOf (c : Char) : Nat :=
  if c.isDigit then c.toNat - '0'.toNat
  else if c.isLower then c.toNat - 'a'.toNat + 10
  else c.toNat - 'A'.toNat + 10

/-- The number that digits denote in a base. -/
def valueOf (base : Nat) (digits : Text) : Nat := digits.foldl (fun n c => base * n + digitOf c) 0

/-- Whether a character is a digit in base sixteen. -/
def isHexDigit (c : Char) : Bool :=
  c.isDigit || ('a' ≤ c && c ≤ 'f') || ('A' ≤ c && c ≤ 'F')

/-- The least number that no floating-point number of 64 bits is nearest to: half a step above the
largest one. -/
def doubleBound : Nat := Nat.pow 2 1024 - Nat.pow 2 970

/-- Whether `digits * 10 ^ scale` is beyond the floating-point numbers of 64 bits. The number of
digits decides all but the narrow cases. -/
def exceedsDouble (digits : Nat) (scale : Int) : Bool :=
  let size := (Nat.toDigits 10 digits).length + scale
  if digits = 0 || size < 309 then false
  else if 309 < size then true
  else match scale with
    | .ofNat n => doubleBound ≤ digits * Nat.pow 10 n
    | .negSucc n => doubleBound * Nat.pow 10 (n + 1) ≤ digits

/-- Decimal notation of a natural number. -/
def ofNat (n : Nat) : Text := Nat.toDigits 10 n

/-- Decimal notation of an integer, a minus sign in front of a negative one. -/
def ofInt : Int → Text
  | .ofNat n => ofNat n
  | .negSucc n => '-' :: ofNat (n + 1)

/-- A text filled up with spaces on the left to a width. -/
def padLeft (width : Nat) (t : Text) : Text := spaces (width - t.length) ++ t

end Accessors.Text
