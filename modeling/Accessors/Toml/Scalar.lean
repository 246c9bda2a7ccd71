import Accessors.Text.Number
import Accessors.Toml.Value

/-!
# TOML scalars

Numbers, booleans, dates and times, recognised from the characters they are written with.

* `Toml.scalar?`: the value of a scalar without quotes.
-/

namespace Accessors.Toml

/-! ## Digits -/

/-- Digits with single underscores between them, without the underscores. -/
def digits? (isDigit : Char → Bool) : Text → Option Text
  | [] => none
  | [c] => if isDigit c then some [c] else none
  | c :: '_' :: t => if isDigit c then (digits? isDigit t).map (c :: ·) else none
  | c :: t => if isDigit c then (digits? isDigit t).map (c :: ·) else none

/-- Digits of a decimal number that does not start with a needless zero. -/
def decimal? (t : Text) : Option Text :=
  match digits? Char.isDigit t with
  | some ('0' :: _ :: _) => none
  | d => d

/-! ## Numbers -/

/-- A text behind an optional sign, and whether the sign was a minus. -/
def unsigned : Text → Bool × Text
  | '-' :: t => (true, t)
  | '+' :: t => (false, t)
  | t => (false, t)

/-- An integer of 64 bits. -/
def inRange (i : Int) : Option Value :=
  if -0x8000000000000000 ≤ i ∧ i < 0x8000000000000000 then some (.integer i) else none

/-- An integer. -/
def integer? (t : Text) : Option Value :=
  match t with
  | '0' :: 'x' :: rest => (digits? Text.isHexDigit rest).bind fun d => inRange (Text.valueOf 16 d)
  | '0' :: 'o' :: rest =>
    (digits? (fun c => '0' ≤ c && c ≤ '7') rest).bind fun d => inRange (Text.valueOf 8 d)
  | '0' :: 'b' :: rest =>
    (digits? (fun c => c = '0' || c = '1') rest).bind fun d => inRange (Text.valueOf 2 d)
  | _ =>
    let (negative, rest) := unsigned t
    (decimal? rest).bind fun d =>
      let n : Int := Text.valueOf 10 d
      inRange (if negative then -n else n)

/-- The value of an exponent, which may be missing. -/
def exponent? : Text → Option Int
  | [] => some 0
  | c :: t =>
    if c = 'e' || c = 'E' then
      let (negative, digits) := unsigned t
      (digits? Char.isDigit digits).map fun d =>
        let n : Int := Text.valueOf 10 d
        if negative then -n else n
    else none

/-- The digits and the scale of a float without its sign, which has a fraction, an exponent or
both. -/
def floatParts? (t : Text) : Option (Nat × Int) :=
  let isPart := fun c : Char => c.isDigit || c = '_'
  let tail := t.dropWhile isPart
  match decimal? (t.takeWhile isPart), tail with
  | none, _ | _, [] => none
  | some whole, '.' :: t => do
    let places ← digits? Char.isDigit (t.takeWhile isPart)
    let scale ← exponent? (t.dropWhile isPart)
    return (Text.valueOf 10 (whole ++ places), scale - places.length)
  | some whole, _ => (exponent? tail).map fun scale => (Text.valueOf 10 whole, scale)

/-- Whether a text is a float. A positive one may not be beyond those of 64 bits. -/
def isFloat (t : Text) : Bool :=
  let (negative, rest) := unsigned t
  if rest = "inf".toList || rest = "nan".toList then true
  else match floatParts? rest with
    | some (digits, scale) => negative || !Text.exceedsDouble digits scale
    | none => false

/-! ## Dates and times -/

/-- The number that the first digits of a text denote, and the text behind them. -/
def fixed? (width : Nat) (t : Text) : Option (Nat × Text) :=
  let front := t.take width
  if front.length = width && front.all Char.isDigit then some (Text.valueOf 10 front, t.drop width)
  else none

/-- A text behind a character. -/
def after? (c : Char) : Text → Option Text
  | d :: t => if d = c then some t else none
  | [] => none

/-- Number of days of a month. -/
def daysIn (year month : Nat) : Nat :=
  if month = 2 then
    if (year % 4 = 0 && year % 100 ≠ 0) || year % 400 = 0 then 29 else 28
  else if month = 4 || month = 6 || month = 9 || month = 11 then 30
  else 31

/-- The text behind a date. -/
def afterDate? (t : Text) : Option Text := do
  let (year, t) ← fixed? 4 t
  let (month, t) ← fixed? 2 (← after? '-' t)
  let (day, t) ← fixed? 2 (← after? '-' t)
  if 1 ≤ month ∧ month ≤ 12 ∧ 1 ≤ day ∧ day ≤ daysIn year month then some t else none

/-- The text behind a time. -/
def afterTime? (t : Text) : Option Text := do
  let (hour, t) ← fixed? 2 t
  let (minute, t) ← fixed? 2 (← after? ':' t)
  let (second, t) ← fixed? 2 (← after? ':' t)
  if hour ≤ 23 ∧ minute ≤ 59 ∧ second ≤ 60 then
    match t with
    | '.' :: c :: rest => if c.isDigit then some (rest.dropWhile Char.isDigit) else none
    | '.' :: [] => none
    | _ => some t
  else none

/-- Whether a text is an offset from universal time, or empty. -/
def isOffset : Text → Bool
  | [] => true
  | ['Z'] | ['z'] => true
  | '+' :: t | '-' :: t =>
    match fixed? 2 t with
    | some (hour, ':' :: rest) =>
      match fixed? 2 rest with
      | some (minute, []) => hour ≤ 23 && minute ≤ 59
      | _ => false
    | _ => false
  | _ => false

/-- Whether a text is a date, a time, or both. -/
def isDateTime (t : Text) : Bool :=
  match afterDate? t with
  | some [] => true
  | some (c :: rest) =>
    (c = 'T' || c = 't' || c = ' ') &&
      match afterTime? rest with
      | some tail => isOffset tail
      | none => false
  | none => afterTime? t = some []

/-! ## Scalars -/

/-- The value of a scalar without quotes. -/
def scalar? (t : Text) : Option Value :=
  if t = "true".toList then some (.boolean true)
  else if t = "false".toList then some (.boolean false)
  else match integer? t with
    | some v => some v
    | none =>
      if isFloat t then some .float
      else if isDateTime t then some .dateTime
      else none

end Accessors.Toml
