import Accessors.Json.Value
import Accessors.Text.Number
import Accessors.Text.Reader

/-!
# Reading JSON

There is one kind of failure: a text that is no value is refused. Values nest to a fixed depth.

* `Json.string`, `Json.number`: the scalars.
* `Json.value`: values, nested to a given depth.
* `Json.takeValue?`: the value at the front of a text.
* `Json.parse?`: the value that a text is.
-/

namespace Accessors.Json

open Reader

/-! ## Strings -/

/-- The number of four hexadecimal digits, and the text behind them. -/
def codeUnit? (t : Text) : Option (Nat × Text) :=
  let digits := t.take 4
  if digits.length = 4 && digits.all Text.isHexDigit then some (Text.valueOf 16 digits, t.drop 4)
  else none

/-- The character of a numeric escape, its letter already taken. Outside the basic plane a
character takes a pair of escapes. -/
def numericEscape? (t : Text) : Option (Char × Text) := do
  let (high, rest) ← codeUnit? t
  if high < 0xD800 || 0xDFFF < high then return (Char.ofNat high, rest)
  else if 0xDC00 ≤ high then none
  else
    match rest with
    | '\\' :: 'u' :: rest =>
      let (low, rest) ← codeUnit? rest
      if 0xDC00 ≤ low && low ≤ 0xDFFF then
        return (Char.ofNat (0x10000 + 0x400 * (high - 0xD800) + (low - 0xDC00)), rest)
      else none
    | _ => none

/-- The character that an escape denotes, the backslash already taken, and the text behind it. -/
def escape? : Text → Option (Char × Text)
  | 'b' :: t => some ('\x08', t)
  | 'f' :: t => some ('\x0c', t)
  | 'n' :: t => some ('\n', t)
  | 'r' :: t => some ('\r', t)
  | 't' :: t => some ('\t', t)
  | 'u' :: t => numericEscape? t
  | '\x22' :: t => some ('\x22', t)
  | '\\' :: t => some ('\\', t)
  | '/' :: t => some ('/', t)
  | _ => none

/-- The contents of a string up to its end, at most `fuel` characters. -/
def stringBody : Nat → Text → Option (Text × Text)
  | 0, _ => none
  | fuel + 1, t =>
    match t with
    | [] => none
    | '\x22' :: rest => some ([], rest)
    | '\\' :: rest => do
      let (c, rest) ← escape? rest
      let (body, rest) ← stringBody fuel rest
      return (c :: body, rest)
    | c :: rest =>
      if c.toNat < 0x20 then none
      else do
        let (body, rest) ← stringBody fuel rest
        return (c :: body, rest)

/-- A string. -/
def string : Reader Text := do
  expect ['\x22']
  let t ← get
  let (body, rest) ← stringBody (t.length + 1) t
  set rest
  return body

/-! ## Numbers -/

/-- One or more digits. -/
def digits : Reader Text := do
  let d ← takeWhile Char.isDigit
  if d.isEmpty then refuse else return d

/-- Digits behind a point, if there is one. -/
def fraction : Reader Text := do
  if ← accept ['.'] then return '.' :: (← digits) else return []

/-- An exponent, if there is one. -/
def exponent : Reader Text := do
  match ← get with
  | c :: rest =>
    if c = 'e' || c = 'E' then
      set rest
      let sign ← takeWhile fun c => c = '+' || c = '-'
      if sign.length ≤ 1 then return c :: sign ++ (← digits) else refuse
    else return []
  | [] => return []

/-- The exponent that a text such as `e-5` denotes. -/
def exponentValue (t : Text) : Int :=
  let digits := t.filter Char.isDigit
  if t.contains '-' then -(Text.valueOf 10 digits : Int) else Text.valueOf 10 digits

/-- A number. The part before the point does not start with a needless zero. A negative zero is no
integer, nor is a number beyond 64 bits, and a number beyond the floating-point ones is refused. -/
def number : Reader Value := do
  let negative ← accept ['-']
  let whole ← digits
  if whole.head? = some '0' && whole ≠ ['0'] then refuse
  else
    let fraction ← fraction
    let exponent ← exponent
    let n := Text.valueOf 10 whole
    let places := fraction.drop 1
    let isInteger := fraction.isEmpty && exponent.isEmpty && !(negative && n = 0) &&
      (if negative then n ≤ 0x8000000000000000 else n < UInt64.size)
    if isInteger then return .integer (if negative then -(n : Int) else n)
    else if Text.exceedsDouble (Text.valueOf 10 (whole ++ places))
        (exponentValue exponent - places.length) then refuse
    else return .decimal ((if negative then ['-'] else []) ++ whole ++ fraction ++ exponent)

/-! ## Values -/

/-- Skip blanks. -/
def skipBlanks : Reader Unit := do
  let _ ← takeWhile fun c => c = ' ' || c = '\t' || c = '\n' || c = '\r'

/-- The items of an array behind its first one up to its end, at most `fuel` of them. -/
def moreItems (item : Reader Value) : Nat → Reader (List Value)
  | 0 => refuse
  | fuel + 1 => do
    skipBlanks
    if ← accept [','] then
      let v ← item
      return v :: (← moreItems item fuel)
    else
      expect [']']
      return []

/-- A member of an object. -/
def member (item : Reader Value) : Reader (Text × Value) := do
  skipBlanks
  let name ← string
  skipBlanks
  expect [':']
  return (name, ← item)

/-- The members of an object behind its first one up to its end, at most `fuel` of them. -/
def moreMembers (item : Reader Value) : Nat → Reader (List (Text × Value))
  | 0 => refuse
  | fuel + 1 => do
    skipBlanks
    if ← accept [','] then
      let m ← member item
      return m :: (← moreMembers item fuel)
    else
      expect ['\x7d']
      return []

/-- A value, nested to a given depth, with blanks in front. -/
def value : Nat → Reader Value
  | 0 => refuse
  | depth + 1 => do
    skipBlanks
    match ← get with
    | '\x22' :: _ => return .string (← string)
    | '[' :: rest =>
      if depth = 0 then refuse
      set rest
      skipBlanks
      if ← accept [']'] then return .array []
      else
        let v ← value depth
        return .array (v :: (← moreItems (value depth) (rest.length + 1)))
    | '\x7b' :: rest =>
      if depth = 0 then refuse
      set rest
      skipBlanks
      if ← accept ['\x7d'] then return .object []
      else
        let m ← member (value depth)
        return .object (m :: (← moreMembers (value depth) (rest.length + 1)))
    | _ =>
      if ← accept "null".toList then return .null
      else if ← accept "true".toList then return .boolean true
      else if ← accept "false".toList then return .boolean false
      else number

/-- How deep values nest, a scalar being one level. -/
def depthLimit : Nat := 128

/-- The value at the front of a text, and the text behind it without the blanks between them. -/
def takeValue? (t : Text) : Option (Value × Text) :=
  (do let v ← value depthLimit; skipBlanks; return v : Reader Value).run t

/-- The value that a text is. -/
def parse? (t : Text) : Option Value := do
  let (v, rest) ← takeValue? t
  if rest.isEmpty then some v else none

end Accessors.Json
