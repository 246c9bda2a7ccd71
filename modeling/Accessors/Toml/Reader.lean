import Accessors.Text.Reader
import Accessors.Toml.Scalar

/-!
# Reading TOML

A reader of TOML 1.0. There is one kind of failure: a document that breaks a rule is refused.

* `Toml.string`, `Toml.key`: quoted strings and keys.
* `Toml.value`: values, nested to a given depth.
* `Toml.parse?`: the root table of a document.
-/

namespace Accessors.Toml

open Reader

/-! ## Blanks and comments -/

/-- Skip blanks within a line. -/
def skipBlanks : Reader Unit := do
  let _ ← takeWhile fun c => c = ' ' || c = '\t'

/-- Whether a character may stand in a comment or a literal string. -/
def isPrintable (c : Char) : Bool := c = '\t' || (0x20 ≤ c.val && c.val ≠ 0x7F)

/-- Skip a comment, if one starts here. -/
def skipComment : Reader Unit := do
  if ← accept ['#'] then
    let _ ← takeWhile isPrintable

/-- Take a line break, if one stands here. -/
def acceptBreak : Reader Bool := do
  if ← accept ['\n'] then return true else accept ['\r', '\n']

/-- Skip blanks, comments and line breaks, at most `fuel` lines of them. -/
def skipLinesWithin : Nat → Reader Unit
  | 0 => refuse
  | fuel + 1 => do
    skipBlanks
    skipComment
    if ← acceptBreak then skipLinesWithin fuel

/-- Skip blanks, comments and line breaks. -/
def skipLines : Reader Unit := do skipLinesWithin ((← get).length + 1)

/-- Skip the rest of a line that holds nothing more. -/
def endLine : Reader Unit := do
  skipBlanks
  skipComment
  if ← acceptBreak then return ()
  else if (← get).isEmpty then return ()
  else refuse

/-! ## Strings -/

/-- The character that hexadecimal digits denote. -/
def scalarChar? (digits : Text) : Option Char :=
  let n := Text.valueOf 16 digits
  if digits.all Text.isHexDigit && (n < 0xD800 || (0xDFFF < n && n < 0x110000)) then some (Char.ofNat n)
  else none

/-- The character that an escape denotes, the backslash already taken, and the text behind it. -/
def escape? : Text → Option (Char × Text)
  | 'b' :: t => some ('\x08', t)
  | 't' :: t => some ('\t', t)
  | 'n' :: t => some ('\n', t)
  | 'f' :: t => some ('\x0c', t)
  | 'r' :: t => some ('\r', t)
  | '\x22' :: t => some ('\x22', t)
  | '\\' :: t => some ('\\', t)
  | 'u' :: t =>
    if 4 ≤ t.length then (scalarChar? (t.take 4)).map (·, t.drop 4) else none
  | 'U' :: t =>
    if 8 ≤ t.length then (scalarChar? (t.take 8)).map (·, t.drop 8) else none
  | _ => none

/-- The contents of a string in double quotes up to its end, at most `fuel` characters. -/
def basicBody : Nat → Text → Option (Text × Text)
  | 0, _ => none
  | fuel + 1, t =>
    match t with
    | [] => none
    | '\x22' :: rest => some ([], rest)
    | '\\' :: rest => do
      let (c, rest) ← escape? rest
      let (body, rest) ← basicBody fuel rest
      return (c :: body, rest)
    | c :: rest =>
      if isPrintable c then do
        let (body, rest) ← basicBody fuel rest
        return (c :: body, rest)
      else none

/-- The text behind a backslash at the end of a line: blanks and breaks are skipped. -/
def afterLineEscape? (t : Text) : Option Text :=
  match t.dropWhile fun c => c = ' ' || c = '\t' with
  | '\n' :: rest | '\r' :: '\n' :: rest =>
    some (rest.dropWhile fun c => c = ' ' || c = '\t' || c = '\n' || c = '\r')
  | _ => none

/-- The end of a string in three quotes: up to two more quotes belong to the contents. -/
def multilineEnd? (quote : Char) (t : Text) : Option (Text × Text) :=
  let count := min 5 (t.takeWhile (· = quote)).length
  if 3 ≤ count then some (List.replicate (count - 3) quote, t.drop count) else none

/-- The contents of a string in three double quotes up to its end, at most `fuel` characters. -/
def multilineBasicBody : Nat → Text → Option (Text × Text)
  | 0, _ => none
  | fuel + 1, t =>
    match t with
    | [] => none
    | '\\' :: rest =>
      match afterLineEscape? rest with
      | some rest => multilineBasicBody fuel rest
      | none => do
        let (c, rest) ← escape? rest
        let (body, rest) ← multilineBasicBody fuel rest
        return (c :: body, rest)
    | '\r' :: '\n' :: rest => do
      let (body, rest) ← multilineBasicBody fuel rest
      return ('\n' :: body, rest)
    | c :: rest =>
      match multilineEnd? '\x22' t with
      | some ending => some ending
      | none =>
        if isPrintable c || c = '\n' then do
          let (body, rest) ← multilineBasicBody fuel rest
          return (c :: body, rest)
        else none

/-- The contents of a string in three single quotes up to its end. -/
def multilineLiteralBody : Text → Option (Text × Text)
  | [] => none
  | '\r' :: '\n' :: rest => do
    let (body, rest) ← multilineLiteralBody rest
    return ('\n' :: body, rest)
  | c :: rest =>
    match multilineEnd? '\x27' (c :: rest) with
    | some ending => some ending
    | none =>
      if isPrintable c || c = '\n' then do
        let (body, rest) ← multilineLiteralBody rest
        return (c :: body, rest)
      else none

/-- A string on one line, its quote not yet taken. -/
def lineString : Reader Text := do
  if ← accept ['\x22'] then
    let t ← get
    let (body, rest) ← basicBody (t.length + 1) t
    set rest
    return body
  else
    expect ['\x27']
    let body ← takeWhile fun c => isPrintable c && c ≠ '\x27'
    expect ['\x27']
    return body

/-- Any string. -/
def string : Reader Text := do
  if ← accept (List.replicate 3 '\x22') then
    let _ ← acceptBreak
    let t ← get
    let (body, rest) ← multilineBasicBody (t.length + 1) t
    set rest
    return body
  else if ← accept (List.replicate 3 '\x27') then
    let _ ← acceptBreak
    let (body, rest) ← multilineLiteralBody (← get)
    set rest
    return body
  else lineString

/-! ## Keys -/

/-- One part of a key. -/
def simpleKey : Reader Text := do
  match ← get with
  | '\x22' :: _ | '\x27' :: _ => lineString
  | _ =>
    let name ← takeWhile fun c => c.isAlphanum || c = '_' || c = '-'
    if name.isEmpty then refuse else return name

/-- How deep a document nests: there are fewer brackets around a value, and fewer parts in a key. -/
def depthLimit : Nat := 80

/-- The parts of a dotted key, at most `fuel` of them: the steps and the last part. -/
def keyWithin : Nat → Reader (List Text × Text)
  | 0 => refuse
  | fuel + 1 => do
    skipBlanks
    let part ← simpleKey
    skipBlanks
    if ← accept ['.'] then
      let (path, last) ← keyWithin fuel
      return (part :: path, last)
    else return ([], part)

/-- A key: its steps and its last part. -/
def key : Reader (List Text × Text) := keyWithin (depthLimit - 1)

/-! ## Values -/

/-- A scalar without quotes. A date and a time may have a space between them. -/
def bareScalar : Reader Value := do
  let isScalarChar := fun c : Char =>
    c.isAlphanum || c = '_' || c = '-' || c = '+' || c = '.' || c = ':'
  let front ← takeWhile isScalarChar
  let rest ← get
  let text ← match rest with
    | ' ' :: c :: _ =>
      if c.isDigit && afterDate? front = some [] then
        set (rest.drop 1)
        pure (front ++ ' ' :: (← takeWhile isScalarChar))
      else pure front
    | _ => pure front
  match scalar? text with
  | some v => return v
  | none => refuse

/-- The items of an array up to its end, at most `fuel` of them. -/
def arrayItems (item : Reader Value) : Nat → Reader (List Value)
  | 0 => refuse
  | fuel + 1 => do
    skipLines
    if ← accept [']'] then return []
    else
      let v ← item
      skipLines
      if ← accept [','] then return v :: (← arrayItems item fuel)
      else
        expect [']']
        return [v]

/-- The entries of a table in braces up to its end, at most `fuel` of them. -/
def inlineEntries (item : Reader Value) : Nat → Entries → Reader Entries
  | 0, _ => refuse
  | fuel + 1, entries => do
    let (path, last) ← key
    expect ['=']
    skipBlanks
    let v ← item
    match defineIn? path last v .header entries with
    | none => refuse
    | some (_, entries) =>
      skipBlanks
      if ← accept [','] then inlineEntries item fuel entries
      else
        expect ['\x7d']
        return entries

/-- A value, nested to a given depth. -/
def value : Nat → Reader Value
  | 0 => refuse
  | depth + 1 => do
    match ← get with
    | '\x22' :: _ | '\x27' :: _ => return .string (← string)
    | '[' :: rest =>
      if depth = 0 then refuse
      set rest
      return .array (← arrayItems (value depth) (rest.length + 1))
    | '\x7b' :: rest =>
      if depth = 0 then refuse
      set rest
      skipBlanks
      if ← accept ['\x7d'] then return .table .inline []
      else return .table .inline (← inlineEntries (value depth) (rest.length + 1) [])
    | _ => bareScalar

/-! ## Documents -/

/-- A header in brackets, the first bracket already taken: the path it opens, and the root with
the table opened. -/
def header (root : Entries) : Reader (List Text × Entries) := do
  let double ← accept ['[']
  let (path, last) ← key
  expect (if double then [']', ']'] else [']'])
  match if double then openElement? path last root else openTable? path last root with
  | some root => return (path ++ [last], root)
  | none => refuse

/-- The lines of a document, at most `fuel` of them, below a header. -/
def lines : Nat → List Text → Entries → Reader Entries
  | 0, _, _ => refuse
  | fuel + 1, current, root => do
    skipLines
    if (← get).isEmpty then return root
    else if ← accept ['['] then
      let (current, root) ← header root
      endLine
      lines fuel current root
    else
      let (path, last) ← key
      expect ['=']
      skipBlanks
      let v ← value depthLimit
      endLine
      match define? current path last v root with
      | some root => lines fuel current root
      | none => refuse

/-- The root table of a document. A byte order mark in front is skipped. -/
def parse? (t : Text) : Option Entries :=
  let t := match t with
    | '\ufeff' :: rest => rest
    | _ => t
  ((lines (t.length + 1) [] []).run t).map (·.1)

end Accessors.Toml
