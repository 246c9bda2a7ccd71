import Accessors.Syntax.Lexeme

/-!
# Strings with interpolation

Inside double quotes, backticks and heredocs a variable or a braced expression interrupts the
literal text.

* `interpolates`, `skipInterpolation`: where such a piece of code starts and ends.
* `skipQuotedPart`, `skipHeredocPart`: where a literal part ends.
* `heredocStart?`: the label of a heredoc.
-/

namespace Accessors.Syntax.Lexer

/-! ## Interpolation -/

/-- Whether a variable or a braced expression starts here inside a string. -/
def interpolates : Text → Bool
  | '$' :: '\x7b' :: _ => true
  | '\x7b' :: '$' :: _ => true
  | '$' :: c :: _ => isWordStart c
  | _ => false

/-- What follows the brace that closes the innermost one open at this depth. -/
def skipBraced (depth : Nat) : Text → Text
  | [] => []
  | '\x7b' :: t => skipBraced (depth + 1) t
  | '\x7d' :: t =>
    match depth with
    | 0 => t
    | n + 1 => skipBraced n t
  | _ :: t => skipBraced depth t

/-- What follows the bracket that closes the innermost one open at this depth; a blank ends the
subscript too. -/
def skipSubscript (depth : Nat) : Text → Text
  | [] => []
  | '[' :: t => skipSubscript (depth + 1) t
  | ']' :: t =>
    match depth with
    | 0 => t
    | n + 1 => skipSubscript n t
  | c :: t => if isSpace c then c :: t else skipSubscript depth t

/-- What follows the interpolation at the front of a text: a braced expression up to the brace
that balances it, or a variable with at most one subscript or one property. -/
def skipInterpolation : Text → Text
  | '$' :: '\x7b' :: t => skipBraced 0 t
  | '\x7b' :: '$' :: t => skipBraced 0 t
  | '$' :: t =>
    match t.dropWhile isWordChar with
    | '[' :: rest => skipSubscript 0 rest
    | '-' :: '>' :: rest =>
      if startsWord rest then rest.dropWhile isWordChar else '-' :: '>' :: rest
    | '?' :: '-' :: '>' :: rest =>
      if startsWord rest then rest.dropWhile isWordChar else '?' :: '-' :: '>' :: rest
    | rest => rest
  | t => t

/-! ## Quotes -/

/-- What closes a string that is not a heredoc. -/
inductive Delimiter where
  | doubleQuote
  | backtick
  deriving DecidableEq, Repr

/-- The character of a delimiter. -/
def Delimiter.char : Delimiter → Char
  | .doubleQuote => '\x22'
  | .backtick => '\x60'

/-- Whether the character behind a backslash is escaped. In double quotes a backslash may itself
be escaped, in backticks it never is. -/
def Delimiter.escapes (d : Delimiter) (escaped : Bool) : Bool := d = .backtick || !escaped

/-- Whether a string in double quotes has no interpolation. -/
def isLiteral : Text → Bool
  | [] => true
  | '\\' :: _ :: t => isLiteral t
  | c :: t => if c = '\x22' then true else !interpolates (c :: t) && isLiteral t

/-- What follows a literal part of a string: its delimiter or an interpolation, unless it is
escaped. -/
def skipQuotedPart (d : Delimiter) (escaped : Bool) : Text → Text
  | [] => []
  | '\\' :: t => skipQuotedPart d (d.escapes escaped) t
  | c :: t =>
    if !escaped && (c = d.char || interpolates (c :: t)) then c :: t
    else skipQuotedPart d false t

/-- What follows a string in double quotes without interpolation, if it ends. -/
def skipDoubleQuoted? : Text → Option Text
  | [] => none
  | '\\' :: _ :: t => skipDoubleQuoted? t
  | c :: t => if c = '\x22' then some t else skipDoubleQuoted? t

/-! ## Heredocs -/

/-- The start of a heredoc. -/
structure HeredocStart where
  label : Text
  /-- Whether the body is taken literally. -/
  literal : Bool
  /-- The text from the first line of the body on. -/
  rest : Text

/-- The text behind the line break that ends the line of the label. -/
def afterLabelLine? : Text → Option Text
  | '\r' :: '\n' :: t => some t
  | '\n' :: t => some t
  | _ => none

/-- Read the start of a heredoc, the three angle brackets already taken. -/
def heredocStart? (t : Text) : Option HeredocStart :=
  let t := t.dropWhile isSpace
  let (quote, t) := match t with
    | '\x27' :: u => (some '\x27', u)
    | '\x22' :: u => (some '\x22', u)
    | _ => (none, t)
  let label := t.takeWhile isWordChar
  let t := t.dropWhile isWordChar
  if startsWord label then
    match quote, t with
    | none, _ => (afterLabelLine? t).map (⟨label, false, ·⟩)
    | some q, c :: u =>
      if c = q then (afterLabelLine? u).map (⟨label, decide (q = '\x27'), ·⟩) else none
    | some _, [] => none
  else none

/-- What follows the closing label of a heredoc, if a text starts with it. An ASCII letter or digit
behind it makes it part of the body. -/
def closingLabel? (label t : Text) : Option Text :=
  if label.isPrefixOf t then
    match t.drop label.length with
    | [] => some []
    | c :: rest => if c.isAlphanum then none else some (c :: rest)
  else none

/-- What follows a literal body with its closing label, if there is one. The flag tells whether
only blanks stand in front on the line. -/
def skipLiteralBody? (label : Text) (blank : Bool) : Text → Option Text
  | [] => none
  | c :: t =>
    if c = '\n' || c = '\r' then skipLiteralBody? label true t
    else if isSpace c then skipLiteralBody? label blank t
    else match if blank then closingLabel? label (c :: t) else none with
      | some rest => some rest
      | none => skipLiteralBody? label false t

/-- How a literal part of a heredoc ends. -/
inductive HeredocEnd where
  /-- At an interpolation, or at the end of the text. -/
  | part (rest : Text)
  /-- With the closing label. -/
  | closing (rest : Text)

/-- The end of a literal part of a heredoc. The flags tell whether only blanks stand in front on
the line or behind the last interpolation, and whether the last character that is not a blank is a
backslash. -/
def skipHeredocPart (label : Text) (blank escaped : Bool) : Text → HeredocEnd
  | [] => .part []
  | '\\' :: t => skipHeredocPart label false true t
  | c :: t =>
    if c = '\n' || c = '\r' then skipHeredocPart label true false t
    else if isSpace c then skipHeredocPart label blank escaped t
    else if !escaped && interpolates (c :: t) then .part (c :: t)
    else match if blank then closingLabel? label (c :: t) else none with
      | some rest => .closing rest
      | none => skipHeredocPart label false false t

end Accessors.Syntax.Lexer
