import Accessors.Syntax.Token

/-!
# Lexemes of PHP

Where the words, numbers, comments, plain strings and type conversions at the front of a piece of
code end.

* `spanName`: a word, or a name with namespace separators.
* `skipNumber`: what follows a number.
* `skipLine`, `skipBlock?`, `skipSingleQuoted?`: what follows a comment or a plain string.
* `afterCast?`: what follows a type in parentheses.
-/

namespace Accessors.Syntax.Lexer

/-! ## Characters -/

/-- Blanks between tokens. -/
def isSpace (c : Char) : Bool := c = ' ' || c = '\t' || c = '\n' || c = '\r' || c = '\x0c'

/-- Whether two texts are equal up to the case of ASCII letters. -/
def sameWord (s t : Text) : Bool := s.map Char.toLower = t.map Char.toLower

/-- A text without another in front of it, the case of ASCII letters aside. -/
def afterWord? (word t : Text) : Option Text :=
  if sameWord word (t.take word.length) then some (t.drop word.length) else none

/-! ## Names -/

/-- The longest name at the front of a text; namespace separators count when a word follows. -/
def spanQualified : Text → Text × Text
  | [] => ([], [])
  | '\\' :: c :: t =>
    if isWordStart c then
      let (taken, rest) := spanQualified (c :: t)
      ('\\' :: taken, rest)
    else ([], '\\' :: c :: t)
  | c :: t =>
    if isWordChar c then
      let (taken, rest) := spanQualified t
      (c :: taken, rest)
    else ([], c :: t)

/-- The name at the front of a text. Inside a string a separator behind a word belongs to the
string, so that only a name that starts with a separator has any. -/
def spanName (inString : Bool) (t : Text) : Text × Text :=
  if inString && startsWord t then (t.takeWhile isWordChar, t.dropWhile isWordChar)
  else spanQualified t

/-! ## Comments and plain strings -/

/-- The rest of a line comment; a closing tag ends it too. -/
def skipLine : Text → Text
  | [] => []
  | '?' :: '>' :: t => '?' :: '>' :: t
  | c :: t => if c = '\n' || c = '\r' then c :: t else skipLine t

/-- What follows a block comment, if it ends. -/
def skipBlock? : Text → Option Text
  | [] => none
  | '*' :: '/' :: t => some t
  | _ :: t => skipBlock? t

/-- What follows a string in single quotes, if it ends. -/
def skipSingleQuoted? : Text → Option Text
  | [] => none
  | '\\' :: _ :: t => skipSingleQuoted? t
  | c :: t => if c = '\x27' then some t else skipSingleQuoted? t

/-! ## Numbers -/

/-- What follows a run of digits. An underscore belongs to it when a digit follows. -/
def skipDigits (isDigit : Char → Bool) : Text → Text
  | [] => []
  | '_' :: c :: t => if isDigit c then skipDigits isDigit t else '_' :: c :: t
  | c :: t => if isDigit c then skipDigits isDigit t else c :: t

/-- Octal digits. -/
def isOctalDigit (c : Char) : Bool := '0' ≤ c && c ≤ '7'

/-- Hexadecimal digits. -/
def isHexDigit (c : Char) : Bool :=
  c.isDigit || ('a' ≤ c && c ≤ 'f') || ('A' ≤ c && c ≤ 'F')

/-- The digits of the base that a letter behind a zero announces. -/
def radixDigits? : Char → Option (Char → Bool)
  | 'b' | 'B' => some fun c => c = '0' || c = '1'
  | 'o' | 'O' => some isOctalDigit
  | 'x' | 'X' => some isHexDigit
  | _ => none

/-- What follows the mark and the sign of an exponent. -/
def afterExponentMark? : Text → Option Text
  | 'e' :: t | 'E' :: t =>
    match t with
    | '+' :: rest | '-' :: rest => some rest
    | _ => some t
  | _ => none

/-- What follows an exponent, which has at least one digit. -/
def skipExponent (t : Text) : Text :=
  match afterExponentMark? t with
  | none => t
  | some digits =>
    let rest := skipDigits Char.isDigit digits
    if rest.length < digits.length then rest else t

/-- What follows the fraction and the exponent of a number, behind its integer part. A point
belongs to the number even when no digit follows. -/
def skipFraction : Text → Text
  | '.' :: t => skipExponent (skipDigits Char.isDigit t)
  | t =>
    match afterExponentMark? t with
    | some (d :: _) => if d.isDigit then skipExponent t else t
    | _ => t

/-- What follows a number without a letter for its base. -/
def skipDecimal : Text → Text
  | '.' :: t => skipExponent (skipDigits Char.isDigit t)
  | t => skipFraction (skipDigits Char.isDigit t)

/-- What follows a number. A letter for a base counts only in front of a digit of that base. -/
def skipNumber (t : Text) : Text :=
  match t with
  | '0' :: letter :: d :: rest =>
    match radixDigits? letter with
    | some isDigit => if isDigit d then skipDigits isDigit (d :: rest) else skipDecimal t
    | none => skipDecimal t
  | _ => skipDecimal t

/-! ## Type conversions -/

/-- A text without a word in front of it, the case of its letters and blanks between them aside. -/
def afterSpaced? : Text → Text → Option Text
  | [], t => some t
  | letter :: word, t =>
    match t.dropWhile isSpace with
    | c :: rest => if c.toLower = letter then afterSpaced? word rest else none
    | [] => none

/-- Words that make a type conversion of a word in parentheses. -/
def castWords : List Text :=
  ["int".toList, "integer".toList, "bool".toList, "boolean".toList, "float".toList,
   "double".toList, "real".toList, "string".toList, "binary".toList, "array".toList,
   "object".toList, "unset".toList, "void".toList]

/-- What follows a type conversion, the opening parenthesis already taken. -/
def afterCast? (t : Text) : Option Text :=
  castWords.findSome? fun word => afterSpaced? (word ++ [')']) t

end Accessors.Syntax.Lexer
