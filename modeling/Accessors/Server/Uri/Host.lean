import Accessors.Server.Uri.Escape
import Accessors.Server.Uri.Punycode
import Accessors.Text.Case

/-!
# Hosts

The host of an identifier in normal form: a domain name in lower case and in ASCII, or an address
in numbers. Under a scheme that is not one of the web, a host is any text without separators.

* `UriError`: why a text is no identifier.
* `Host.domain`: the normal form of a domain name or an address.
* `Host.plain`: the normal form of a host under other schemes.
-/

namespace Accessors

/-- Why a text is no identifier. -/
inductive UriError where
  | emptyHost
  | domainName
  | port
  | address4
  | address6
  | hostCharacter
  /-- There is no scheme. -/
  | relative
  deriving DecidableEq, Repr

/-- The text of an error. -/
def UriError.message : UriError → Text
  | .emptyHost => "empty host".toList
  | .domainName => "invalid international domain name".toList
  | .port => "invalid port number".toList
  | .address4 => "invalid IPv4 address".toList
  | .address6 => "invalid IPv6 address".toList
  | .hostCharacter => "invalid domain character".toList
  | .relative => "relative URL without a base".toList

namespace Host

/-! ## Domain names -/

/-- What a character of a domain name becomes: the lower case of its plain form. Some characters
vanish, and every full stop divides labels. -/
def foldChar (c : Char) : Text :=
  let n := c.toNat
  if n = 0x3002 || n = 0xFF0E || n = 0xFF61 then ['.']
  else if 0xFF01 ≤ n && n ≤ 0xFF5E then [(Char.ofNat (n - 0xFEE0)).toLower]
  else if n = 0xAD || n = 0x34F || n = 0x200B || n = 0x2060 || n = 0x2064 || n = 0xFEFF ||
      (0x180B ≤ n && n ≤ 0x180D) || (0xFE00 ≤ n && n ≤ 0xFE0F) then []
  else if n = 0xA0 || n = 0x3000 || (0x2000 ≤ n && n ≤ 0x200A) || n = 0x202F || n = 0x205F then
    [' ']
  else if n = 0x1E9E then ['s', 's']
  else Text.lowerChar c

/-- Whether a character beyond ASCII can stand in no domain name. -/
def isForeign (c : Char) : Bool :=
  let n := c.toNat
  (0x80 ≤ n && n ≤ 0x9F) || (0x200E ≤ n && n ≤ 0x200F) || (0x2028 ≤ n && n ≤ 0x202E) ||
    (0xE000 ≤ n && n ≤ 0xF8FF) || (0xFFF0 ≤ n && n ≤ 0xFFFF) || 0xE0000 ≤ n

/-- Whether an ASCII character can stand in no domain name. -/
def isForbidden (c : Char) : Bool :=
  c.toNat ≤ 0x20 || c.toNat = 0x7F || "%#/:<>?@[\\]^|".toList.contains c

/-- The marks in front of a label that is written in ASCII. -/
def asciiMark : Text := "xn--".toList

/-- Whether a text in ASCII stands for a label that needs it and is in normal form. -/
def isEncoded (t : Text) : Bool :=
  match Punycode.decode? t with
  | some label =>
    label.any (fun c => 128 ≤ c.toNat) && label.all fun c => foldChar c = [c] && !isForeign c
  | none => false

/-- A folded label in ASCII. -/
def asciiLabel? (label : Text) : Option Text :=
  if label.all fun c => c.toNat < 128 then
    if label.any isForbidden then none
    else if asciiMark.isPrefixOf label && !isEncoded (label.drop asciiMark.length) then none
    else some label
  else if label.any fun c => isForbidden c || isForeign c then none
  else some (asciiMark ++ Punycode.encode label)

/-- A domain name in ASCII, in lower case. -/
def asciiDomain? (t : Text) : Option Text := do
  let labels ← (Text.splitOn '.' (t.flatMap foldChar)).mapM asciiLabel?
  return Text.join ['.'] labels

/-! ## Addresses of four bytes -/

/-- A part of an address, in octal behind a zero and in hexadecimal behind `0x`. -/
def addressPart? (t : Text) : Option Nat :=
  let number (base : Nat) (isDigit : Char → Bool) (digits : Text) : Option Nat :=
    if digits.all isDigit then some (Text.valueOf base digits) else none
  match t with
  | [] => none
  | '0' :: 'x' :: digits | '0' :: 'X' :: digits => number 16 Text.isHexDigit digits
  | '0' :: d :: digits => number 8 (fun c => '0' ≤ c && c ≤ '7') (d :: digits)
  | _ => number 10 Char.isDigit t

/-- The parts of a domain name; a full stop at the end adds none. -/
def partsOf (domain : Text) : List Text :=
  let parts := Text.splitOn '.' domain
  if parts.length > 1 && parts.getLast? = some [] then parts.dropLast else parts

/-- Whether a domain name has to be an address: its last part is a number. -/
def endsInNumber (domain : Text) : Bool :=
  match (partsOf domain).getLast? with
  | some part => (!part.isEmpty && part.all Char.isDigit) || (addressPart? part).isSome
  | none => false

/-- The number of an address: the last part fills up the bytes that the others leave. -/
def addressOf? (domain : Text) : Option Nat := do
  let numbers ← (partsOf domain).mapM addressPart?
  let last ← numbers.getLast?
  let front := numbers.dropLast
  if 3 < front.length || front.any (255 < ·) || Nat.pow 256 (4 - front.length) ≤ last then none
  else
    return front.foldl (fun n part => 256 * n + part) 0 * Nat.pow 256 (4 - front.length) + last

/-- An address of four bytes as text. -/
def addressText (n : Nat) : Text :=
  Text.join ['.'] ([0x1000000, 0x10000, 0x100, 1].map fun unit => Text.ofNat (n / unit % 256))

/-! ## Addresses of eight words -/

/-- A word in hexadecimal digits. -/
def word? (t : Text) : Option Nat :=
  if !t.isEmpty && t.length ≤ 4 && t.all Text.isHexDigit then some (Text.valueOf 16 t) else none

/-- A byte in decimal digits, without a zero in front. -/
def byte? (t : Text) : Option Nat :=
  match t with
  | '0' :: _ :: _ => none
  | _ => (Text.natValue? t).filter (· < 256)

/-- The two words of an address of four bytes. -/
def twoWords? (t : Text) : Option (List Nat) := do
  match ← (Text.splitOn '.' t).mapM byte? with
  | [a, b, c, d] => return [256 * a + b, 256 * c + d]
  | _ => none

/-- Words with colons between them; at the end an address of four bytes may stand for two. -/
def words? (atEnd : Bool) (t : Text) : Option (List Nat) :=
  if t.isEmpty then some [] else go (Text.splitOn ':' t)
where
  /-- The words of groups of digits. -/
  go : List Text → Option (List Nat)
    | [] => some []
    | [group] => if atEnd && group.contains '.' then twoWords? group else (word? group).map ([·])
    | group :: groups => do return (← word? group) :: (← go groups)

/-- The text in front of the first two colons in a row, and the text behind them. -/
def cutDoubleColon : Text → Option (Text × Text)
  | [] => none
  | ':' :: ':' :: t => some ([], t)
  | c :: t => (cutDoubleColon t).map fun (front, rest) => (c :: front, rest)

/-- The eight words of an address. Two colons stand for any number of zeros. -/
def eightWords? (t : Text) : Option (List Nat) := do
  match cutDoubleColon t with
  | none =>
    let words ← if t.isEmpty then none else words? true t
    if words.length = 8 then return words else none
  | some (front, rest) =>
    let before ← words? false front
    let behind ← words? true rest
    let given := before.length + behind.length
    if given ≤ 7 then return before ++ List.replicate (8 - given) 0 ++ behind else none

/-- The length of the run of zeros at the front. -/
def zeros (words : List Nat) : Nat := (words.takeWhile (· = 0)).length

/-- Where the first of the longest runs of zeros starts, and how long it is. -/
def longestZeros (words : List Nat) : Nat × Nat :=
  (List.range words.length).foldl
    (fun best i =>
      let n := zeros (words.drop i)
      if best.2 < n then (i, n) else best)
    (0, 0)

/-- An address of eight words as text. The first of the longest runs of zeros is left out, unless
it is a single one. -/
def wordsText (words : List Nat) : Text :=
  let hex (ws : List Nat) : Text := Text.join [':'] (ws.map (Nat.toDigits 16))
  let (start, count) := longestZeros words
  if count < 2 then hex words
  else hex (words.take start) ++ "::".toList ++ hex (words.drop (start + count))

/-- An address in brackets, if it is one. -/
def bracketed (t : Text) : Except UriError Text :=
  if t.getLast? = some ']' && 1 < t.length then
    match eightWords? ((t.drop 1).dropLast) with
    | some words => .ok (['['] ++ wordsText words ++ [']'])
    | none => .error .address6
  else .error .address6

/-! ## Hosts -/

/-- The normal form of a domain name or an address. -/
def domain (t : Text) : Except UriError Text :=
  if t.head? = some '[' then bracketed t
  else match (Text.ofUtf8? (Uri.unescape t)).bind asciiDomain? with
    | none => .error .domainName
    | some [] => .error .emptyHost
    | some name =>
      if endsInNumber name then
        match addressOf? name with
        | some n => .ok (addressText n)
        | none => .error .address4
      else .ok name

/-- Whether a character can stand in no host. -/
def isSeparator (c : Char) : Bool :=
  c.toNat = 0 || c = '\t' || c = '\n' || c = '\r' || " #/:<>?@[\\]^|".toList.contains c

/-- The normal form of a host under a scheme that is not one of the web. -/
def plain (t : Text) : Except UriError Text :=
  if t.head? = some '[' then bracketed t
  else if t.any isSeparator then .error .hostCharacter
  else .ok (Uri.escape (fun _ => false) t)

end Host

end Accessors
