import Accessors.Server.Uri.Host
import Accessors.Server.Uri.Path

/-!
# Document identifiers

Uniform resource identifiers in normal form, so that two ways to write an identifier name one
document.

* `Uri`: the parts of an identifier.
* `Uri.parse`: the identifier that a text is, or why it is none.
* `Uri.text`: how an identifier is written.
-/

namespace Accessors

/-- An identifier in normal form. -/
structure Uri where
  scheme : Text
  /-- User, host and port. -/
  authority : Option Text
  path : Text
  query : Option Text
  fragment : Option Text
  deriving DecidableEq, Repr

namespace Uri

/-! ## Schemes -/

/-- The rules that a scheme puts its identifiers under. -/
inductive SchemeKind where
  | file
  /-- Another scheme of the web. -/
  | web
  | other
  deriving DecidableEq, Repr

/-- The kind of a scheme. -/
def SchemeKind.of (scheme : Text) : SchemeKind :=
  if scheme = "file".toList then .file
  else if ["http", "https", "ws", "wss", "ftp"].any fun s => s.toList = scheme then .web
  else .other

/-- Whether the schemes of a kind are those of the web, files among them. -/
def SchemeKind.isSpecial (k : SchemeKind) : Bool := k ≠ .other

/-- The port that a scheme stands for. -/
def defaultPort? (scheme : Text) : Option Nat :=
  [("http", 80), ("ws", 80), ("https", 443), ("wss", 443), ("ftp", 21)].findSome?
    fun (s, port) => if s.toList = scheme then some port else none

/-- Whether a character can stand in a scheme behind its first letter. -/
def isSchemeChar (c : Char) : Bool := c.isAlphanum || c = '+' || c = '-' || c = '.'

/-- The scheme in front of a text, in lower case, and what follows the colon behind it. -/
def takeScheme? (t : Text) : Option (Text × Text) :=
  match t.takeWhile isSchemeChar, t.dropWhile isSchemeChar with
  | c :: scheme, ':' :: rest =>
    if c.isAlpha then some ((c :: scheme).map Char.toLower, rest) else none
  | _, _ => none

/-! ## Authorities -/

/-- Whether a character ends the authority of an identifier. -/
def endsAuthority (k : SchemeKind) (c : Char) : Bool := c = '/' || (c = '\\' && k.isSpecial)

/-- The user in front of a host, with its at sign, and what follows. The last at sign counts. An
empty password is left out, and with it an empty user. -/
def takeUser (authority : Text) : Text × Text :=
  if authority.contains '@' then
    let user := ((authority.reverse.dropWhile (· ≠ '@')).drop 1).reverse
    let host := (authority.reverse.takeWhile (· ≠ '@')).reverse
    let name := escape escapedInUser (user.takeWhile (· ≠ ':'))
    let password := escape escapedInUser ((user.dropWhile (· ≠ ':')).drop 1)
    let password := if password.isEmpty then [] else ':' :: password
    (if name.isEmpty && password.isEmpty then [] else name ++ password ++ ['@'], host)
  else ([], authority)

/-- The host in front of a port, and what follows. A colon in brackets is part of the host. -/
def takeHost (inBrackets : Bool) : Text → Text × Text
  | [] => ([], [])
  | c :: t =>
    if c = ':' && !inBrackets then ([], c :: t)
    else
      let (host, rest) := takeHost (c = '[' || (inBrackets && c ≠ ']')) t
      (c :: host, rest)

/-- A port behind its colon, as it is written in an identifier of a scheme. -/
def portText (scheme digits : Text) : Except UriError Text :=
  if digits.isEmpty then .ok []
  else match Text.natValue? digits with
    | none => .error .port
    | some n =>
      if 65535 < n then .error .port
      else if defaultPort? scheme = some n then .ok []
      else .ok (':' :: Text.ofNat n)

/-- The digits of a port, and what follows them. Under any scheme a backslash ends them too. -/
def takePort : Text → Text × Text
  | t => (t.takeWhile (· ≠ '\\'), t.dropWhile (· ≠ '\\'))

/-- The authority and the path of an identifier that has an authority, of a scheme other than that
of files. -/
def authorityAndPath (scheme : Text) (k : SchemeKind) (t : Text) :
    Except UriError (Option Text × Text) := do
  let authority := t.takeWhile fun c => !endsAuthority k c
  let path := t.dropWhile fun c => !endsAuthority k c
  let (user, place) := takeUser authority
  if authority.head? = some '@' && place.isEmpty && !path.isEmpty then throw .emptyHost
  let (name, behind) := takeHost false place
  if name.isEmpty && k.isSpecial then throw .emptyHost
  let host ← if k.isSpecial then Host.domain name else Host.plain name
  if host.isEmpty && behind.head? = some ':' then throw .emptyHost
  let (digits, rest) := takePort (behind.drop 1)
  let port ← portText scheme digits
  if host.isEmpty && !user.isEmpty then throw .emptyHost
  let path := rest ++ path
  let start : Text :=
    if k.isSpecial then ['/'] else if path.isEmpty || path.head? = some '/' then [] else ['/']
  let path := if k.isSpecial then path.drop 1 else path
  return (some (user ++ host ++ port), (UriPath.read k.isSpecial false start path).text)

/-- The authority and the path of a file. The file of this machine has an empty authority. -/
def filePlace (t : Text) : Except UriError (Option Text × Text) := do
  let isSlash (c : Char) : Bool := endsAuthority .file c
  match t with
  | a :: b :: rest =>
    if isSlash a && isSlash b then
      let name := rest.takeWhile fun c => !isSlash c
      let path := rest.dropWhile fun c => !isSlash c
      if UriPath.isDrive name then return (some [], (UriPath.read true true ['/'] rest).text)
      else
        let host ← if name.isEmpty then pure [] else Host.domain name
        let host := if host = "localhost".toList then [] else host
        let (start, path) : Text × Text := if host.isEmpty then ([], path) else (['/'], path.drop 1)
        let path := UriPath.read true true start path
        return (some (if path.drive then [] else host), path.text)
    else return (some [], (UriPath.read true true (if isSlash a then [] else ['/']) t).text)
  | _ => return (some [], (UriPath.read true true (if t.any isSlash then [] else ['/']) t).text)

/-- The authority and the path of an identifier. A path without a slash in front is kept as it
is. -/
def placeOf (scheme t : Text) : Except UriError (Option Text × Text) :=
  match SchemeKind.of scheme with
  | .file => filePlace t
  | .web =>
    authorityAndPath scheme .web (t.dropWhile (endsAuthority .web))
  | .other =>
    match t with
    | '/' :: '/' :: rest => authorityAndPath scheme .other rest
    | '/' :: rest => .ok (none, (UriPath.read false false ['/'] rest).text)
    | _ => .ok (none, escape (fun _ => false) t)

/-! ## Reading -/

/-- A text before and behind the first character of a kind. -/
def cut (separator : Char) (t : Text) : Text × Option Text :=
  match t.dropWhile (· ≠ separator) with
  | [] => (t, none)
  | _ :: rest => (t.takeWhile (· ≠ separator), some rest)

/-- A text without blanks and control characters around it, and without breaks and tabs in it. -/
def cleaned (t : Text) : Text :=
  let isEdge (c : Char) : Bool := c.toNat ≤ 0x20
  let inner := ((t.dropWhile isEdge).reverse.dropWhile isEdge).reverse
  inner.filter fun c => c ≠ '\t' && c ≠ '\n' && c ≠ '\r'

/-- The identifier that a text is, or why it is none. -/
def parse (t : Text) : Except UriError Uri :=
  match takeScheme? (cleaned t) with
  | none => .error .relative
  | some (scheme, rest) => do
    let (rest, fragment) := cut '#' rest
    let (rest, query) := cut '?' rest
    let (authority, path) ← placeOf scheme rest
    return {
      scheme, authority, path
      query := query.map (escape (escapedInQuery (SchemeKind.of scheme).isSpecial))
      fragment := fragment.map (escape escapedInFragment) }

/-! ## Writing -/

/-- How an identifier is written. Without an authority two slashes at the front of a path are told
from those of an authority by a dot. -/
def text (u : Uri) : Text :=
  u.scheme ++ [':'] ++
  (match u.authority with
    | some a => "//".toList ++ a
    | none => if "//".toList.isPrefixOf u.path then "/.".toList else []) ++
  u.path ++
  (match u.query with
    | some q => '?' :: q
    | none => []) ++
  (match u.fragment with
    | some f => '#' :: f
    | none => [])

end Uri

end Accessors
