import Accessors.Server.Uri.Escape

/-!
# Paths of identifiers

A path is taken segment by segment. A dot stands for the directory it is in, two dots for the
directory above. In the path of a file the letter of a drive at the front stays where it is, and a
file with a drive has no host.

* `UriPath.append`: a path with a segment behind it.
* `UriPath.read`: the normal form of a path.
-/

namespace Accessors

/-- A path in normal form, and whether it starts with a drive. -/
structure UriPath where
  text : Text
  drive : Bool
  deriving DecidableEq, Repr

namespace UriPath

/-! ## Segments -/

/-- Whether a segment stands for the directory it is in. -/
def isDot (segment : Text) : Bool :=
  [".", "%2e", "%2E"].any fun s => s.toList = segment

/-- Whether a segment stands for the directory above. -/
def isDotDot (segment : Text) : Bool :=
  ["..", ".%2e", ".%2E", "%2e.", "%2E.", "%2e%2e", "%2E%2e", "%2e%2E", "%2E%2E"].any fun s =>
    s.toList = segment

/-- Whether a segment is a drive: a letter, and a colon or a bar. -/
def isDrive : Text → Bool
  | [c, mark] => c.isAlpha && (mark = ':' || mark = '|')
  | _ => false

/-- Whether a segment is a drive with a colon. -/
def isColonDrive (segment : Text) : Bool := isDrive segment && segment.getLast? = some ':'

/-- The last segment of a path. -/
def lastSegment (path : Text) : Text := (path.reverse.takeWhile (· ≠ '/')).reverse

/-- A path without its last segment; the slash in front of it stays. -/
def dropSegment (path : Text) : Text := (path.reverse.dropWhile (· ≠ '/')).reverse

/-- The path of the directory above. A path that ends with a slash loses the segment in front of
it, unless that is a drive or there is none. -/
def above (isFile : Bool) (path : Text) : Text :=
  let path :=
    if path.getLast? = some '/' && path.dropLast.contains '/' &&
        !isDrive (lastSegment path.dropLast) then path.dropLast
    else path
  if isFile && isColonDrive (lastSegment path) then path else dropSegment path

/-- A path with a slash at its end. -/
def withSlash (path : Text) : Text := if path.getLast? = some '/' then path else path ++ ['/']

/-- A path with a segment behind it; the flag tells whether a slash follows. -/
def append (isFile : Bool) (p : UriPath) (segment : Text) (slash : Bool) : UriPath :=
  let closing := if slash then ['/'] else []
  if isDotDot segment then
    let up := above isFile p.text
    { p with text := if slash then withSlash up else up }
  else if isDot segment then { p with text := withSlash p.text }
  else if isFile && p.text = ['/'] && isDrive segment then
    { text := p.text ++ segment.take 1 ++ [':'] ++ closing, drive := true }
  else
    { p with text := p.text ++ Uri.escape Uri.escapedInPath segment ++ closing }

/-! ## Paths -/

/-- The segments of a text, each with whether a slash follows. Under the schemes of the web a
backslash is a slash. -/
def segments (special : Bool) (t : Text) : List (Text × Bool) :=
  mark (Text.splitOn '/' (if special then t.map fun c => if c = '\\' then '/' else c else t))
where
  /-- Mark all but the last. -/
  mark : List Text → List (Text × Bool)
    | [] => []
    | [s] => [(s, false)]
    | s :: rest => (s, true) :: mark rest

/-- The normal form of a path: the segments of a text behind what is known of it. The path of a
file has exactly one slash at its front. -/
def read (special isFile : Bool) (start t : Text) : UriPath :=
  let p := (segments special t).foldl (fun p (segment, slash) => p.append isFile segment slash)
    ⟨start, false⟩
  if isFile then { p with text := '/' :: p.text.dropWhile (· = '/') } else p

end UriPath

end Accessors
