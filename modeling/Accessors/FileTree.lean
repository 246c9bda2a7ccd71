import Accessors.Text.Utf8

/-!
# Files

A tree of files as a value: what is stored where. Paths are texts with slashes; a path without a
leading slash starts at the working directory.

* `FileTree.resolve`: the place a path leads to.
* `FileTree.waypoints`: the places that decide where a path leads.
* `FileTree.read`, `FileTree.readText`: the contents of a file, or why there are none.
* `FileTree.write`: the tree with a file replaced.
* `FileTree.changesSince`: the files that differ between two trees.
-/

namespace Accessors

/-- A place in a tree: the names on the way from the root. -/
abbrev Place := List Text

/-- Why a file cannot be read. -/
inductive FileError where
  | notFound
  | notADirectory
  | isADirectory
  | notUtf8
  deriving DecidableEq, Repr

/-- The text shown for a file error. -/
def FileError.message : FileError → Text
  | .notFound => "No such file or directory (os error 2)".toList
  | .notADirectory => "Not a directory (os error 20)".toList
  | .isADirectory => "Is a directory (os error 21)".toList
  | .notUtf8 => "stream did not contain valid UTF-8".toList

/-- Files with their contents, and directories; what lies on the way to them is a directory too. -/
structure FileTree where
  files : List (Place × List UInt8)
  directories : List Place

namespace FileTree

/-! ## Places -/

/-- The contents of the file at a place. -/
def fileAt? (t : FileTree) (p : Place) : Option (List UInt8) := t.files.lookup p

/-- Whether a place is a directory. -/
def isDirectory (t : FileTree) (p : Place) : Bool :=
  p.isEmpty || t.directories.any (p.isPrefixOf ·) ||
    t.files.any fun (q, _) => p.isPrefixOf q && decide (p ≠ q)

/-- The place that a name leads to from a directory. -/
def step (place : Place) (name : Text) : Place :=
  if name.isEmpty || name = ['.'] then place
  else if name = ['.', '.'] then place.dropLast
  else place ++ [name]

/-- Follow the names of a path from a place. Every place on the way has to be a directory. -/
def follow (t : FileTree) (place : Place) : List Text → Except FileError Place
  | [] => .ok place
  | name :: names =>
    if (t.fileAt? place).isSome then .error .notADirectory
    else if !t.isDirectory place then .error .notFound
    else follow t (step place name) names

/-- The place where a path starts, and its names. -/
def route (workingDirectory : Place) : Text → Place × List Text
  | '/' :: rest => ([], Text.splitOn '/' rest)
  | path => (workingDirectory, Text.splitOn '/' path)

/-- The place a path leads to from a working directory. The place itself need not exist. -/
def resolve (t : FileTree) (workingDirectory : Place) (path : Text) : Except FileError Place :=
  if path.isEmpty then .error .notFound
  else
    let (start, names) := route workingDirectory path
    t.follow start names

/-- The places on the way from a place along some names, both ends among them. -/
def placesAlong (place : Place) : List Text → List Place
  | [] => [place]
  | name :: names => place :: placesAlong (step place name) names

/-- The places that decide where a path leads. -/
def waypoints (workingDirectory : Place) (path : Text) : List Place :=
  let (start, names) := route workingDirectory path
  placesAlong start names

/-- The path that names a place from the root. -/
def pathOf (p : Place) : Text :=
  match p with
  | [] => ['/']
  | _ => p.flatMap ('/' :: ·)

/-! ## Contents -/

/-- The bytes of a file. -/
def read (t : FileTree) (workingDirectory : Place) (path : Text) :
    Except FileError (List UInt8) := do
  let place ← t.resolve workingDirectory path
  match t.fileAt? place with
  | some bytes => .ok bytes
  | none => .error (if t.isDirectory place then .isADirectory else .notFound)

/-- The text of a file. -/
def readText (t : FileTree) (workingDirectory : Place) (path : Text) : Except FileError Text := do
  match Text.ofUtf8? (← t.read workingDirectory path) with
  | some text => .ok text
  | none => .error .notUtf8

/-- Whether a path leads to a file. -/
def isFile (t : FileTree) (workingDirectory : Place) (path : Text) : Bool :=
  match t.resolve workingDirectory path with
  | .ok place => (t.fileAt? place).isSome
  | .error _ => false

/-- Whether a path leads to a file or a directory. -/
def pathExists (t : FileTree) (workingDirectory : Place) (path : Text) : Bool :=
  match t.resolve workingDirectory path with
  | .ok place => (t.fileAt? place).isSome || t.isDirectory place
  | .error _ => false

/-- The tree with the contents of the file at a place replaced. -/
def writeAt (t : FileTree) (place : Place) (bytes : List UInt8) : FileTree :=
  { t with files := t.files.map fun (q, old) => (q, if q = place then bytes else old) }

/-- The tree with the contents of a file replaced; a path that leads nowhere changes nothing. -/
def write (t : FileTree) (workingDirectory : Place) (path : Text) (text : Text) : FileTree :=
  match t.resolve workingDirectory path with
  | .ok place => t.writeAt place (Text.toUtf8 text)
  | .error _ => t

/-- The files whose contents differ from those in an earlier tree, with their contents. -/
def changesSince (t earlier : FileTree) : List (Place × List UInt8) :=
  t.files.filter fun (p, bytes) => decide (earlier.fileAt? p ≠ some bytes)

end FileTree

end Accessors
