import Accessors.FileTree
import Accessors.Options
import Accessors.Toml.Reader

/-!
# Configuration

Settings from a TOML file, searched for from a directory upward.

* `Config.parse?`: the settings of a file.
* `Config.load`, `Config.search`: a given file, and the nearest one at or above a directory.
* `Config.effectiveVisibility`, `Config.effectiveTabSize`: settings after the command line, whose
  values come first.
-/

namespace Accessors

/-- The settings of a configuration file. -/
structure Config where
  visibility : Option Visibility
  tabSize : Option Toml.Value
  format : Option Text

/-- Why a configuration cannot be used. -/
inductive ConfigError where
  | unreadable (path : Text) (cause : FileError)
  | malformed (path : Text)
  deriving DecidableEq, Repr

/-- The text shown for a configuration error. -/
def ConfigError.message : ConfigError → Text
  | .unreadable path cause => "Failed to read ".toList ++ path ++ ": ".toList ++ cause.message
  | .malformed path => "Failed to parse ".toList ++ path

namespace Config

/-- The configuration without settings. -/
def empty : Config := ⟨none, none, none⟩

/-- The name of a configuration file. -/
def fileName : Text := ".phpaccess.toml".toList

/-! ## Reading settings -/

/-- The values of the given settings in a section. A section is a table, or an array that gives
the settings in order; a date is a section without settings. -/
def settings? (names : List Text) : Option Toml.Value → Option (List (Option Toml.Value))
  | none | some .dateTime => some (names.map fun _ => none)
  | some (.table _ entries) => some (names.map fun name => entries.lookup name)
  | some (.array items) => some ((List.range names.length).map (items[·]?))
  | some (.tables elements) =>
    some ((List.range names.length).map fun i => elements[i]?.map (.table .header ·))
  | some _ => none

/-- A visibility: its name, or a table with its name as the only key and nothing below. -/
def visibilityOf? : Toml.Value → Option Visibility
  | .string name => Visibility.ofKeyword? name
  | .table _ [(name, .table _ [])] | .table _ [(name, .array [])] => Visibility.ofKeyword? name
  | _ => none

/-- A width of any kind. -/
def tabSizeOf? (v : Toml.Value) : Option Toml.Value :=
  if v.datesHold Toml.isDateTime then some v else none

/-- A text. -/
def textOf? : Toml.Value → Option Text
  | .string t => some t
  | _ => none

/-- The result of reading an optional value: a value that cannot be read is an error. -/
def optional? {α : Type} (read? : Toml.Value → Option α) : Option Toml.Value → Option (Option α)
  | none => some none
  | some v => (read? v).map some

/-- The settings of a configuration file. Keys that mean nothing are passed over. -/
def parse? (t : Text) : Option Config := do
  let root ← Toml.parse? t
  let generate ← settings? ["visibility".toList, "tab_size".toList] (root.lookup "generate".toList)
  let output ← settings? ["format".toList] (root.lookup "output".toList)
  return {
    visibility := ← optional? visibilityOf? (generate[0]?.join)
    tabSize := ← optional? tabSizeOf? (generate[1]?.join)
    format := ← optional? textOf? (output[0]?.join) }

/-! ## Finding files -/

/-- The settings of the file at a path. -/
def load (t : FileTree) (workingDirectory : Place) (path : Text) : Except ConfigError Config :=
  match t.readText workingDirectory path with
  | .error cause => .error (.unreadable path cause)
  | .ok text =>
    match parse? text with
    | some config => .ok config
    | none => .error (.malformed path)

/-- The path of the configuration file in a directory, which is given by the names on the way to
it. -/
def pathIn (names : List Text) : Text :=
  let directory := '/' :: Text.join ['/'] names
  (if directory.getLast? = some '/' then directory else directory ++ ['/']) ++ fileName

/-- Whether a name leads nowhere. -/
def isIdle (name : Text) : Bool := name.isEmpty || name = ['.']

/-- The directories at and above one, each given by its names from the innermost one outward. -/
def ancestors : List Text → List (List Text)
  | [] => [[]]
  | name :: outer => if isIdle name then ancestors outer else (name :: outer) :: ancestors outer

/-- The paths at which a configuration file is looked for from a directory upward. The directory
is given by the names on the way to it. -/
def candidates (directory : List Text) : List Text :=
  match directory.reverse with
  | [] => [pathIn []]
  | _ :: outer => pathIn directory :: (ancestors outer).map fun d => pathIn d.reverse

/-- The path of the nearest configuration file at or above a directory. -/
def nearest? (t : FileTree) (directory : List Text) : Option Text :=
  (candidates directory).find? (t.pathExists [] ·)

/-- The settings of the nearest configuration file at or above a directory, and its path. A file
that is there and cannot be used is an error, whatever lies above it. -/
def search (t : FileTree) (directory : List Text) : Except ConfigError (Option (Config × Text)) :=
  match nearest? t directory with
  | none => .ok none
  | some path =>
    match load t [] path with
    | .ok config => .ok (some (config, path))
    | .error e => .error e

/-! ## Effective settings -/

/-- The visibility in force; the command line comes first. -/
def effectiveVisibility (c : Config) (commandLine : Option Visibility) : Visibility :=
  (commandLine.or c.visibility).getD .isPrivate

/-- The indentation in force; the command line comes first, usable or not. -/
def effectiveTabSize (c : Config) (commandLine : Option Text) : Nat :=
  match commandLine with
  | some width => resolveTabSize (some width)
  | none =>
    match c.tabSize with
    | some (.integer width) => resolveTabSize (some (Text.ofInt width))
    | some (.string width) => resolveTabSize (some width)
    | _ => resolveTabSize none

end Config

end Accessors
