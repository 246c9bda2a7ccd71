import Accessors.Text.Basic

/-!
# Switches

The options of the command line: how each is written, whether it takes a value, and what it does.

* `Switch.long`, `Switch.short?`: how a switch is written.
* `Switch.placeholder?`: the name of its value, for the switches that take one.
* `Switch.shared`, `Switch.ofAction`: the switches of the server and those of an action.
-/

namespace Accessors

/-- An option of the command line. -/
inductive Switch where
  | fix
  | yes
  | format
  | json
  | visibility
  | tabSize
  | config
  | noConfig
  | verbose
  deriving DecidableEq, Repr

namespace Switch

/-- The long name, without the hyphens in front. -/
def long : Switch → Text
  | .fix => "fix".toList
  | .yes => "yes".toList
  | .format => "format".toList
  | .json => "json".toList
  | .visibility => "visibility".toList
  | .tabSize => "tab-size".toList
  | .config => "config".toList
  | .noConfig => "no-config".toList
  | .verbose => "verbose".toList

/-- The letter, for the switches that have one. -/
def short? : Switch → Option Char
  | .yes => some 'y'
  | .verbose => some 'v'
  | _ => none

/-- The name of the value, for the switches that take one. -/
def placeholder? : Switch → Option Text
  | .format => some "FORMAT".toList
  | .visibility => some "VISIBILITY".toList
  | .tabSize => some "N".toList
  | .config => some "PATH".toList
  | _ => none

/-- Whether a switch takes a value. -/
def takesValue (s : Switch) : Bool := s.placeholder?.isSome

/-- Whether the value of a switch is a path. -/
def takesPath : Switch → Bool
  | .config => true
  | _ => false

/-- What a switch does. -/
def about : Switch → Text
  | .fix => "Write the generated methods to the file".toList
  | .yes => "Include every candidate class without prompting".toList
  | .format => "Output format: text, json, diff".toList
  | .json => "Shorthand for --format json".toList
  | .visibility => "Property visibility to generate for: private, public".toList
  | .tabSize => "Indentation width for generated code".toList
  | .config => "Path to config file (default: auto-detect .phpaccess.toml)".toList
  | .noConfig => "Ignore config files".toList
  | .verbose => "Show verbose output".toList

/-- The switches that every command has. -/
def shared : List Switch := [.visibility, .tabSize, .config, .noConfig, .verbose]

/-- The switches of an action. -/
def ofAction : List Switch := [.fix, .yes, .format, .json] ++ shared

end Switch

end Accessors
