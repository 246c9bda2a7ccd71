import Accessors.CommandLine.Help
import Accessors.Diff.Lines
import Accessors.Diff.Unified
import Accessors.Json.Printer
import Accessors.Plan
import Accessors.Failure
import Accessors.Style

/-!
# Reports

What is shown of a run over a file, in one of three formats: text for a terminal, JSON, or a
unified diff.

* `Format`: the formats.
* `Ending`: how a run over a file ends.
* `Report.ofEnding`: what is shown of an ending.
-/

namespace Accessors

/-! ## Formats -/

/-- The format of a report. -/
inductive Format where
  | text
  | json
  | diff
  deriving DecidableEq, Repr

namespace Format

/-- Every format. -/
def all : List Format := [.text, .json, .diff]

/-- The name of a format. -/
def name : Format → Text
  | .text => "text".toList
  | .json => "json".toList
  | .diff => "diff".toList

/-- The format with a name, in any case of its letters. -/
def parse? (t : Text) : Option Format := all.find? fun f => decide (f.name = Text.lower t)

end Format

/-! ## Endings -/

/-- How a run over a file ends. -/
inductive Ending where
  /-- Edits are planned, and turn the old text into the new one. -/
  | edited (planned : List PlannedEdit) (old new : Text)
  | cancelled
  | stopped (failure : Failure)
  deriving DecidableEq

/-- What is written on the two outputs. -/
structure Report where
  out : Text
  err : Text
  deriving DecidableEq, Repr

namespace Report

/-- How reports are shown. -/
structure Manner where
  format : Format
  verbose : Bool
  colors : Bool

/-! ## Text -/

/-- A line of a comparison; lines that are kept are not shown. -/
def entryLine (colors : Bool) : LineDiff.Entry → Text
  | .removed line => "  ".toList ++ Style.red.paint colors ("- ".toList ++ line) ++ ['\n']
  | .added line => "  ".toList ++ Style.green.paint colors ("+ ".toList ++ line) ++ ['\n']
  | .kept _ => []

/-- The line on the methods of a class. -/
def classLine (colors : Bool) (e : PlannedEdit) : Text :=
  "  ".toList ++ Style.green.paint colors "->".toList ++ ' ' :: e.className ++ ": ".toList ++
    Text.join ", ".toList e.methods ++ ['\n']

/-- How many methods are generated. -/
def methodCount (planned : List PlannedEdit) : Nat := (planned.flatMap (·.methods)).length

/-- The last line: what was done, or how to do it. -/
def closingLine (colors written : Bool) (planned : List PlannedEdit) : Text :=
  if written then
    "  ".toList ++ Style.green.paint colors "OK".toList ++ " Generated ".toList ++
      Text.ofNat (methodCount planned) ++ " method(s)\n".toList
  else Style.yellow.paint colors "Run with --fix to apply changes".toList ++ ['\n']

/-- Edits as text. The lines that change are left out when they are written already, unless asked
for. -/
def editsText (m : Manner) (path : Text) (written : Bool) (planned : List PlannedEdit)
    (old new : Text) : Text :=
  Style.bold.paint m.colors path ++ ['\n'] ++
  (if !written || m.verbose then
    (LineDiff.compare old new).flatMap (entryLine m.colors) ++ ['\n']
  else []) ++
  planned.flatMap (classLine m.colors) ++ ['\n'] ++
  closingLine m.colors written planned

/-- A failure as text: an error goes to the error output, and a silent failure nowhere. -/
def failureText (colors : Bool) (f : Failure) : Report :=
  match f.severity with
  | .error => ⟨[], Style.red.paint colors "Error".toList ++ ": ".toList ++ f.message ++ ['\n']⟩
  | .info => ⟨Style.blue.paint colors "Info".toList ++ ": ".toList ++ f.message ++ ['\n'], []⟩
  | .silent => ⟨[], []⟩

/-! ## JSON -/

/-- A class with its generated methods. -/
def classValue (e : PlannedEdit) : Json.Value :=
  .record
    [("class", .string e.className), ("line", .natural e.lineNumber),
     ("methods", .array (e.methods.map .string))]

/-- An ending as JSON. Without a message or classes their members are left out. -/
def document (path : Text) (outcome : String) (message : Option Text) (planned : List PlannedEdit)
    (written : Bool) : Text :=
  let members :=
    [("version", .string CommandLine.version), ("path", .string path),
     ("outcome", .literal outcome)] ++
    (message.map fun t => ("message", .string t)).toList ++
    (if planned.isEmpty then [] else [("classes", .array (planned.map classValue))]) ++
    [("edits", .natural planned.length), ("written", .boolean written)]
  (Json.Value.record members).pretty ++ ['\n']

/-- The word for a failure that is shown in a given way. -/
def outcomeName : Severity → String
  | .error => "error"
  | .info => "info"
  | .silent => "cancelled"

/-! ## All formats -/

/-- What is shown of an ending. -/
def ofEnding (m : Manner) (path : Text) (written : Bool) : Ending → Report
  | .edited planned old new =>
    match m.format with
    | .text => ⟨editsText m path written planned old new, []⟩
    | .json => ⟨document path "edited" none planned written, []⟩
    | .diff => ⟨Unified.render path old new, []⟩
  | .cancelled =>
    match m.format with
    | .text => ⟨if m.verbose then path ++ ": Cancelled\n".toList else [], []⟩
    | .json => ⟨document path "cancelled" none [] false, []⟩
    | .diff => ⟨[], []⟩
  | .stopped failure =>
    match m.format with
    | .json => ⟨document path (outcomeName failure.severity) (some failure.message) [] false, []⟩
    | .text | .diff => failureText m.colors failure

end Report

end Accessors
