import Accessors.CommandLine.Command
import Accessors.Style

/-!
# Help

The texts that explain the command line.

* `CommandLine.helpText`: the help on a topic.
* `CommandLine.versionText`: the name and the version of the program.
-/

namespace Accessors.CommandLine

/-- The name of the program. -/
def programName : Text := "phpaccess".toList

/-- The version of the program. -/
def version : Text := "0.1.0".toList

/-- The name and the version of the program. -/
def versionText : Text := programName ++ ' ' :: version ++ ['\n']

/-- What the program does. -/
def programAbout : Text := "Generate missing getters and setters for PHP classes".toList

/-- What the server does. -/
def serverAbout : Text := "Run as a language server on stdio".toList

/-- What the help command does. -/
def helpAbout : Text := "Print this message or the help of the given subcommand(s)".toList

/-! ## Layout -/

/-- A piece of a term: words to be typed as they stand, or words that stand for others. -/
inductive Piece where
  | literal (t : Text)
  | plain (t : Text)
  deriving DecidableEq, Repr

/-- The words of a piece. -/
def Piece.text : Piece → Text
  | .literal t | .plain t => t

/-- A piece as it is shown; words to be typed are bold. -/
def Piece.paint (colors : Bool) : Piece → Text
  | .literal t => Style.bold.paint colors t
  | .plain t => t

/-- A term, and the explanation of it. -/
structure Row where
  term : List Piece
  about : Text
  deriving DecidableEq, Repr

/-- The room that a term takes on the screen. -/
def Row.width (r : Row) : Nat := (r.term.flatMap Piece.text).length

/-- Terms with their explanations, in two columns. -/
def columns (colors : Bool) (rows : List Row) : Text :=
  let width := (rows.map Row.width).foldl max 0
  rows.flatMap fun r =>
    "  ".toList ++ r.term.flatMap (Piece.paint colors) ++ Text.spaces (width - r.width) ++
      "  ".toList ++ r.about ++ ['\n']

/-- A part of a help text: a heading, and terms in two columns. -/
def part (colors : Bool) (title : Text) (rows : List Row) : Text :=
  '\n' :: Style.heading colors title ++ '\n' :: columns colors rows

/-- The first lines on a command, which is called by the given words and takes those behind. -/
def opening (colors : Bool) (about : Text) (call : List Text) (behind : Text) : Text :=
  about ++ "\n\n".toList ++ Style.heading colors "Usage:".toList ++
    ' ' :: Style.bold.paint colors (Text.join [' '] call) ++ ' ' :: behind ++ ['\n']

/-- How a switch is written, its letter in a column of its own. -/
def switchTerm (s : Switch) : List Piece :=
  (match s.short? with
    | some c => [.literal ['-', c], .plain ", ".toList]
    | none => [.plain (Text.spaces 4)]) ++
  [.literal ("--".toList ++ s.long)] ++
  (match s.placeholder? with
    | some name => [.plain (" <".toList ++ name ++ ['>'])]
    | none => [])

/-- The row of a switch that ends the reading of the words. -/
def endingRow (letter : Char) (name about : Text) : Row :=
  ⟨[.literal ['-', letter], .plain ", ".toList, .literal ("--".toList ++ name)], about⟩

/-- The row of the switch that asks for help. -/
def helpRow : Row := endingRow 'h' helpName "Print help".toList

/-- The part on the switches of a command. -/
def switchPart (colors : Bool) (switches : List Switch) : Text :=
  part colors "Options:".toList (switches.map (fun s => ⟨switchTerm s, s.about⟩) ++ [helpRow])

/-! ## Topics -/

/-- The help on a topic. -/
def helpText (colors : Bool) : Topic → Text
  | .program =>
    opening colors programAbout [programName] "<COMMAND>".toList ++
    part colors "Commands:".toList
      (Action.all.map (fun a => ⟨[.literal a.name], a.description⟩) ++
        [⟨[.literal serverName], serverAbout⟩, ⟨[.literal helpName], helpAbout⟩]) ++
    part colors "Options:".toList
      [helpRow, endingRow 'V' "version".toList "Print version".toList]
  | .action a =>
    opening colors a.description [programName, a.name] "[OPTIONS] <PATH>".toList ++
    part colors "Arguments:".toList [⟨[.plain "<PATH>".toList], "PHP file to process".toList⟩] ++
    switchPart colors Switch.ofAction
  | .server =>
    opening colors serverAbout [programName, serverName] "[OPTIONS]".toList ++
    switchPart colors Switch.shared
  | .help =>
    opening colors helpAbout [programName, helpName] "[COMMAND]...".toList ++
    part colors "Arguments:".toList
      [⟨[.plain "[COMMAND]...".toList], "Print help for the subcommand(s)".toList⟩]

end Accessors.CommandLine
