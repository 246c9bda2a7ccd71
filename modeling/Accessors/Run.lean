import Accessors.CommandLine.Help
import Accessors.Config
import Accessors.Generate
import Accessors.Prompt
import Accessors.Report
import Accessors.Server.Transport

/-!
# Running commands

What a command does to a tree of files, and what it writes. A run may have to ask which classes to
take; until the answer nothing is written to a file.

* `RunError`: what can go wrong before there is anything to report.
* `Run.act`: an action up to its question.
* `Run.run`: a whole command.
* `Run.paths`: the paths of the files that a command may read.
-/

namespace Accessors

open Selection (Request Response)

/-! ## Errors -/

/-- What can go wrong before there is anything to report. -/
inductive RunError where
  | config (e : ConfigError)
  | unknownFormat (name : Text)
  | unknownVisibility (name : Text)
  | unreadable (path : Text) (cause : FileError)
  /-- The generated text has a syntax error. -/
  | brokenOutput (path : Text)
  deriving DecidableEq, Repr

namespace RunError

/-- The text shown for an error. -/
def message : RunError → Text
  | .config e => e.message
  | .unknownFormat name =>
    "Invalid output format \x27".toList ++ name ++ "\x27. Valid options: text, json, diff".toList
  | .unknownVisibility name =>
    "Invalid visibility \x27".toList ++ name ++ "\x27. Valid options: private, public".toList
  | .unreadable path cause =>
    "Failed to read file: ".toList ++ path ++ ": ".toList ++ cause.message
  | .brokenOutput path =>
    "Generated code for ".toList ++ path ++ " does not parse, file left unchanged".toList

end RunError

namespace Run

/-! ## Surroundings -/

/-- What a command finds when it starts. -/
structure Surroundings where
  files : FileTree
  workingDirectory : Place
  /-- Whether terminals show colours. -/
  colors : Bool

/-- What a command leaves behind. -/
structure Outcome where
  exitCode : Nat
  out : Text
  err : Text
  files : FileTree

/-- The outcome that only writes to the standard output. -/
def Surroundings.says (here : Surroundings) (text : Text) : Outcome := ⟨0, text, [], here.files⟩

/-- The outcome of an error. -/
def Surroundings.fails (here : Surroundings) (e : RunError) : Outcome :=
  ⟨1, [], Style.red.paint here.colors "Error".toList ++ ": ".toList ++ e.message ++ ['\n'],
    here.files⟩

/-! ## Settings -/

/-- The configuration in force: none at all, the given file, or the nearest one. -/
def configuration (here : Surroundings) (a : SharedArguments) : Except RunError Config :=
  if a.noConfig then .ok .empty
  else match a.config with
    | some path => (Config.load here.files here.workingDirectory path).mapError .config
    | none =>
      match Config.search here.files here.workingDirectory with
      | .ok (some (config, _)) => .ok config
      | .ok none => .ok .empty
      | .error e => .error (.config e)

/-- The visibility in force. -/
def visibility (config : Config) (a : SharedArguments) : Except RunError Visibility :=
  match a.visibility with
  | none => .ok (config.effectiveVisibility none)
  | some name =>
    match Visibility.parse? name with
    | some v => .ok (config.effectiveVisibility (some v))
    | none => .error (.unknownVisibility name)

/-- The format in force. -/
def format (config : Config) (a : ActionArguments) : Except RunError Format :=
  if a.json then .ok .json
  else
    let name := (a.format.or config.format).getD Format.text.name
    match Format.parse? name with
    | some f => .ok f
    | none => .error (.unknownFormat name)

/-- The manner of the report and the options of an action. -/
def settings (here : Surroundings) (action : Action) (a : ActionArguments) :
    Except RunError (Report.Manner × Options) := do
  let config ← configuration here a.shared
  let format ← format config a
  let visibility ← visibility config a.shared
  return (⟨format, a.shared.verbose, here.colors⟩,
    ⟨action.kinds, visibility, config.effectiveTabSize a.shared.tabSize⟩)

/-- The settings of the server. -/
def serverSettings (here : Surroundings) (a : SharedArguments) :
    Except RunError ServerSettings := do
  let config ← configuration here a
  return ⟨← visibility config a, config.effectiveTabSize a.tabSize⟩

/-! ## Actions -/

/-- The text of the file at a path; none when there is no file. -/
def source (here : Surroundings) (path : Text) : Except RunError (Option Text) :=
  if here.files.isFile here.workingDirectory path then
    match here.files.readText here.workingDirectory path with
    | .ok text => .ok (some text)
    | .error cause => .error (.unreadable path cause)
  else .ok none

/-- How a run over a file ends. Generated text with a syntax error is refused. -/
def ending (path source : Text) : Except Failure Generation → Except RunError Ending
  | .error failure => .ok (.stopped failure)
  | .ok .cancelled => .ok .cancelled
  | .ok (.edited planned _ output) =>
    if (Syntax.Program.parse? output).isSome then .ok (.edited planned source output)
    else .error (.brokenOutput path)

/-- The exit code of an ending. -/
def exitCode (fix : Bool) : Ending → Nat
  | .edited .. => if fix then 0 else 2
  | .cancelled => 0
  | .stopped failure =>
    match failure.severity with
    | .error => 1
    | .info | .silent => 0

/-- The files after an ending. -/
def filesAfter (here : Surroundings) (a : ActionArguments) : Ending → FileTree
  | .edited _ _ new =>
    if a.fix then here.files.write here.workingDirectory a.path new else here.files
  | .cancelled | .stopped _ => here.files

/-- The outcome of an ending. -/
def conclude (here : Surroundings) (manner : Report.Manner) (a : ActionArguments) :
    Except RunError Ending → Outcome
  | .error e => here.fails e
  | .ok e =>
    let report := Report.ofEnding manner a.path a.fix e
    ⟨exitCode a.fix e, report.out, report.err, filesAfter here a e⟩

/-- A command as far as it gets without an answer. -/
inductive Stage where
  | finished (o : Outcome)
  | asking (request : Request) (resume : Response → Outcome)

/-- An action up to its question. -/
def act (here : Surroundings) (action : Action) (a : ActionArguments) : Stage :=
  match settings here action a with
  | .error e => .finished (here.fails e)
  | .ok (manner, options) =>
    let conclude := conclude here manner a
    match source here a.path with
    | .error e => .finished (conclude (.error e))
    | .ok none => .finished (conclude (.ok (.stopped .noActiveDocument)))
    | .ok (some source) =>
      match Generate.offer source options with
      | .error failure => .finished (conclude (.ok (.stopped failure)))
      | .ok offer =>
        let resume := fun response =>
          conclude (ending a.path source (Generate.finish source options offer response))
        if a.yes then .finished (resume (Selection.acceptPicked offer.request))
        else .asking offer.request resume

/-- A whole action; the question is answered on the terminal. -/
def runAction (here : Surroundings) (action : Action) (a : ActionArguments)
    (input : List UInt8) : Outcome :=
  match act here action a with
  | .finished o => o
  | .asking request resume =>
    let (response, transcript) := Prompt.run here.colors input request
    let o := resume response
    { o with err := transcript ++ o.err }

/-! ## Commands -/

/-- The paths of the configuration files that a command may read. -/
def configPaths (workingDirectory : Place) (a : SharedArguments) : List Text :=
  if a.noConfig then []
  else match a.config with
    | some path => [path]
    | none => Config.candidates workingDirectory

/-- The paths of the files that a command may read. -/
def paths (workingDirectory : Place) : Command → List Text
  | .act _ a => a.path :: configPaths workingDirectory a.shared
  | .serve a => configPaths workingDirectory a
  | .help _ | .version => []

/-- A whole command. -/
def run (here : Surroundings) (input : List UInt8) : Command → Outcome
  | .act action a => runAction here action a input
  | .serve a =>
    match serverSettings here a with
    | .error e => here.fails e
    | .ok settings => here.says (Transport.serve settings input)
  | .help topic => here.says (CommandLine.helpText here.colors topic)
  | .version => here.says CommandLine.versionText

end Run

end Accessors
