import Accessors.Run

/-!
# The program

Reading the files that a command needs, running it, and writing what it leaves behind. The question
which classes to take is put while the program runs, and so are the answers of the server.

* `Main.snapshot`: the files that a command may read.
* `main`: the program.
-/

namespace Accessors.Main

open Selection (Request Response)

/-! ## Files -/

/-- Add what is found at a place to a tree. -/
def observe (t : FileTree) (place : Place) : IO FileTree := do
  try
    let bytes ← IO.FS.readBinFile (String.ofList (FileTree.pathOf place))
    return { t with files := t.files ++ [(place, bytes.toList)] }
  catch e =>
    match e with
    | .inappropriateType _ 21 _ => return { t with directories := t.directories ++ [place] }
    | _ => return t

/-- The files that a command may read. -/
def snapshot (workingDirectory : Place) (command : Command) : IO FileTree :=
  let places := (Run.paths workingDirectory command).flatMap (FileTree.waypoints workingDirectory)
  (workingDirectory :: places).eraseDups.foldlM observe ⟨[], []⟩

/-- Replace a file in one step: its new contents are written beside it first. -/
def replaceFile (place : Place) (bytes : List UInt8) : IO Unit := do
  let path := String.ofList (FileTree.pathOf place)
  let fresh := path ++ ".phpaccess-new"
  IO.FS.writeBinFile fresh ⟨bytes.toArray⟩
  IO.FS.rename fresh path

/-! ## Input -/

/-- Read a line with its line feed; at the end of the input there is nothing left to read. -/
partial def readLine (input : IO.FS.Stream) (read : Array UInt8) : IO (List UInt8) := do
  let bytes ← input.read 1
  match bytes.toList with
  | [] => return read.toList
  | b :: _ => if b = 10 then return (read.push b).toList else readLine input (read.push b)

/-! ## Conversations -/

/-- Write a text at once. -/
def say (output : IO.FS.Stream) (t : Text) : IO Unit := do
  output.putStr (String.ofList t)
  output.flush

/-- Put the question until a line answers it. -/
partial def ask (input output : IO.FS.Stream) (colors : Bool) (r : Request) : IO Response := do
  say output Prompt.question
  let line ← readLine input #[]
  if line.isEmpty then return .dismissed
  else match Prompt.answerOf? r.items.length line with
    | some answer => return answer.toResponse r
    | none =>
      say output (Prompt.refusal colors)
      ask input output colors r

/-- How many bytes are taken at once from an editor. -/
def portion : USize := 8192

/-- Answer the messages of an editor until it leaves. -/
partial def serve (input output : IO.FS.Stream) (settings : ServerSettings) (c : Connection) :
    IO Unit := do
  let arrived ← input.read portion
  if arrived.isEmpty then say output (c.finish settings)
  else
    let (c, out) := c.feed settings arrived.toList
    say output out
    if c.isOpen then serve input output settings c

/-! ## Commands -/

/-- Write what a command leaves behind. -/
def finish (before : FileTree) (o : Run.Outcome) : IO UInt32 := do
  for (place, bytes) in o.files.changesSince before do
    replaceFile place bytes
  say (← IO.getStdout) o.out
  say (← IO.getStderr) o.err
  return o.exitCode.toUInt32

/-- Run a command. -/
def perform (here : Run.Surroundings) (command : Command) : IO UInt32 := do
  let input ← IO.getStdin
  match command with
  | .act action a =>
    match Run.act here action a with
    | .finished o => finish here.files o
    | .asking request resume =>
      let err ← IO.getStderr
      say err (Prompt.heading here.colors request)
      finish here.files (resume (← ask input err here.colors request))
  | .serve a =>
    match Run.serverSettings here a with
    | .error e => finish here.files (here.fails e)
    | .ok settings =>
      serve input (← IO.getStdout) settings .initial
      return 0
  | .help _ | .version => finish here.files (Run.run here [] command)

/-- Whether terminals show colours. -/
def colors : IO Bool := do
  let wish (name : String) : IO (Option Text) := return (← IO.getEnv name).map String.toList
  return Style.areOn (← wish "CLICOLOR_FORCE") (← wish "NO_COLOR") (← wish "CLICOLOR")
    (← (← IO.getStdout).isTty)

/-- Run the program on the words of its command line. -/
def program (words : List String) : IO UInt32 := do
  match CommandLine.parse? (words.map String.toList) with
  | none =>
    say (← IO.getStderr) (CommandLine.helpText false .program)
    return 2
  | some command =>
    let workingDirectory := (FileTree.route [] (toString (← IO.currentDir)).toList).2
    perform ⟨← snapshot workingDirectory command, workingDirectory, ← colors⟩ command

end Accessors.Main

/-- The program. -/
def main (words : List String) : IO UInt32 := Accessors.Main.program words
