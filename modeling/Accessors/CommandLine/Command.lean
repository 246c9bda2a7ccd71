import Accessors.CommandLine.Switch
import Accessors.Options

/-!
# Commands

What the words of a command line ask for. Words are read from left to right, and the first one
that does not fit ends the reading.

* `Command`: what can be asked for.
* `CommandLine.collect`: the switches and the other words of a command.
* `CommandLine.parse?`: the command that words ask for.
-/

namespace Accessors

/-- The switches that every command has, as they were given. -/
structure SharedArguments where
  visibility : Option Text
  tabSize : Option Text
  config : Option Text
  noConfig : Bool
  verbose : Bool
  deriving DecidableEq, Repr

/-- The words of an action. -/
structure ActionArguments where
  path : Text
  fix : Bool
  yes : Bool
  format : Option Text
  json : Bool
  shared : SharedArguments
  deriving DecidableEq, Repr

/-- The commands that help can be asked for. -/
inductive Topic where
  | program
  | action (a : Action)
  | server
  | help
  deriving DecidableEq, Repr

/-- What a command line asks for. -/
inductive Command where
  | act (action : Action) (arguments : ActionArguments)
  | serve (arguments : SharedArguments)
  | help (topic : Topic)
  | version
  deriving DecidableEq, Repr

namespace CommandLine

/-! ## Words -/

/-- Why the reading of words ends before their end. -/
inductive Interruption where
  | misuse
  | help
  deriving DecidableEq, Repr

/-- The words of a command as far as they are read. -/
structure Words where
  /-- The switches with their values. -/
  switches : List (Switch × Text)
  operands : List Text
  /-- The switch whose value is the next word. -/
  pending : Option Switch
  /-- Whether every further word is an operand. -/
  operandsOnly : Bool
  deriving DecidableEq, Repr

/-- The words before any is read. -/
def Words.start : Words := ⟨[], [], none, false⟩

/-- Whether a switch was given. -/
def Words.has (w : Words) (s : Switch) : Bool := (w.switches.lookup s).isSome

/-- The value a switch was given. -/
def Words.value? (w : Words) (s : Switch) : Option Text := w.switches.lookup s

/-- Take note of a switch. A switch is given once at most, and a path is not empty. -/
def Words.addSwitch (w : Words) (s : Switch) (value : Text) : Except Interruption Words :=
  if w.has s || (s.takesPath && value.isEmpty) then .error .misuse
  else .ok { w with switches := w.switches ++ [(s, value)], pending := none }

/-- Take note of an operand. Operands are paths, and there are no more than `limit` of them. -/
def Words.addOperand (w : Words) (limit : Nat) (operand : Text) : Except Interruption Words :=
  if limit ≤ w.operands.length || operand.isEmpty then .error .misuse
  else .ok { w with operands := w.operands ++ [operand] }

/-- The name of the switch and of the command that ask for help. -/
def helpName : Text := "help".toList

/-- A word behind two hyphens, split at its first equals sign. -/
def splitLong (t : Text) : Text × Option Text :=
  match t.dropWhile (· ≠ '=') with
  | '=' :: value => (t.takeWhile (· ≠ '='), some value)
  | _ => (t, none)

/-- Read letters behind one hyphen. -/
def addLetters (allowed : List Switch) (w : Words) : Text → Except Interruption Words
  | [] => .ok w
  | 'h' :: _ => .error .help
  | c :: letters =>
    match allowed.find? fun s => s.short? = some c with
    | some s => (w.addSwitch s []).bind fun w => addLetters allowed w letters
    | none => .error .misuse

/-- Whether a word is written as a switch. One hyphen alone is not. -/
def isSwitchWord : Text → Bool
  | '-' :: _ :: _ => true
  | _ => false

/-- Read a word behind two hyphens. -/
def addLong (allowed : List Switch) (w : Words) (body : Text) : Except Interruption Words :=
  let (name, attached) := splitLong body
  match allowed.find? (fun s => s.long = name), attached with
  | some s, some value => if s.takesValue then w.addSwitch s value else .error .misuse
  | some s, none =>
    if s.takesValue then .ok { w with pending := some s } else w.addSwitch s []
  | none, some _ => .error .misuse
  | none, none => .error (if name = helpName then .help else .misuse)

/-- Read a word. The word of two hyphens makes every word behind it an operand. -/
def addWord (allowed : List Switch) (limit : Nat) (w : Words) (word : Text) :
    Except Interruption Words :=
  if w.operandsOnly then w.addOperand limit word
  else match w.pending, word with
    | some s, value => if isSwitchWord value then .error .misuse else w.addSwitch s value
    | none, ['-', '-'] => .ok { w with operandsOnly := true }
    | none, '-' :: '-' :: body => addLong allowed w body
    | none, '-' :: c :: letters => addLetters allowed w (c :: letters)
    | none, operand => w.addOperand limit operand

/-- Read the words of a command. A switch that takes a value needs one. -/
def collect (allowed : List Switch) (limit : Nat) (words : List Text) :
    Except Interruption Words := do
  let w ← words.foldlM (addWord allowed limit) Words.start
  if w.pending.isSome then .error .misuse else .ok w

/-! ## Commands -/

/-- The switches that every command has. -/
def sharedArguments (w : Words) : SharedArguments :=
  { visibility := w.value? .visibility
    tabSize := w.value? .tabSize
    config := w.value? .config
    noConfig := w.has .noConfig
    verbose := w.has .verbose }

/-- The arguments of an action: it needs a path, and has one way to give the format at most. -/
def actionArguments (w : Words) : Except Interruption ActionArguments :=
  match w.operands with
  | [path] =>
    if w.has .json && w.has .format then .error .misuse
    else .ok
      { path
        fix := w.has .fix
        yes := w.has .yes
        format := w.value? .format
        json := w.has .json
        shared := sharedArguments w }
  | _ => .error .misuse

/-- The name of the command that runs the server. -/
def serverName : Text := "lsp".toList

/-- The topic with a name. -/
def topic? (name : Text) : Option Topic :=
  if name = serverName then some .server
  else if name = helpName then some .help
  else (Action.ofName? name).map .action

/-- The topic that the words behind the name of the help command ask for. -/
def helpTopic? : List Text → Option Topic
  | [] => some .program
  | [name] => topic? name
  | _ => none

/-- The command that a topic and the words behind its name ask for. -/
def commandOf (words : List Text) : Topic → Except Interruption Command
  | .program => .error .misuse
  | .help => ((helpTopic? words).map .help).elim (.error .misuse) .ok
  | .server => (collect Switch.shared 0 words).map fun w => .serve (sharedArguments w)
  | .action a =>
    ((collect Switch.ofAction 1 words).bind actionArguments).map (.act a ·)

/-- The command that words ask for; none when they are misused. -/
def parse? : List Text → Option Command
  | [] => none
  | word :: words =>
    match topic? word with
    | some topic =>
      match commandOf words topic with
      | .ok command => some command
      | .error .help => some (.help topic)
      | .error .misuse => none
    | none =>
      if word = "--version".toList then some .version
      else if word = "--help".toList then some (.help .program)
      else match word with
        | '-' :: 'V' :: _ => some .version
        | '-' :: 'h' :: _ => some (.help .program)
        | _ => none

end CommandLine

end Accessors
