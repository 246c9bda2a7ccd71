import Accessors.Selection
import Accessors.Style
import Accessors.Text.Blank
import Accessors.Text.Number
import Accessors.Text.Utf8

/-!
# The prompt

Asking on a terminal which classes to take. The classes are listed with numbers. An empty line
accepts them all, numbers with commas between them accept some of them, and `q` or the end of the
input dismisses the request. Any other line is refused, and the question is put again.

* `Prompt.parseAnswer`: what a line means.
* `Prompt.run`: the answer to a request and everything written on the terminal.
-/

namespace Accessors.Prompt

open Selection (Item Request Response)

/-! ## Answers -/

/-- What a line means. -/
inductive Answer where
  | acceptPicked
  /-- Accept the items at these places, counted from zero. -/
  | accept (indices : List Nat)
  | dismiss
  | invalid
  deriving DecidableEq, Repr

/-- The places that numbers stand for, in the order of their first mention. -/
def places? (count : Nat) (chosen : List Nat) : List Text → Option (List Nat)
  | [] => some chosen
  | part :: parts =>
    match Text.word64? part with
    | some (n + 1) =>
      if n < count then places? count (if chosen.contains n then chosen else chosen ++ [n]) parts
      else none
    | _ => none

/-- Whether two texts are equal up to the case of ASCII letters. -/
def sameLetters (s t : Text) : Bool := s.map Char.toLower = t.map Char.toLower

/-- What a line means when `count` items are listed. -/
def parseAnswer (line : Text) (count : Nat) : Answer :=
  let line := Text.trim line
  if line.isEmpty then .acceptPicked
  else if sameLetters line "q".toList || sameLetters line "quit".toList then .dismiss
  else
    let parts := ((Text.splitOn ',' line).map Text.trim).filter (!·.isEmpty)
    match places? count [] parts with
    | some chosen => .accept chosen
    | none => .invalid

/-- The answer to a request that a line gives. -/
def Answer.toResponse (r : Request) : Answer → Response
  | .acceptPicked => Selection.acceptPicked r
  | .accept indices => .accepted (indices.filterMap fun i => r.items[i]?.map (·.label))
  | .dismiss | .invalid => .dismissed

/-! ## The terminal -/

/-- The question. -/
def question : Text := "Enter to accept, numbers (e.g. 1,3) to choose, q to cancel: ".toList

/-- The line of an item. -/
def itemLine (colors : Bool) (index : Nat) (item : Item) : Text :=
  let number := Text.padLeft 2 (Text.ofNat (index + 1)) ++ ['.']
  let mark := if item.picked then "[x]".toList else "[ ]".toList
  "  ".toList ++ Style.dimmed.paint colors number ++ [' '] ++ mark ++ [' '] ++ item.label ++ ['\n']

/-- The lines of the items from a place on. -/
def itemLines (colors : Bool) (index : Nat) : List Item → Text
  | [] => []
  | item :: items => itemLine colors index item ++ itemLines colors (index + 1) items

/-- The title and the items. -/
def heading (colors : Bool) (r : Request) : Text :=
  Style.bold.paint colors r.title ++ ['\n'] ++ itemLines colors 0 r.items

/-- What is written when a line is refused. -/
def refusal (colors : Bool) : Text :=
  Style.yellow.paint colors "Invalid selection".toList ++ ['\n']

/-- The lines of an input, each with its line feed. -/
def inputLines : List UInt8 → List (List UInt8)
  | [] => []
  | b :: bytes =>
    if b = 10 then [b] :: inputLines bytes
    else match inputLines bytes with
      | [] => [[b]]
      | line :: lines => (b :: line) :: lines

/-- What the bytes of a line mean; none when the line is refused. A line that is not UTF-8
dismisses the request. -/
def answerOf? (count : Nat) (line : List UInt8) : Option Answer :=
  match (Text.ofUtf8? line).map (parseAnswer · count) with
  | none => some .dismiss
  | some .invalid => none
  | some answer => some answer

/-- Put the question until a line answers it. The end of the input dismisses the request. -/
def ask (colors : Bool) (count : Nat) : List (List UInt8) → Answer × Text
  | [] => (.dismiss, question)
  | line :: lines =>
    match answerOf? count line with
    | some answer => (answer, question)
    | none =>
      let (answer, written) := ask colors count lines
      (answer, question ++ refusal colors ++ written)

/-- The answer to a request, and everything written on the terminal. -/
def run (colors : Bool) (input : List UInt8) (r : Request) : Response × Text :=
  let (answer, written) := ask colors r.items.length (inputLines input)
  (answer.toResponse r, heading colors r ++ written)

end Accessors.Prompt
