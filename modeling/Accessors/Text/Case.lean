import Accessors.Text.Basic
import Accessors.Text.CaseTable

/-!
# Lower and upper case

Full Unicode case mapping. Lower-casing a text maps every character on its own, apart from the
capital sigma, whose image depends on whether it ends a word.

* `Text.lower`: a text in lower case.
* `Text.upperChar`: the upper case of one character, possibly several characters.
* `Text.capitalize`: a text with its first character in upper case.
-/

namespace Accessors.Text

/-! ## Tables -/

/-- The image of a code point under a table of runs. -/
def runImage? (runs : List (Nat × Nat × Nat × Nat)) (n : Nat) : Option Nat :=
  runs.findSome? fun (first, last, step, image) =>
    if first ≤ n ∧ n ≤ last ∧ (n - first) % step = 0 then some (image + (n - first)) else none

/-- Whether a code point lies in one of the ranges. -/
def inRanges (ranges : List (Nat × Nat)) (n : Nat) : Bool :=
  ranges.any fun (first, last) => first ≤ n && n ≤ last

/-- The property Cased, for characters that are not Case_Ignorable. -/
def isCased (c : Char) : Bool :=
  if c.val < 128 then c.isAlpha else inRanges CaseTable.casedRanges c.toNat

/-- The property Case_Ignorable. -/
def isCaseIgnorable (c : Char) : Bool :=
  if c.val < 128 then c = '\x27' || c = '.' || c = ':' || c = '^' || c = '\x60'
  else inRanges CaseTable.caseIgnorableRanges c.toNat

/-! ## Characters -/

/-- The lower case of one character, without regard to its neighbours. -/
def lowerChar (c : Char) : Text :=
  if c.val < 128 then [c.toLower]
  else if c = '\u0130' then ['i', '\u0307']
  else match runImage? CaseTable.lowerRuns c.toNat with
    | some n => [Char.ofNat n]
    | none => [c]

/-- The upper case of one character. -/
def upperChar (c : Char) : Text :=
  if c.val < 128 then [c.toUpper]
  else match CaseTable.upperExpansions.lookup c.toNat with
    | some ns => ns.map Char.ofNat
    | none => match runImage? CaseTable.upperRuns c.toNat with
      | some n => [Char.ofNat n]
      | none => [c]

/-! ## Texts -/

/-- Whether the first character that is not Case_Ignorable is Cased. -/
def startsCased (t : Text) : Bool :=
  match t.dropWhile isCaseIgnorable with
  | [] => false
  | c :: _ => isCased c

/-- Lower case of the rest of a text; `before` is the text already passed, nearest first. A
capital sigma becomes a final sigma when letters stand before it and none after it. -/
def lowerFrom (before : Text) : Text → Text
  | [] => []
  | c :: t =>
    let image :=
      if c = 'Σ' then
        if startsCased before && !startsCased t then ['ς'] else ['σ']
      else lowerChar c
    image ++ lowerFrom (c :: before) t

/-- A text in lower case. -/
def lower (t : Text) : Text := lowerFrom [] t

/-- A text with its first character in upper case. -/
def capitalize : Text → Text
  | [] => []
  | c :: t => upperChar c ++ t

end Accessors.Text
