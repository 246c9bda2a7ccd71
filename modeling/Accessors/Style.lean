import Accessors.Text.Basic

/-!
# Terminal styles

Text with the escape sequences that colour it, for terminals that show them.

* `Style.paint`: a text in a style, or plain where colours are off.
* `Style.heading`: a heading.
* `Style.areOn`: whether colours are on.
-/

namespace Accessors

/-- The styles in use. -/
inductive Style where
  | bold
  | dimmed
  | underlined
  | red
  | green
  | yellow
  | blue
  deriving DecidableEq, Repr

namespace Style

/-- The number that selects a style. -/
def code : Style → Text
  | .bold => "1".toList
  | .dimmed => "2".toList
  | .underlined => "4".toList
  | .red => "31".toList
  | .green => "32".toList
  | .yellow => "33".toList
  | .blue => "34".toList

/-- The sequence that starts a style. -/
def opening (style : Style) : Text := "\x1b[".toList ++ style.code ++ ['m']

/-- The sequence that ends every style. -/
def reset : Text := "\x1b[0m".toList

/-- A text with a sequence put behind every reset in it. -/
def afterResets (again : Text) : Text → Text
  | [] => []
  | '\x1b' :: '[' :: '0' :: 'm' :: t => reset ++ again ++ afterResets again t
  | c :: t => c :: afterResets again t

/-- A text in a style, which a reset inside the text does not end; plain where colours are off. -/
def paint (colors : Bool) (style : Style) (t : Text) : Text :=
  if colors then style.opening ++ afterResets style.opening t ++ reset else t

/-- A heading, which is bold and underlined; plain where colours are off. -/
def heading (colors : Bool) (t : Text) : Text :=
  if colors then bold.opening ++ underlined.opening ++ t ++ reset else t

/-- Whether colours are on. A wish for them comes first, then a wish against them; without either
they are on for terminals. The value `0` is no wish for anything. -/
def areOn (force noColor color : Option Text) (isTerminal : Bool) : Bool :=
  let wanted := fun v : Text => decide (v ≠ ['0'])
  if force.any wanted then true
  else if noColor.isSome then false
  else color.all wanted && isTerminal

end Style

end Accessors
