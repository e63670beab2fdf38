/-!
# Coloured text for terminals

A style is a row of colours.  Painting writes their control sequences before a text and the reset
sequence behind it; where colours are off, or the style is empty, the text stays as it is.
-/

namespace BraceTemplate.Terminal

/-- The colours and attributes in use. -/
inductive Color
  | reset
  | bold
  | dim
  | yellow
  | cyan
  | green
  | brightRed
deriving DecidableEq, Repr

namespace Color

/-- The number of a colour in its control sequence. -/
def number : Color → String
  | .reset => "0"
  | .bold => "1"
  | .dim => "2"
  | .yellow => "33"
  | .cyan => "36"
  | .green => "32"
  | .brightRed => "91"

/-- The control sequence that switches a colour on. -/
def sequence (c : Color) : String := "\x1b[" ++ c.number ++ "m"

/-- The colour of a name. -/
def ofName? : String → Option Color
  | "reset" => some .reset
  | "bold" => some .bold
  | "dim" => some .dim
  | "yellow" => some .yellow
  | "cyan" => some .cyan
  | "green" => some .green
  | "bright_red" => some .brightRed
  | _ => none

end Color

/-- A text in the given colours. -/
def paint (colored : Bool) (colors : List Color) (text : String) : String :=
  if colored && !colors.isEmpty then
    String.join (colors.map Color.sequence) ++ text ++ Color.reset.sequence
  else text

/-- The style of error codes and carets. -/
def strong (colored : Bool) (text : String) : String := paint colored [.brightRed, .bold] text

/-- The style of places. -/
def place (colored : Bool) (text : String) : String := paint colored [.cyan] text

/-- The style of hints. -/
def hint (colored : Bool) (text : String) : String := paint colored [.green] text

/-- The style of what is only context. -/
def faint (colored : Bool) (text : String) : String := paint colored [.dim] text

/-- Whether output is coloured: a non-empty wish for colours prevails, then a non-empty wish against
them, then whether the output is a terminal. -/
def wantsColors (force avoid : Option String) (terminal : Bool) : Bool :=
  if force.any (· ≠ "") then true
  else if avoid.any (· ≠ "") then false
  else terminal

end BraceTemplate.Terminal
