import BraceTemplate.Source.Position
import BraceTemplate.Terminal.Style
import BraceTemplate.Text.Line
import BraceTemplate.Text.Quoted

/-!
# Excerpts of a source

Messages quote the source around a place in two ways: a few characters in quotes on one line, and a
snippet of numbered lines with a caret under the place.
-/

namespace BraceTemplate

/-- The characters from `first` up to `last`, which counts from the end if it is negative. -/
def slice (cs : List Char) (first : Nat) (last : Int) : List Char :=
  let last := if last < 0 then last + cs.length else last
  (cs.take last.toNat).drop first

/-- The number of characters quoted on either side of a fault. -/
def quoteRadius : Int := 12

/-- Up to `radius` characters on either side of a place, quoted. -/
def quoteAround (source : String) (index : Int) (radius : Int) : String :=
  let cs := source.toList
  Text.jsonQuote (String.ofList (slice cs (index - radius).toNat (min cs.length (index + radius))))

/-- Numbered lines of a source around a line with an error. -/
structure Snippet where
  lines : List (Int × String)
  errorLine : Int
  column : Option Int
deriving DecidableEq, Repr

namespace Snippet

/-- The lines of a source from `context` before a line to `context` behind it, where they exist.  An
empty source has one empty line. -/
def build (source : String) (errorLine : Int) (context : Int) (column : Option Int) : Snippet :=
  let lines := match Text.displayLines source.toList with
    | [] => [[]]
    | lines => lines
  let first := (errorLine - 1 - context).toNat
  let last := (errorLine + context).toNat
  let numbered := lines.zipIdx.map fun (line, i) => ((i : Int) + 1, String.ofList line)
  ⟨(numbered.take last).drop first, errorLine, column⟩

/-- A line number, right-aligned in three places, behind its marker. -/
def lineLabel (isError : Bool) (number : Int) : String :=
  let digits := toString number
  (if isError then ">" else " ") ++ String.ofList (List.replicate (3 - digits.length) ' ') ++ digits

/-- A numbered line, marked if it holds the error. -/
def formatLine (colored : Bool) (number : Int) (content : String) (isError : Bool) : String :=
  Terminal.paint colored [.yellow] (lineLabel isError number) ++ " | " ++
    (if isError then Terminal.paint colored [.brightRed] content
      else Terminal.faint colored content)

/-- The margin of the lines that hold no source. -/
def margin (colored : Bool) : String := Terminal.faint colored "   |"

/-- The line with the caret, which stands under the given column. -/
def caretLine (colored : Bool) (column : Int) : String :=
  margin colored ++ "   " ++
    Terminal.strong colored (String.ofList (List.replicate column.toNat ' ') ++ "^")

/-- The lines that a snippet writes: the source lines between two margins, and the caret behind the
line with the error. -/
def formatLines (colored : Bool) (s : Snippet) : List String :=
  let body := s.lines.flatMap fun (number, content) =>
    let isError := number == s.errorLine
    formatLine colored number content isError ::
      (if isError then (s.column.map (caretLine colored)).toList else [])
  margin colored :: body ++ [margin colored]

/-- A snippet as text. -/
def format (colored : Bool) (s : Snippet) : String := "\n".intercalate (s.formatLines colored)

end Snippet

end BraceTemplate
