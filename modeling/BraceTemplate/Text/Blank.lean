import BraceTemplate.Text.CharRange

/-!
# Blank characters

Blank means Unicode white space together with the four information separators U+001C to U+001F.
Directive bodies and path segments are trimmed of blanks, the keywords of a directive are followed
by blanks, and the output is tidied by what stands between blanks.
-/

namespace BraceTemplate.Text

/-- The blank code points. -/
def blankRanges : List CharRange :=
  [(9, 13), (28, 32), (133, 133), (160, 160), (5760, 5760), (8192, 8202), (8232, 8233),
    (8239, 8239), (8287, 8287), (12288, 12288)]

def isBlank (c : Char) : Bool := inRanges blankRanges c

/-! ## Trimming -/

/-- Drops the blanks at the front. -/
def trimStart (cs : List Char) : List Char := cs.dropWhile isBlank

/-- Drops the blanks at the end. -/
def trimEnd (cs : List Char) : List Char := (cs.reverse.dropWhile isBlank).reverse

/-- Drops the blanks at both ends. -/
def trim (cs : List Char) : List Char := trimEnd (trimStart cs)

end BraceTemplate.Text
