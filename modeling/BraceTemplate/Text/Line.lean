/-!
# Lines

Two notions of line are in use.  Positions in a template count the line feeds before them; a
snippet, which is made for reading, shows the lines that a reader sees, and these end at any of the
Unicode line breaks.  This module holds the second notion.
-/

namespace BraceTemplate.Text

/-- The characters that end a displayed line: line feed, line tabulation, form feed, carriage
return, the file, group and record separators, next line, and the line and paragraph separators. -/
def isLineBreak (c : Char) : Bool :=
  [10, 11, 12, 13, 28, 29, 30, 133, 8232, 8233].contains c.toNat

/-- The displayed lines of a text, without their breaks.  A carriage return and the line feed after
it are one break, and a break at the very end opens no further line. -/
def displayLines : List Char → List (List Char)
  | [] => []
  | '\r' :: '\n' :: rest => [] :: displayLines rest
  | c :: rest =>
    if isLineBreak c then [] :: displayLines rest
    else match displayLines rest with
      | [] => [[c]]
      | line :: lines => (c :: line) :: lines

/-- Displayed lines hold characters of the text only. -/
theorem mem_of_mem_displayLines {cs line : List Char} {c : Char}
    (hline : line ∈ displayLines cs) (hc : c ∈ line) : c ∈ cs := by
  fun_induction displayLines cs generalizing line c with
  | case1 => simp at hline
  | case2 rest ih =>
    rcases List.mem_cons.1 hline with rfl | hline
    · simp at hc
    · simp [ih hline hc]
  | case3 d rest _ hd ih =>
    rcases List.mem_cons.1 hline with rfl | hline
    · simp at hc
    · simp [ih hline hc]
  | case4 d rest _ hd hnil ih =>
    rw [List.mem_singleton.1 hline, List.mem_singleton] at hc
    simp [hc]
  | case5 d rest _ hd first others hlines ih =>
    rw [hlines] at ih
    rcases List.mem_cons.1 hline with rfl | hline
    · rcases List.mem_cons.1 hc with rfl | hc
      · simp
      · simp [ih List.mem_cons_self hc]
    · simp [ih (List.mem_cons_of_mem _ hline) hc]

end BraceTemplate.Text
