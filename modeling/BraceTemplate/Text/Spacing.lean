import BraceTemplate.Text.Blank

/-!
# Tidying the output

Directives that stand on lines of their own leave blank lines behind.  Tidying puts one line feed
for every match of the pattern `\n\s*\n\s*`, from left to right, and trims the text.  It is lossy on
purpose: no output holds two line feeds with only blanks between them, and the indentation after
removed lines goes with them.

The parts of the pattern are matched as a backtracking matcher does.  Each part is given what has to
match behind it; a row of blanks is taken as long as that is possible.
-/

namespace BraceTemplate.Text

/-! ## The pattern -/

/-- Matches a line feed. -/
def lineFeedThen (next : List Char → Option (List Char)) : List Char → Option (List Char)
  | [] => none
  | c :: rest => if c = '\n' then next rest else none

/-- Matches a row of blanks: all of them, or else one less, until what is left matches too. -/
def blanksThen (next : List Char → Option (List Char)) : List Char → Option (List Char)
  | [] => next []
  | c :: rest =>
    if isBlank c then
      match blanksThen next rest with
      | some behind => some behind
      | none => next (c :: rest)
    else next (c :: rest)

/-- Matches a blank line with the line feed before it and the blanks behind it, at the front of a
text, and gives what stands behind the match. -/
def behindBlankLines : List Char → Option (List Char) :=
  lineFeedThen (blanksThen (lineFeedThen (blanksThen some)))

/-- A row of blanks at the end of the pattern takes all there are. -/
theorem blanksThen_some (cs : List Char) : blanksThen some cs = some (cs.dropWhile isBlank) := by
  induction cs with
  | nil => rfl
  | cons c rest ih =>
    simp only [blanksThen, ih, List.dropWhile_cons]
    split <;> rfl

/-- Wherever the second line feed is found, the match goes up to the last blank. -/
theorem blanksThen_lineFeedThen (cs : List Char) :
    blanksThen (lineFeedThen (blanksThen some)) cs =
      if '\n' ∈ cs.takeWhile isBlank then some (cs.dropWhile isBlank) else none := by
  induction cs with
  | nil => rfl
  | cons c rest ih =>
    by_cases blank : isBlank c = true
    · rw [blanksThen, ih, List.takeWhile_cons_of_pos blank, List.dropWhile_cons_of_pos blank,
        lineFeedThen, blanksThen_some]
      by_cases later : '\n' ∈ rest.takeWhile isBlank
      · simp [blank, later]
      · simp [blank, later, eq_comm]
    · have other : c ≠ '\n' := by
        rintro rfl
        exact blank rfl
      simp [blanksThen, lineFeedThen, blank, other]

/-- A blank line is found where a line feed is followed, across blanks, by another one. -/
theorem behindBlankLines_cons (c : Char) (rest : List Char) :
    behindBlankLines (c :: rest) =
      if c = '\n' ∧ '\n' ∈ rest.takeWhile isBlank then some (rest.dropWhile isBlank) else none := by
  rw [behindBlankLines, lineFeedThen, blanksThen_lineFeedThen]
  by_cases feed : c = '\n' <;> simp [feed]

theorem length_behindBlankLines {c : Char} {rest behind : List Char}
    (found : behindBlankLines (c :: rest) = some behind) : behind.length ≤ rest.length := by
  rw [behindBlankLines_cons] at found
  split at found
  · obtain rfl := Option.some.inj found
    exact (List.dropWhile_suffix isBlank).length_le
  · cases found

/-! ## Replacing it -/

/-- Puts one line feed for every match of the pattern. -/
def collapseBlankLines : List Char → List Char
  | [] => []
  | c :: rest =>
    match found : behindBlankLines (c :: rest) with
    | some behind =>
      have : behind.length ≤ rest.length := length_behindBlankLines found
      '\n' :: collapseBlankLines behind
    | none => c :: collapseBlankLines rest
termination_by cs => cs.length

theorem collapseBlankLines_cons (c : Char) (rest : List Char) :
    collapseBlankLines (c :: rest) =
      if c = '\n' ∧ '\n' ∈ rest.takeWhile isBlank then
        '\n' :: collapseBlankLines (rest.dropWhile isBlank)
      else c :: collapseBlankLines rest := by
  have front := behindBlankLines_cons c rest
  rw [collapseBlankLines]
  split <;> rename_i found <;> rw [front] at found <;> split at found <;> simp_all

/-- Collapses blank lines and trims. -/
def tidy (s : String) : String := String.ofList (trim (collapseBlankLines s.toList))

end BraceTemplate.Text
