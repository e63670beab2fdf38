import Mathlib
import BraceTemplate.Proofs.Controls
import BraceTemplate.Proofs.Excerpts

/-!
# Where the caret stands

A snippet writes the line with the error behind a gutter that holds its number, and the caret on the
line after it behind a gutter of fixed width.  Uncoloured, the gutter of a line is as wide as its
number needs it to be, but at least seven characters (`length_gutter`); that of the caret always has
seven.  So the caret stands under the character that it denotes exactly up to line 999, and further
left than that by one for each digit beyond the third.
-/

namespace BraceTemplate

namespace Snippet

/-! ## Lines without colours -/

/-- What stands on a line in front of its content. -/
def gutter (isError : Bool) (number : Int) : List Char :=
  (lineLabel isError number).toList ++ [' ', '|', ' ']

lemma toList_formatLine (number : Int) (content : String) (isError : Bool) :
    (formatLine false number content isError).toList = gutter isError number ++ content.toList := by
  cases isError <;> simp [formatLine, gutter, Terminal.paint, Terminal.faint]

lemma toList_margin : (margin false).toList = [' ', ' ', ' ', '|'] := rfl

lemma toList_caretLine (column : Int) :
    (caretLine false column).toList =
      [' ', ' ', ' ', '|', ' ', ' ', ' '] ++ List.replicate column.toNat ' ' ++ ['^'] := by
  simp [caretLine, Terminal.strong, Terminal.paint, toList_margin]

/-- A number takes up three places, or as many as it has characters. -/
lemma length_gutter (isError : Bool) (number : Int) :
    (gutter isError number).length = 4 + max 3 (toString number).length := by
  have marker : (if isError then ">" else " " : String).length = 1 := by cases isError <;> rfl
  simp only [gutter, lineLabel, List.length_append, String.length_toList, String.length_append,
    marker, String.length_ofList, List.length_replicate, List.length_cons, List.length_nil]
  omega

/-- The caret stands once on its line, behind seven characters and the column. -/
lemma caretLine_caret_iff (column i : Nat) :
    (caretLine false column).toList[i]? = some '^' ↔ i = 7 + column := by
  rw [toList_caretLine, Int.toNat_natCast]
  have blanks : '^' ∉ [' ', ' ', ' ', '|', ' ', ' ', ' '] ++ List.replicate column ' ' := by simp
  have width : ([' ', ' ', ' ', '|', ' ', ' ', ' '] ++ List.replicate column ' ').length =
      7 + column := by
    rw [List.length_append, List.length_replicate]
    rfl
  generalize [' ', ' ', ' ', '|', ' ', ' ', ' '] ++ List.replicate column ' ' = front at *
  constructor
  · intro caret
    by_contra differ
    have inside := (List.getElem?_eq_some_iff.1 caret).1
    rw [List.length_append, List.length_singleton] at inside
    rw [List.getElem?_append_left (by omega)] at caret
    exact blanks (List.mem_of_getElem? caret)
  · rintro rfl
    rw [← width, List.getElem?_append_right le_rfl, Nat.sub_self]
    rfl

/-! ## No line is broken -/

lemma lineFeed_not_mem_repr (number : Int) : '\n' ∉ number.repr.toList :=
  (Text.noControl_toString number).not_mem (by decide)

lemma lineFeed_not_mem_gutter (isError : Bool) (number : Int) :
    '\n' ∉ gutter isError number := by
  have digits := lineFeed_not_mem_repr number
  cases isError <;> simp [gutter, lineLabel, digits]

lemma lineFeed_not_mem_formatLine {number : Int} {content : String} (isError : Bool)
    (single : '\n' ∉ content.toList) : '\n' ∉ (formatLine false number content isError).toList := by
  rw [toList_formatLine, List.mem_append, not_or]
  exact ⟨lineFeed_not_mem_gutter isError number, single⟩

lemma lineFeed_not_mem_caretLine (column : Int) : '\n' ∉ (caretLine false column).toList := by
  simp [toList_caretLine]

/-! ## The lines of a snippet -/

/-- Entries with other numbers than that of the error are written on one line each. -/
lemma flatMap_lines_of_ne {s : Snippet} (colored : Bool) {entries : List (Int × String)}
    (others : ∀ e ∈ entries, e.1 ≠ s.errorLine) :
    (entries.flatMap fun (number, content) =>
      let isError := number == s.errorLine
      formatLine colored number content isError ::
        (if isError then (s.column.map (caretLine colored)).toList else [])) =
      entries.map fun e => formatLine colored e.1 e.2 false := by
  induction entries with
  | nil => rfl
  | cons e entries ih =>
    obtain ⟨first, rest⟩ := List.forall_mem_cons.1 others
    have differ : (e.1 == s.errorLine) = false := by simpa using first
    rw [List.flatMap_cons, List.map_cons, ih rest]
    simp [differ]

/-- The lines of a snippet with one entry for the error: the caret stands right behind it. -/
lemma ErrorEntry.formatLines_eq {s : Snippet} {before after : List (Int × String)} {text : String}
    {column : Int} (entry : s.ErrorEntry before text after) (place : s.column = some column)
    (colored : Bool) :
    s.formatLines colored =
      (margin colored :: before.map fun e => formatLine colored e.1 e.2 false) ++
        formatLine colored s.errorLine text true :: caretLine colored column ::
          ((after.map fun e => formatLine colored e.1 e.2 false) ++ [margin colored]) := by
  obtain ⟨front, back⟩ := List.forall_mem_append.1 entry.only
  rw [formatLines, entry.lines_eq, List.flatMap_append, List.flatMap_cons,
    flatMap_lines_of_ne colored front, flatMap_lines_of_ne colored back, place]
  simp

/-- An uncoloured snippet is cut into its lines again. -/
lemma splitOn_format {s : Snippet} {before after : List (Int × String)} {text : String}
    {column : Int} (entry : s.ErrorEntry before text after) (place : s.column = some column)
    (single : ∀ e ∈ s.lines, '\n' ∉ e.2.toList) :
    (s.format false).toList.splitOn '\n' = (s.formatLines false).map String.toList := by
  rw [format, String.toList_intercalate]
  refine List.splitOn_intercalate '\n' ?_ (by simp [formatLines])
  rw [List.forall_mem_map, entry.formatLines_eq place]
  rw [entry.lines_eq] at single
  intro line there
  simp only [List.mem_append, List.mem_cons, List.mem_map, List.not_mem_nil, or_false] at there
  have margins : '\n' ∉ (margin false).toList := by decide
  obtain (rfl | ⟨e, before, rfl⟩) | rfl | rfl | ⟨e, behind, rfl⟩ | rfl := there
  · exact margins
  · exact lineFeed_not_mem_formatLine false (single e (by simp [before]))
  · exact lineFeed_not_mem_formatLine true (single (s.errorLine, text) (by simp))
  · exact lineFeed_not_mem_caretLine column
  · exact lineFeed_not_mem_formatLine false (single e (by simp [behind]))
  · exact margins

/-- A positive number has at most three characters if it is less than a thousand. -/
lemma length_toString_le_three_iff {number : Int} (positive : 0 < number) :
    (toString number).length ≤ 3 ↔ number < 1000 := by
  obtain ⟨n, rfl⟩ := Int.eq_ofNat_of_zero_le positive.le
  rw [Int.toString_eq_repr, Int.repr_eq_if, if_pos positive.le, Int.toNat_natCast,
    Nat.length_repr_le_iff (by decide)]
  omega

/-- **The caret stands under the character that it denotes, exactly if the number of the line has at
most three digits.** -/
theorem caret_under_column_iff {s : Snippet} {before after : List (Int × String)} {text : String}
    {column : Nat} (entry : s.ErrorEntry before text after)
    (single : ∀ e ∈ s.lines, '\n' ∉ e.2.toList) (positive : 0 < s.errorLine)
    (place : s.column = some (column : Int)) :
    ∃ front gutter caret back,
      (s.format false).toList.splitOn '\n' =
        front ++ (gutter ++ text.toList) :: caret :: back ∧
      front.length = before.length + 1 ∧
      (formatLine false s.errorLine text true).toList = gutter ++ text.toList ∧
      gutter.length = 4 + max 3 (toString s.errorLine).length ∧
      (∀ i, caret[i]? = some '^' ↔ i = 7 + column) ∧
      (caret[gutter.length + column]? = some '^' ↔ s.errorLine < 1000) := by
  have lines := splitOn_format entry place single
  rw [entry.formatLines_eq place, List.map_append, List.map_cons, List.map_cons,
    toList_formatLine] at lines
  refine ⟨_, gutter true s.errorLine, _, _, lines, by simp, toList_formatLine _ _ _,
    length_gutter _ _, caretLine_caret_iff column, ?_⟩
  rw [caretLine_caret_iff, length_gutter, ← length_toString_le_three_iff positive]
  omega

/-- On a line with two digits the caret stands under the brace that it denotes. -/
theorem caret_on_twelfth_line :
    ∃ front gutter caret back,
      ((⟨[(11, "a"), (12, "b \x7b\x7bname")], 12, some 2⟩ : Snippet).format false).toList.splitOn
        '\n' = front ++ (gutter ++ "b \x7b\x7bname".toList) :: caret :: back ∧
      caret[gutter.length + 2]? = some '^' := by
  have entry : (⟨[(11, "a"), (12, "b \x7b\x7bname")], 12, some 2⟩ : Snippet).ErrorEntry
      [(11, "a")] "b \x7b\x7bname" [] := ⟨rfl, by decide⟩
  have place : (some 2 : Option Int) = some ((2 : Nat) : Int) := rfl
  obtain ⟨front, gutter, caret, back, lines, -, -, -, -, under⟩ :=
    caret_under_column_iff entry (by decide) (by decide) place
  exact ⟨front, gutter, caret, back, lines, under.2 (by decide)⟩

/-- On line 1000 the caret stands left of the character that it denotes. -/
theorem caret_beside_column :
    (⟨[(1000, "\x7b\x7bname\x7d\x7d")], 1000, some 0⟩ : Snippet).format false =
        "   |\n>1000 | \x7b\x7bname\x7d\x7d\n   |   ^\n   |" ∧
      ">1000 | \x7b\x7bname\x7d\x7d".toList[8]? = some '\x7b' ∧
      "   |   ^".toList[8]? ≠ some '^' := by
  refine ⟨?_, by decide, by decide⟩
  cbv

end Snippet

end BraceTemplate
