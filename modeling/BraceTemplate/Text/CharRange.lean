/-!
# Character classes given by ranges

A Unicode property is a set of code points, and every property used here is a short list of
closed ranges.  Ranges are listed in increasing order and do not touch, so a class is one table
and one membership test.
-/

namespace BraceTemplate.Text

/-- A closed range of code points, first and last. -/
abbrev CharRange := Nat × Nat

/-- A character is in a class when one of the ranges holds its code point. -/
def inRanges (ranges : List CharRange) (c : Char) : Bool :=
  ranges.any fun range => range.1 ≤ c.toNat && c.toNat ≤ range.2

theorem inRanges_eq_true_iff {ranges : List CharRange} {c : Char} :
    inRanges ranges c = true ↔ ∃ r ∈ ranges, r.1 ≤ c.toNat ∧ c.toNat ≤ r.2 := by
  simp [inRanges]

end BraceTemplate.Text
