import BraceTemplate.Source.Piece
import Mathlib.Tactic.Lemma

/-!
# What the scan finds

`scan` cuts a source with a function that looks at two characters at a time.  This file says what
the cut is without that function: a directive opens at the leftmost doubled opening brace, and
closes at the leftmost doubled closing brace after it.

"Leftmost" is said with infixes.  If `mark mark` stands behind `before`, it is the leftmost such
pair exactly if `before` followed by a single mark holds none, since a pair that starts earlier
would lie within these characters.

The main result `scanned_iff` says that every source has exactly one such division into pieces and
that `scan` finds it.
-/

namespace BraceTemplate

/-! ## The leftmost doubled mark -/

/-- No two marks stand side by side. -/
def NoDouble (mark : Char) (cs : List Char) : Prop := ¬ [mark, mark] <:+: cs

lemma noDouble_nil (mark : Char) : NoDouble mark [] := by
  intro found
  simpa using found.length_le

lemma noDouble_singleton (mark c : Char) : NoDouble mark [c] := by
  intro found
  simpa using found.length_le

lemma noDouble_cons_cons {mark c d : Char} {rest : List Char} :
    NoDouble mark (c :: d :: rest) ↔ ¬ (c = mark ∧ d = mark) ∧ NoDouble mark (d :: rest) := by
  have pair : [mark, mark] <+: c :: d :: rest ↔ c = mark ∧ d = mark := by
    rw [List.cons_prefix_cons, List.cons_prefix_cons]
    constructor
    · rintro ⟨rfl, rfl, -⟩
      exact ⟨rfl, rfl⟩
    · rintro ⟨rfl, rfl⟩
      exact ⟨rfl, rfl, List.nil_prefix⟩
  rw [NoDouble, List.infix_cons_iff, not_or, pair, NoDouble]

/-- The end of a text without doubled marks has none either. -/
lemma NoDouble.tail {mark c : Char} {cs : List Char} (h : NoDouble mark (c :: cs)) :
    NoDouble mark cs :=
  fun found => h (List.infix_cons found)

lemma cutAt_eq_none_iff {mark : Char} {cs : List Char} :
    cutAt mark cs = none ↔ NoDouble mark cs := by
  fun_induction cutAt mark cs with
  | case1 c d rest same =>
    rw [noDouble_cons_cons]
    exact ⟨fun none => by simp at none, fun h => absurd same h.1⟩
  | case2 c d rest differ ih =>
    rw [Option.map_eq_none_iff, ih, noDouble_cons_cons]
    exact ⟨fun h => ⟨differ, h⟩, fun h => h.2⟩
  | case3 cs short =>
    refine ⟨fun _ => ?_, fun _ => rfl⟩
    obtain _ | ⟨c, _ | ⟨d, rest⟩⟩ := cs
    · exact noDouble_nil mark
    · exact noDouble_singleton mark c
    · exact absurd rfl (short c d rest)

/-- What stands before the cut makes no doubled mark with the first of the two marks. -/
lemma noDouble_of_cutAt {mark : Char} {cs before after : List Char}
    (h : cutAt mark cs = some (before, after)) : NoDouble mark (before ++ [mark]) := by
  fun_induction cutAt mark cs generalizing before after with
  | case1 c d rest same =>
    simp only [Option.some.injEq, Prod.mk.injEq] at h
    obtain ⟨rfl, rfl⟩ := h
    exact noDouble_singleton mark mark
  | case2 c d rest differ ih =>
    obtain ⟨⟨b, a⟩, found, same⟩ := Option.map_eq_some_iff.1 h
    simp only [Prod.mk.injEq] at same
    obtain ⟨rfl, rfl⟩ := same
    have shape := eq_of_cutAt found
    have free := ih found
    cases b with
    | nil =>
      -- the cut comes right after `c`, and so `d` is the first mark
      obtain ⟨rfl, -⟩ := List.cons_eq_cons.1 shape
      exact noDouble_cons_cons.2 ⟨differ, free⟩
    | cons e b =>
      obtain ⟨rfl, -⟩ := List.cons_eq_cons.1 shape
      exact noDouble_cons_cons.2 ⟨differ, free⟩
  | case3 => simp at h

/-- The leftmost doubled mark is where the text is cut. -/
lemma cutAt_append {mark : Char} {before : List Char} (after : List Char)
    (free : NoDouble mark (before ++ [mark])) :
    cutAt mark (before ++ mark :: mark :: after) = some (before, after) := by
  induction before with
  | nil => simp [cutAt]
  | cons c before ih =>
    have below := ih free.tail
    cases before with
    | nil =>
      have differ := (noDouble_cons_cons.1 free).1
      simp only [List.cons_append, List.nil_append] at below ⊢
      rw [cutAt, if_neg differ, below, Option.map_some]
    | cons d before =>
      have differ := (noDouble_cons_cons.1 free).1
      simp only [List.cons_append] at below ⊢
      rw [cutAt, if_neg differ, below, Option.map_some]

lemma cutAt_eq_some_iff {mark : Char} {cs before after : List Char} :
    cutAt mark cs = some (before, after) ↔
      cs = before ++ mark :: mark :: after ∧ NoDouble mark (before ++ [mark]) := by
  constructor
  · intro h
    exact ⟨eq_of_cutAt h, noDouble_of_cutAt h⟩
  · rintro ⟨rfl, free⟩
    exact cutAt_append after free

/-! ## Divisions of a source -/

/-- A source and its pieces: text up to the leftmost doubled opening brace, then a directive up to
the leftmost doubled closing brace after that, and so on with the rest.  Empty text is no piece. -/
inductive Scanned : List Char → List Piece → Prop
  | plain {source : List Char} :
      NoDouble '\x7b' source → Scanned source (textPiece source)
  | unterminated {before after : List Char} :
      NoDouble '\x7b' (before ++ ['\x7b']) → NoDouble '\x7d' after →
      Scanned (before ++ '\x7b' :: '\x7b' :: after) (textPiece before ++ [.unterminated after])
  | directive {before inner rest : List Char} {pieces : List Piece} :
      NoDouble '\x7b' (before ++ ['\x7b']) → NoDouble '\x7d' (inner ++ ['\x7d']) →
      Scanned rest pieces →
      Scanned (before ++ '\x7b' :: '\x7b' :: (inner ++ '\x7d' :: '\x7d' :: rest))
        (textPiece before ++ .directive inner :: pieces)

lemma scan_plain {source : List Char} (free : NoDouble '\x7b' source) :
    scan source = textPiece source := by
  rw [scan]
  split
  · rfl
  · rename_i opened
    rw [cutAt_eq_none_iff.2 free] at opened
    cases opened

lemma scan_unterminated {before after : List Char} (opened : NoDouble '\x7b' (before ++ ['\x7b']))
    (free : NoDouble '\x7d' after) :
    scan (before ++ '\x7b' :: '\x7b' :: after) = textPiece before ++ [.unterminated after] := by
  rw [scan, cutAt_append after opened]
  simp only
  rw [cutAt_eq_none_iff.2 free]

lemma scan_directive {before inner : List Char} (rest : List Char)
    (opened : NoDouble '\x7b' (before ++ ['\x7b'])) (closed : NoDouble '\x7d' (inner ++ ['\x7d'])) :
    scan (before ++ '\x7b' :: '\x7b' :: (inner ++ '\x7d' :: '\x7d' :: rest)) =
      textPiece before ++ .directive inner :: scan rest := by
  rw [scan, cutAt_append _ opened]
  simp only
  rw [cutAt_append rest closed]

/-- The scan divides every source in this way. -/
lemma scanned_scan (source : List Char) : Scanned source (scan source) := by
  fun_induction scan source with
  | case1 source unopened => exact .plain (cutAt_eq_none_iff.1 unopened)
  | case2 source before after opened unclosed =>
    obtain ⟨rfl, free⟩ := cutAt_eq_some_iff.1 opened
    exact .unterminated free (cutAt_eq_none_iff.1 unclosed)
  | case3 source before after opened inner rest closed ih =>
    obtain ⟨rfl, free⟩ := cutAt_eq_some_iff.1 opened
    obtain ⟨rfl, inside⟩ := cutAt_eq_some_iff.1 closed
    exact .directive free inside ih

/-- A source is divided in one way only. -/
lemma scanned_iff {source : List Char} {pieces : List Piece} :
    Scanned source pieces ↔ pieces = scan source := by
  constructor
  · intro h
    induction h with
    | plain free => exact (scan_plain free).symm
    | unterminated opened free => exact (scan_unterminated opened free).symm
    | directive opened closed _ ih => rw [ih, scan_directive _ opened closed]
  · rintro rfl
    exact scanned_scan source

end BraceTemplate
