import Mathlib
import BraceTemplate.Proofs.Places

/-!
# What a snippet shows of its source

A snippet is made for a place whose line is counted by line feeds, and shows displayed lines, which
end at other line breaks as well.  This file says when the two go together.

Which displayed line a place is on is found by reading up to it: `LineAt` says what is known then of
that line and of those before it.  There are at least as many before it as line feeds have been
passed, and no more exactly if the text read has `LineFeedsOnly`.  So the line with the number of
the error is the one that the directive stands on exactly in that case, and otherwise one that ends
before the directive.
-/

namespace BraceTemplate

namespace Text

/-! ## Displayed lines and their places -/

/-- The displayed lines of a text that starts at an offset, each with the offset where it starts. -/
def placedLines (offset : Nat) : List Char → List (Nat × List Char)
  | [] => []
  | '\r' :: '\n' :: rest => (offset, []) :: placedLines (offset + 2) rest
  | c :: rest =>
    if isLineBreak c then (offset, []) :: placedLines (offset + 1) rest
    else match placedLines (offset + 1) rest with
      | [] => [(offset, [c])]
      | (_, line) :: lines => (offset, c :: line) :: lines

/-- A property of texts holds if it goes through the breaks and the characters of displayed
lines. -/
lemma line_induction {motive : List Char → Prop} (nil : motive [])
    (pair : ∀ rest, motive rest → motive ('\r' :: '\n' :: rest))
    (single : ∀ c rest, isLineBreak c = true → ¬ (c = '\r' ∧ rest.head? = some '\n') →
      motive rest → motive (c :: rest))
    (inLine : ∀ c rest, isLineBreak c = false → motive rest → motive (c :: rest))
    (cs : List Char) : motive cs := by
  induction h : cs.length using Nat.strong_induction_on generalizing cs with
  | _ n ih =>
    cases cs with
    | nil => exact nil
    | cons c rest =>
      simp only [List.length_cons] at h
      by_cases ends : isLineBreak c = true
      · by_cases both : c = '\r' ∧ rest.head? = some '\n'
        · obtain ⟨rfl, feed⟩ := both
          obtain ⟨rest, rfl⟩ := List.head?_eq_some_iff.1 feed
          simp only [List.length_cons] at h
          exact pair rest (ih rest.length (by omega) rest rfl)
        · exact single c rest ends both (ih rest.length (by omega) rest rfl)
      · exact inLine c rest (by simpa using ends) (ih rest.length (by omega) rest rfl)

variable {offset : Nat} {c : Char} {rest : List Char}

lemma placedLines_pair : placedLines offset ('\r' :: '\n' :: rest) =
    (offset, []) :: placedLines (offset + 2) rest := by
  rw [placedLines]

lemma placedLines_single (ends : isLineBreak c = true)
    (alone : ¬ (c = '\r' ∧ rest.head? = some '\n')) :
    placedLines offset (c :: rest) = (offset, []) :: placedLines (offset + 1) rest := by
  rw [placedLines, if_pos ends]
  rintro tail rfl rfl
  exact alone ⟨rfl, rfl⟩

lemma placedLines_inLine (inside : isLineBreak c = false) :
    placedLines offset (c :: rest) = match placedLines (offset + 1) rest with
      | [] => [(offset, [c])]
      | (_, line) :: lines => (offset, c :: line) :: lines := by
  rw [placedLines, if_neg (by simp [inside])]
  rintro tail rfl rfl
  exact absurd inside (by decide)

lemma ne_lineFeed_of_inLine (inside : isLineBreak c = false) : c ≠ '\n' := by
  rintro rfl
  exact absurd inside (by decide)

lemma displayLines_single (ends : isLineBreak c = true)
    (alone : ¬ (c = '\r' ∧ rest.head? = some '\n')) :
    displayLines (c :: rest) = [] :: displayLines rest := by
  rw [displayLines, if_pos ends]
  rintro tail rfl rfl
  exact alone ⟨rfl, rfl⟩

lemma displayLines_inLine (inside : isLineBreak c = false) :
    displayLines (c :: rest) = match displayLines rest with
      | [] => [[c]]
      | line :: lines => (c :: line) :: lines := by
  have noPair : ∀ tail, c = '\r' → rest = '\n' :: tail → False := by
    rintro tail rfl rfl
    exact absurd inside (by decide)
  have step := displayLines.eq_3 c rest noPair
  rw [if_neg (by simp [inside])] at step
  exact step.trans (by cases displayLines rest <;> rfl)

/-- The placed lines are the displayed lines. -/
lemma map_snd_placedLines (offset : Nat) (cs : List Char) :
    (placedLines offset cs).map Prod.snd = displayLines cs := by
  induction cs using line_induction generalizing offset with
  | nil => rfl
  | pair rest ih => rw [placedLines_pair, displayLines, List.map_cons, ih]
  | single c rest ends alone ih =>
    rw [placedLines_single ends alone, displayLines_single ends alone, List.map_cons, ih]
  | inLine c rest inside ih =>
    rw [placedLines_inLine inside, displayLines_inLine inside, ← ih (offset + 1)]
    cases placedLines (offset + 1) rest <;> rfl

/-- The first displayed line starts with the text, and goes up to the first break. -/
lemma exists_placedLines_eq_cons {cs : List Char} (nonempty : cs ≠ []) (offset : Nat) :
    ∃ later, placedLines offset cs = (offset, cs.takeWhile fun c => !isLineBreak c) :: later := by
  induction cs using line_induction generalizing offset with
  | nil => exact absurd rfl nonempty
  | pair rest ih => exact ⟨_, placedLines_pair⟩
  | single c rest ends alone ih =>
    rw [placedLines_single ends alone, List.takeWhile_cons_of_neg (by simpa using ends)]
    exact ⟨_, rfl⟩
  | inLine c rest inside ih =>
    rw [placedLines_inLine inside, List.takeWhile_cons_of_pos (by simpa using inside)]
    by_cases last : rest = []
    · subst last
      exact ⟨[], rfl⟩
    · obtain ⟨later, shape⟩ := ih last (offset + 1)
      rw [shape]
      exact ⟨later, rfl⟩

/-! ## Texts with line feeds only -/

/-- Every line break in a text is a line feed, or a carriage return with its line feed behind it. -/
def LineFeedsOnly (cs : List Char) : Prop :=
  ∀ before c after, cs = before ++ c :: after → isLineBreak c = true →
    c = '\n' ∨ c = '\r' ∧ after.head? = some '\n'

lemma lineFeedsOnly_nil : LineFeedsOnly [] := by
  intro before c after shape
  simp at shape

lemma lineFeedsOnly_cons :
    LineFeedsOnly (c :: rest) ↔
      (isLineBreak c = true → c = '\n' ∨ c = '\r' ∧ rest.head? = some '\n') ∧
        LineFeedsOnly rest := by
  constructor
  · intro only
    refine ⟨only [] c rest rfl, ?_⟩
    rintro before d after rfl
    exact only (c :: before) d after rfl
  · rintro ⟨first, others⟩ before d after shape
    cases before with
    | nil =>
      obtain ⟨rfl, rfl⟩ := List.cons_eq_cons.1 shape
      exact first
    | cons e before =>
      obtain ⟨rfl, rfl⟩ := List.cons_eq_cons.1 shape
      exact others before d after rfl

lemma lineFeedsOnly_pair :
    LineFeedsOnly ('\r' :: '\n' :: rest) ↔ LineFeedsOnly rest := by
  simp [lineFeedsOnly_cons]

lemma lineFeedsOnly_single (ends : isLineBreak c = true)
    (alone : ¬ (c = '\r' ∧ rest.head? = some '\n')) :
    LineFeedsOnly (c :: rest) ↔ c = '\n' ∧ LineFeedsOnly rest := by
  simp [lineFeedsOnly_cons, ends, alone]

lemma lineFeedsOnly_inLine (inside : isLineBreak c = false) :
    LineFeedsOnly (c :: rest) ↔ LineFeedsOnly rest := by
  simp [lineFeedsOnly_cons, inside]

end Text

open Text

/-! ## The line that a place is on -/

/-- What is known of the displayed line `line`, and of those before it, when some text has been read
from a position `p` and other text follows. -/
structure LineAt (p : Position) (before after : List Char) (earlier : List (Nat × List Char))
    (start : Nat) (line : List Char) : Prop where
  /-- The lines before it end before the place. -/
  ended : ∀ e ∈ earlier, e.1 + e.2.length < p.offset + before.length
  started : start ≤ p.offset + before.length
  first : earlier = [] → start = p.offset
  /-- From the place on, the line is the text that follows, up to a break. -/
  behind : line.drop (p.offset + before.length - start) = after.takeWhile fun c => !isLineBreak c
  feeds_le : before.count '\n' ≤ earlier.length
  feeds_eq_iff : before.count '\n' = earlier.length ↔ LineFeedsOnly before
  column : LineFeedsOnly before → start + (p.advance before).column =
    p.offset + before.length + if earlier = [] then p.column else 0

namespace LineAt

variable {p : Position} {before after : List Char} {earlier : List (Nat × List Char)} {start : Nat}
  {line : List Char}

lemma here (p : Position) (after : List Char) :
    LineAt p [] after [] p.offset (after.takeWhile fun c => !isLineBreak c) where
  ended := by simp
  started := Nat.le_refl _
  first := fun _ => rfl
  behind := by simp
  feeds_le := Nat.le_refl _
  feeds_eq_iff := iff_of_true rfl lineFeedsOnly_nil
  column := fun _ => rfl

/-- Behind a break the same line follows, with an empty one more before it. -/
lemma behind_break {ending : List Char} (nonempty : ending ≠ [])
    (feeds : ending.count '\n' ≤ 1)
    (only : LineFeedsOnly (ending ++ before) ↔ ending.count '\n' = 1 ∧ LineFeedsOnly before)
    (fresh : ending.count '\n' = 1 → (p.advance ending).column = 0)
    (h : LineAt (p.advance ending) before after earlier start line) :
    LineAt p (ending ++ before) after ((p.offset, []) :: earlier) start line := by
  have some := List.length_pos_iff.2 nonempty
  have place : (p.advance ending).offset + before.length =
      p.offset + (ending ++ before).length := by
    rw [Position.advance_offset, List.length_append]
    omega
  refine ⟨?_, ?_, by simp, ?_, ?_, ?_, ?_⟩
  · rintro e (_ | ⟨_, later⟩)
    · simp only [List.length_append, List.length_nil]
      omega
    · rw [← place]
      exact h.ended e later
  · rw [← place]
    exact h.started
  · rw [← place]
    exact h.behind
  · have below := h.feeds_le
    rw [List.count_append, List.length_cons]
    omega
  · rw [only, ← h.feeds_eq_iff, List.count_append, List.length_cons]
    have below := h.feeds_le
    omega
  · intro feedsOnly
    obtain ⟨feed, others⟩ := only.1 feedsOnly
    have column := h.column others
    rw [place, fresh feed] at column
    rw [if_neg (List.cons_ne_nil _ _), Position.advance_append, column]
    split <;> rfl

/-- A character goes in front of the first line if that is the line of the place. -/
lemma behind_char_first {c : Char} (inside : isLineBreak c = false)
    (h : LineAt (p.advance [c]) before after [] start line) :
    LineAt p (c :: before) after [] p.offset (c :: line) := by
  have noFeed := ne_lineFeed_of_inLine inside
  have here : start = p.offset + 1 := by
    rw [h.first rfl, Position.advance_offset, List.length_singleton]
  have column : (p.advance [c]).column = p.column + 1 := by
    simp [Position.advance, Position.step, noFeed]
  refine ⟨by simp, by omega, fun _ => rfl, ?_, ?_, ?_, ?_⟩
  · have behind := h.behind
    rw [here, Position.advance_offset, List.length_singleton, Nat.add_sub_cancel_left] at behind
    rw [List.length_cons, Nat.add_sub_cancel_left, List.drop_succ_cons]
    exact behind
  · rw [List.count_cons_of_ne noFeed]
    exact h.feeds_le
  · rw [List.count_cons_of_ne noFeed, lineFeedsOnly_inLine inside]
    exact h.feeds_eq_iff
  · intro only
    have below := h.column ((lineFeedsOnly_inLine inside).1 only)
    rw [here, column, if_pos rfl, Position.advance_offset, List.length_singleton] at below
    have next : (p.advance (c :: before)).column = ((p.advance [c]).advance before).column := by
      rw [← Position.advance_append]
      rfl
    rw [next, if_pos rfl, List.length_cons]
    omega

/-- A character goes in front of the first line if that comes before the line of the place. -/
lemma behind_char_earlier {c : Char} (inside : isLineBreak c = false) {text : List Char}
    (h : LineAt (p.advance [c]) before after ((p.offset + 1, text) :: earlier) start line) :
    LineAt p (c :: before) after ((p.offset, c :: text) :: earlier) start line := by
  have noFeed := ne_lineFeed_of_inLine inside
  have place : (p.advance [c]).offset + before.length = p.offset + (c :: before).length := by
    rw [Position.advance_offset, List.length_singleton, List.length_cons]
    omega
  refine ⟨?_, ?_, by simp, ?_, ?_, ?_, ?_⟩
  · have ended := h.ended
    rw [place, List.forall_mem_cons] at ended
    rw [List.forall_mem_cons]
    refine ⟨?_, ended.2⟩
    have first := ended.1
    simp only [List.length_cons] at first ⊢
    omega
  · rw [← place]
    exact h.started
  · rw [← place]
    exact h.behind
  · rw [List.count_cons_of_ne noFeed]
    exact h.feeds_le
  · rw [List.count_cons_of_ne noFeed, lineFeedsOnly_inLine inside]
    exact h.feeds_eq_iff
  · intro only
    have below := h.column ((lineFeedsOnly_inLine inside).1 only)
    rw [if_neg (List.cons_ne_nil _ _), place, ← Position.advance_append] at below
    rw [if_neg (List.cons_ne_nil _ _)]
    exact below

end LineAt

/-- **Every place in front of a character is on a displayed line.** -/
theorem exists_lineAt (p : Position) (before : List Char) {c : Char} (rest : List Char)
    (inside : isLineBreak c = false) :
    ∃ earlier start line later, placedLines p.offset (before ++ c :: rest) =
      earlier ++ (start, line) :: later ∧ LineAt p before (c :: rest) earlier start line := by
  induction before using line_induction generalizing p with
  | nil =>
    obtain ⟨later, shape⟩ := exists_placedLines_eq_cons (List.cons_ne_nil c rest) p.offset
    exact ⟨[], p.offset, _, later, shape, .here p (c :: rest)⟩
  | pair before ih =>
    obtain ⟨earlier, start, line, later, shape, on⟩ := ih (p.advance ['\r', '\n'])
    rw [Position.advance_offset] at shape
    refine ⟨(p.offset, []) :: earlier, start, line, later, ?_, ?_⟩
    · exact placedLines_pair.trans (congrArg _ shape)
    · refine on.behind_break (List.cons_ne_nil _ _) (by decide) ?_ (fun _ => ?_)
      · simpa using lineFeedsOnly_pair
      · simp [Position.advance, Position.step]
  | single d before ends alone ih =>
    obtain ⟨earlier, start, line, later, shape, on⟩ := ih (p.advance [d])
    rw [Position.advance_offset] at shape
    have feed : [d].count '\n' = 1 ↔ d = '\n' := by
      by_cases same : d = '\n' <;> simp [same]
    refine ⟨(p.offset, []) :: earlier, start, line, later, ?_, ?_⟩
    · have apart : ¬ (d = '\r' ∧ (before ++ c :: rest).head? = some '\n') := by
        rintro ⟨rfl, head⟩
        cases before with
        | nil =>
          exact ne_lineFeed_of_inLine inside (Option.some.inj head)
        | cons e before => exact alone ⟨rfl, head⟩
      exact (placedLines_single ends apart).trans (congrArg _ shape)
    · refine on.behind_break (List.cons_ne_nil _ _) List.count_le_length ?_ ?_
      · rw [feed]
        exact lineFeedsOnly_single ends alone
      · intro one
        rw [feed.1 one]
        rfl
  | inLine d before inLine ih =>
    obtain ⟨earlier, start, line, later, shape, on⟩ := ih (p.advance [d])
    rw [Position.advance_offset] at shape
    have whole : placedLines p.offset (d :: (before ++ c :: rest)) = _ :=
      placedLines_inLine inLine
    cases earlier with
    | nil =>
      refine ⟨[], p.offset, d :: line, later, ?_, on.behind_char_first inLine⟩
      simp only [List.length_singleton] at shape
      rw [List.cons_append, whole, shape]
      rfl
    | cons e earlier =>
      obtain ⟨offset, text⟩ := e
      have nonempty : before ++ c :: rest ≠ [] := by simp
      obtain ⟨_, first⟩ := exists_placedLines_eq_cons nonempty (p.offset + [d].length)
      have same := (List.cons_eq_cons.1 (first.symm.trans shape)).1
      obtain rfl : p.offset + 1 = offset := (Prod.mk.inj same).1
      refine ⟨(p.offset, d :: text) :: earlier, start, line, later, ?_,
        on.behind_char_earlier inLine⟩
      simp only [List.length_singleton] at shape
      rw [List.cons_append, whole, shape]
      rfl

/-! ## The entry with the number of the error -/

namespace Snippet

/-- The entries of a snippet are numbered one after the other. -/
def Consecutive (s : Snippet) : Prop := s.lines.IsChain fun e next => next.1 = e.1 + 1

/-- A snippet has exactly one entry with the number of its error, which holds `text` and stands
between the others. -/
structure ErrorEntry (s : Snippet) (before : List (Int × String)) (text : String)
    (after : List (Int × String)) : Prop where
  lines_eq : s.lines = before ++ (s.errorLine, text) :: after
  only : ∀ e ∈ before ++ after, e.1 ≠ s.errorLine

/-- Where entries are numbered one after the other, no number comes twice. -/
lemma Consecutive.errorEntry {s : Snippet} (h : s.Consecutive)
    {before after : List (Int × String)} {text : String}
    (shape : s.lines = before ++ (s.errorLine, text) :: after) :
    s.ErrorEntry before text after := by
  have increasing : s.lines.Pairwise fun e later => e.1 < later.1 := by
    have steps : s.lines.IsChain fun e next => e.1 < next.1 := h.imp fun e next same => by omega
    have transitive : IsTrans (Int × String) fun e later => e.1 < later.1 :=
      ⟨fun _ _ _ => Int.lt_trans⟩
    exact List.isChain_iff_pairwise.1 steps
  rw [shape, List.pairwise_append, List.pairwise_cons] at increasing
  obtain ⟨-, ⟨behind, -⟩, across⟩ := increasing
  refine ⟨shape, fun e there => ?_⟩
  obtain front | back := List.mem_append.1 there
  · exact (across e front _ List.mem_cons_self).ne
  · exact (behind e back).ne'

/-- The numbers of all lines of a source follow each other. -/
lemma isChain_numbered (lines : List (List Char)) :
    (lines.zipIdx.map fun (line, i) => ((i : Int) + 1, String.ofList line)).IsChain
      fun e next => next.1 = e.1 + 1 := by
  rw [List.isChain_iff_getElem]
  intro i there
  simp

/-- The snippet for a line shows it between its neighbours. -/
lemma errorEntry_build {source : String} {k : Nat} {line : List Char}
    (there : (Text.displayLines source.toList)[k]? = some line) (column : Option Int) :
    (build source (k + 1) 1 column).Consecutive ∧
      ∃ before after,
        (build source (k + 1) 1 column).ErrorEntry before (String.ofList line) after := by
  let numbered := (Text.displayLines source.toList).zipIdx.map fun (line, i) =>
    ((i : Int) + 1, String.ofList line)
  have lines : (build source (k + 1) 1 column).lines = (numbered.take (k + 2)).drop (k - 1) := by
    have last : ((k : Int) + 1 + 1).toNat = k + 2 := by omega
    have first : ((k : Int) + 1 - 1 - 1).toNat = k - 1 := by omega
    rw [build, last, first]
    cases shown : Text.displayLines source.toList with
    | nil => simp [shown] at there
    | cons top others => simp only [numbered, shown]
  have consecutive : (build source (k + 1) 1 column).Consecutive := by
    rw [Consecutive, lines]
    exact ((isChain_numbered _).take (k + 2)).drop (k - 1)
  refine ⟨consecutive, (numbered.take k).drop (k - 1), (numbered.drop (k + 1)).take 1, ?_⟩
  refine consecutive.errorEntry ?_
  have entry : numbered[k]? = some (((k : Int) + 1), String.ofList line) := by
    simp [numbered, there]
  obtain ⟨inside, same⟩ := List.getElem?_eq_some_iff.1 entry
  have front : (numbered.take k).length = k := List.length_take_of_le inside.le
  have rest : numbered.drop k = (((k : Int) + 1), String.ofList line) :: numbered.drop (k + 1) := by
    rw [List.drop_eq_getElem_cons inside, same]
  rw [lines, List.take_add, rest, List.drop_append_of_le_length (by omega)]
  rfl

/-- The entry with the number of the error is the displayed line with that number, and that starts
at an offset of the source. -/
def ShowsLine (s : Snippet) (source : List Char) (start : Nat) (line : List Char) : Prop :=
  ∃ k : Nat, s.errorLine = k + 1 ∧ (Text.placedLines 0 source)[k]? = some (start, line) ∧
    ∃ before after, s.ErrorEntry before (String.ofList line) after

/-- A snippet shows the directive at an offset: its column leads from the start of the line shown to
that offset, and the braces stand there on the line. -/
def Shows (s : Snippet) (source : List Char) (offset : Nat) : Prop :=
  ∃ start line, ∃ column : Nat, s.ShowsLine source start line ∧ s.column = some (column : Int) ∧
    start + column = offset ∧ ['\x7b', '\x7b'] <+: line.drop column

/-- A snippet that is made for the directive at an offset: its entries are numbered one after the
other, exactly one of them has the number of the error, and that shows the directive exactly if no
line break but line feeds stands before it. -/
structure Locates (s : Snippet) (source : List Char) (offset : Nat) : Prop where
  consecutive : s.Consecutive
  entry : ∃ before text after, s.ErrorEntry before text after
  braces : Spells source offset (offset + 2) ['\x7b', '\x7b']
  shows_iff : s.Shows source offset ↔ Text.LineFeedsOnly (source.take offset)

/-- A snippet for the line and the column behind some text shows the directive there exactly if all
line breaks of that text are line feeds. -/
lemma shows_iff_lineFeedsOnly {s : Snippet} {before after : List Char} {start : Nat}
    {line : List Char} (shown : s.ShowsLine (before ++ '\x7b' :: '\x7b' :: after) start line)
    (number : s.errorLine = (before.count '\n' : Int) + 1)
    (column : s.column = some ((Position.start.advance before).column : Int)) :
    s.Shows (before ++ '\x7b' :: '\x7b' :: after) before.length ↔ Text.LineFeedsOnly before := by
  have brace : Text.isLineBreak '\x7b' = false := by decide
  obtain ⟨earlier, first, through, later, placed, on⟩ :=
    exists_lineAt .start before ('\x7b' :: after) brace
  change Text.placedLines 0 _ = _ at placed
  rw [← on.feeds_eq_iff]
  constructor
  · rintro ⟨start', line', column', ⟨k, same, found, -⟩, -, sum, braces⟩
    obtain rfl : k = before.count '\n' := by omega
    -- a line with an earlier number would end before the directive
    by_contra differ
    have less : before.count '\n' < earlier.length := lt_of_le_of_ne on.feeds_le differ
    rw [placed, List.getElem?_append_left less] at found
    have ended := on.ended _ (List.mem_of_getElem? found)
    have long := braces.length_le
    simp only [List.length_cons, List.length_nil, List.length_drop, Position.start] at ended long
    omega
  · intro same
    obtain ⟨k, same', found, entry⟩ := shown
    obtain rfl : k = before.count '\n' := by omega
    have here := found
    rw [placed, same, List.getElem?_append_right le_rfl, Nat.sub_self, List.getElem?_cons_zero,
      Option.some.injEq, Prod.mk.injEq] at here
    obtain ⟨rfl, rfl⟩ := here
    have sum : first + (Position.start.advance before).column = before.length := by
      simpa [Position.start] using on.column (on.feeds_eq_iff.1 same)
    have behind := on.behind
    have rest : Position.start.offset + before.length - first =
        (Position.start.advance before).column := by
      rw [← sum, Position.start, Nat.zero_add, Nat.add_sub_cancel_left]
    rw [rest, List.takeWhile_cons_of_pos (by decide), List.takeWhile_cons_of_pos (by decide)]
      at behind
    refine ⟨first, through, _, ⟨_, same', found, entry⟩, column, sum, ?_⟩
    rw [behind]
    exact ⟨_, rfl⟩

/-- **The snippet for a directive locates it.** -/
theorem locates_build {source : String} {p : Position} (h : DirectiveAt source.toList p) :
    (build source p.line 1 (some p.column)).Locates source.toList p.offset := by
  have braces := h.spells
  obtain ⟨before, after, shape, rfl⟩ := h
  have size : (Position.start.advance before).offset = before.length := by
    rw [Position.advance_offset, Position.start, Nat.zero_add]
  have number : (Position.start.advance before).line = before.count '\n' + 1 := by
    rw [Position.advance_line, Position.start, Nat.add_comm]
  have brace : Text.isLineBreak '\x7b' = false := by decide
  obtain ⟨earlier, first, through, later, placed, on⟩ :=
    exists_lineAt .start before ('\x7b' :: after) brace
  have inside : before.count '\n' < (Text.placedLines 0 source.toList).length := by
    have below := on.feeds_le
    rw [shape, show Text.placedLines 0 _ = _ from placed, List.length_append, List.length_cons]
    omega
  obtain ⟨⟨start, line⟩, found⟩ : ∃ e, (Text.placedLines 0 source.toList)[before.count '\n']? =
      some e := ⟨_, List.getElem?_eq_getElem inside⟩
  have displayed : (Text.displayLines source.toList)[before.count '\n']? = some line := by
    rw [← Text.map_snd_placedLines 0, List.getElem?_map, found]
    rfl
  rw [number, Nat.cast_succ]
  obtain ⟨consecutive, front, back, entry⟩ :=
    errorEntry_build displayed (some ((Position.start.advance before).column : Int))
  refine ⟨consecutive, ⟨front, _, back, entry⟩, braces, ?_⟩
  have shown : ShowsLine _ source.toList start line := ⟨_, rfl, found, front, back, entry⟩
  rw [shape] at shown ⊢
  rw [size, List.take_left]
  exact shows_iff_lineFeedsOnly shown rfl rfl

end Snippet

/-! ## Located errors -/

/-- The snippet in the layout of a fault of a source. -/
def SyntaxDiagnostic.excerpt (d : SyntaxDiagnostic) : Snippet :=
  .build d.source d.place.1 1 (some d.place.2)

lemma SyntaxDiagnostic.compact_eq (colored : Bool) (d : SyntaxDiagnostic) :
    d.compact colored = "\n".intercalate [
      headline colored (d.code.map ErrorCode.text) d.fullMessage,
      "  --> " ++ Terminal.place colored d.location,
      d.excerpt.format colored] := rfl

/-- The snippet of a refused source is made for its fault. -/
lemma locates_excerpt {source : String} {f : SyntaxFault} (refused : parse source = .error f)
    (name : Option String) :
    (f.diagnose source name).excerpt.Locates source.toList f.position.offset := by
  have here : DirectiveAt source.toList f.position := directiveAt_of_parse_eq_error refused
  have place : (f.diagnose source name).place = (f.position.line, f.position.column) :=
    here.locate_eq
  rw [SyntaxDiagnostic.excerpt, place]
  exact Snippet.locates_build here

/-- The snippet of a strict rendering that failed is made for the directive that failed first. -/
lemma exists_locates_of_render {g : Graph} {source : String} {options : Options}
    {name : Option String} {t : Template} (made : Template.ofSource source options name = .ok t)
    (strict : t.mode g = .strict) {arguments : List Value} {bindings : Entries}
    {d : RenderDiagnostic}
    (failed : t.render g arguments bindings = .error (.diagnostic (.ofRender d))) :
    ∃ s i snippet, Template.scope g arguments bindings = .ok s ∧
      FailsFirst g s t.document.nodes i ∧ d.snippet = some snippet ∧
      snippet.Locates source.toList i.node.span.start.offset := by
  obtain ⟨document, accepted, rfl⟩ := exists_parse_of_ofSource made
  obtain ⟨s, f, site, message, data, stopped, -, rfl⟩ := exists_fault_of_render_eq_report failed
  rw [strict] at stopped
  obtain ⟨i, first, -, rfl⟩ := exists_failsFirst stopped
  have here : DirectiveAt source.toList i.node.span.start := first.directiveAt accepted
  have nonempty : source ≠ "" := by
    rintro rfl
    obtain ⟨before, after, shape, -⟩ := here
    simp at shape
  refine ⟨s, i, _, data, first, ?_, Snippet.locates_build here⟩
  simp [Fault.diagnoseAt, nonempty]

/-- **The snippet of an error shows the directive that failed, exactly if no line break but line
feeds stands before that directive.**  It always has one entry with the number of the error, among
entries with consecutive numbers. -/
theorem snippet_shows_directive_iff (g : Graph) (source : String) :
    (∀ f name, parse source = .error f →
      (f.diagnose source name).excerpt.Locates source.toList f.position.offset) ∧
    ∀ options name t arguments bindings d, Template.ofSource source options name = .ok t →
      t.mode g = .strict →
      t.render g arguments bindings = .error (.diagnostic (.ofRender d)) →
      ∃ s i snippet, Template.scope g arguments bindings = .ok s ∧
        FailsFirst g s t.document.nodes i ∧ d.snippet = some snippet ∧
        snippet.Locates source.toList i.node.span.start.offset := by
  constructor
  · intro f name refused
    exact locates_excerpt refused name
  · intro options name t arguments bindings d made strict failed
    exact exists_locates_of_render made strict failed

/-- Behind an empty line that ends in a carriage return and a line feed, an opening without an end
is shown, and so is a name that is missing. -/
theorem directive_shown_behind_empty_line :
    (∃ f, parse "\r\n\x7b\x7bname" = .error f ∧
      (f.diagnose "\r\n\x7b\x7bname" none).excerpt.Shows "\r\n\x7b\x7bname".toList 2) ∧
    ∃ t d snippet, Template.ofSource "\r\n\x7b\x7bname\x7d\x7d" {} none = .ok t ∧
      t.mode ⟨[]⟩ = .strict ∧ t.render ⟨[]⟩ [] [] = .error (.diagnostic (.ofRender d)) ∧
      d.snippet = some snippet ∧ snippet.Shows "\r\n\x7b\x7bname\x7d\x7d".toList 2 := by
  have feeds : Text.LineFeedsOnly ['\r', '\n'] := Text.lineFeedsOnly_pair.2 Text.lineFeedsOnly_nil
  constructor
  · have refused : parse "\r\n\x7b\x7bname" = .error ⟨.unmatchedOpen, ⟨2, 2, 0⟩⟩ := by cbv
    have located := (snippet_shows_directive_iff ⟨[]⟩ _).1 _ none refused
    exact ⟨_, refused, located.shows_iff.2 feeds⟩
  · let nodes : List Node :=
      [.text ⟨⟨0, 1, 0⟩, 2⟩ "\r\n", .variable ⟨⟨2, 2, 0⟩, 10⟩ "name"]
    let t : Template := ⟨⟨10, nodes⟩, {}, none, some "\r\n\x7b\x7bname\x7d\x7d"⟩
    have parsed : parse "\r\n\x7b\x7bname\x7d\x7d" = .ok ⟨10, nodes⟩ := by cbv
    have made : Template.ofSource "\r\n\x7b\x7bname\x7d\x7d" {} none = .ok t := by
      rw [Template.ofSource, parsed]
    have failed : t.render ⟨[]⟩ [] [] = .error (.diagnostic (.ofRender
      ((Fault.missingVariable "name").diagnoseAt _ none t.source ⟨2, 2, 0⟩))) := rfl
    obtain ⟨s, i, snippet, -, first, quoted, located⟩ :=
      (snippet_shows_directive_iff ⟨[]⟩ _).2 _ _ _ _ _ _ made rfl failed
    have directive : i.node = .variable ⟨⟨2, 2, 0⟩, 10⟩ "name" := by
      have visited : i.node ∈ Node.visit nodes := first.mem_visit
      have marker := first.fails.isText
      simp only [nodes, mem_visit_cons, Node.children, visit_nil, List.not_mem_nil, or_false,
        false_or] at visited
      obtain same | same := visited
      · rw [same] at marker
        cases marker
      · exact same
    rw [directive] at located
    exact ⟨t, _, snippet, made, rfl, failed, quoted, located.shows_iff.2 feeds⟩

/-- A form feed before a directive makes the snippet show an empty line in its place. -/
theorem form_feed_hides_directive :
    ∃ t d snippet, Template.ofSource "\x0c\x7b\x7bname\x7d\x7d" {} none = .ok t ∧
      t.mode ⟨[]⟩ = .strict ∧ t.render ⟨[]⟩ [] [] = .error (.diagnostic (.ofRender d)) ∧
      d.snippet = some snippet ∧ snippet.errorLine = 1 ∧ snippet.column = some 1 ∧
      ∀ text, (1, text) ∈ snippet.lines → ¬ ['\x7b', '\x7b'] <+: text.toList.drop 1 := by
  let source := "\x0c\x7b\x7bname\x7d\x7d"
  let nodes : List Node :=
    [.text ⟨⟨0, 1, 0⟩, 1⟩ "\x0c", .variable ⟨⟨1, 1, 1⟩, 9⟩ "name"]
  let t : Template := ⟨⟨9, nodes⟩, {}, none, some source⟩
  have parsed : parse source = .ok ⟨9, nodes⟩ := by cbv
  have made : Template.ofSource source {} none = .ok t := by rw [Template.ofSource, parsed]
  have lines : (Snippet.build source 1 1 (some 1)).lines =
      [(1, ""), (2, "\x7b\x7bname\x7d\x7d")] := by cbv
  refine ⟨t, (Fault.missingVariable "name").diagnoseAt _ none t.source ⟨1, 1, 1⟩,
    Snippet.build source 1 1 (some 1), made, rfl, rfl, rfl, rfl, rfl, ?_⟩
  intro text entry
  obtain rfl : text = "" := by simpa [lines] using entry
  decide

end BraceTemplate
