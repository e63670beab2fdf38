import BraceTemplate.Proofs.Blame
import BraceTemplate.Proofs.FirstFault
import BraceTemplate.Proofs.Moving

/-!
# Places of directives

Positions are counted in two ways: reading advances them character by character, and `locate` finds
line and column of an offset from the text before it.  Both give the same place (`locate_eq`).

A fault of a source and a failing directive of a template have in common that a doubled opening
brace stands at their position (`directiveAt_of_parse_eq_error`, `FailsFirst.directiveAt`).  What is
said about the place of an error is said once, about such positions.
-/

namespace BraceTemplate

/-! ## Line and column of an offset -/

lemma Position.advance_column (cs : List Char) :
    (start.advance cs).column = (cs.reverse.takeWhile (· ≠ '\n')).length := by
  induction cs using List.reverseRecOn with
  | nil => rfl
  | append_singleton cs c ih =>
    have last : start.advance (cs ++ [c]) = (start.advance cs).step c := advance_append start cs [c]
    rw [last, List.reverse_concat, step]
    by_cases feed : c = '\n'
    · rw [if_pos feed, List.takeWhile_cons_of_neg (by simpa using feed)]
      rfl
    · rw [if_neg feed, List.takeWhile_cons_of_pos (by simpa using feed), List.length_cons, ← ih]

/-- **Line and column of an offset are those of the position that reading up to it leads to.** -/
theorem locate_eq (source : List Char) (offset : Nat) :
    locate source offset =
      ((Position.start.advance (source.take offset)).line,
        (Position.start.advance (source.take offset)).column) := by
  have line := Position.advance_line .start (source.take offset)
  rw [locate, Int.toNat_natCast, Position.advance_column, line, Position.start, Nat.add_comm]

/-! ## Directives and their positions -/

/-- A doubled opening brace stands at a position of a source. -/
def DirectiveAt (source : List Char) (p : Position) : Prop :=
  ∃ before after, source = before ++ '\x7b' :: '\x7b' :: after ∧ p = Position.start.advance before

namespace DirectiveAt

variable {source : List Char} {p : Position}

/-- What a position has in front of it is the beginning of its source. -/
lemma exists_eq_take (h : DirectiveAt source p) :
    ∃ after, source = source.take p.offset ++ '\x7b' :: '\x7b' :: after ∧
      p = Position.start.advance (source.take p.offset) := by
  obtain ⟨before, after, rfl, rfl⟩ := h
  have offset : (Position.start.advance before).offset = before.length := by
    rw [Position.advance_offset, Position.start, Nat.zero_add]
  refine ⟨after, ?_, ?_⟩ <;> rw [offset, List.take_left]

lemma locate_eq (h : DirectiveAt source p) : locate source p.offset = (p.line, p.column) := by
  obtain ⟨after, -, place⟩ := h.exists_eq_take
  rw [BraceTemplate.locate_eq, ← place]

/-- The braces stand at the offset of the position. -/
lemma spells (h : DirectiveAt source p) :
    Spells source p.offset (p.offset + 2) ['\x7b', '\x7b'] := by
  obtain ⟨before, after, rfl, rfl⟩ := h
  rw [Position.advance_offset, Position.start, Nat.zero_add]
  simpa using spells_append before ['\x7b', '\x7b'] after

/-- Where a piece that is no text starts, a directive does. -/
lemma of_pieces {before after : List Piece} {piece : Piece} (marker : piece.isText = false) :
    DirectiveAt (sourceOf (before ++ piece :: after))
      (Position.start.advance (sourceOf before)) := by
  obtain ⟨rest, opens⟩ := Piece.source_of_not_isText marker
  refine ⟨sourceOf before, rest ++ sourceOf after, ?_, rfl⟩
  rw [sourceOf_append, sourceOf_cons, opens]
  rfl

end DirectiveAt

lemma Piece.Makes.isText {piece : Piece} {n : Node} (h : piece.Makes n) :
    piece.isText = n.isText := by
  cases h with
  | leaf isLeaf => exact (isText_of_role_leaf isLeaf _).symm
  | block opens =>
    obtain ⟨inner, rfl, -⟩ := exists_of_role_opens opens
    exact (isText_ofBlock ..).symm

/-- The fault of a source is noticed at a directive. -/
lemma directiveAt_of_parse_eq_error {source : String} {f : SyntaxFault}
    (refused : parse source = .error f) : DirectiveAt source.toList f.position := by
  have spelled := sourceOf_scan source.toList
  obtain ⟨ps, piece, qs, r, shape, holds, failed⟩ | ⟨r, holds, failed⟩ := parse_eq_error refused
  · obtain ⟨place, reason⟩ := Reader.read_eq_error failed
    have marker : piece.isText = false := by
      obtain ⟨rest, rfl, -⟩ | ⟨inner, rfl, -⟩ := reason <;> rfl
    rw [← spelled, shape, place, holds.position_eq]
    exact .of_pieces marker
  · obtain ⟨-, frame, frames, stack, place⟩ := Reader.finish_eq_error failed
    obtain ⟨outer, first, inside, before, shape, marker, outside, start⟩ := holds.exists_outer stack
    rw [← spelled, shape, place, ← start, outside.position_eq]
    exact .of_pieces marker

/-- A node that fails is no run of text. -/
lemma Degrades.isText {g : Graph} {s : Scope} {n : Node} (h : Degrades g s n) :
    n.isText = false := by
  cases n with
  | text span content =>
    obtain ⟨path, reads, -⟩ := h
    cases reads
  | _ => rfl

/-- The evaluation that a strict rendering fails at is that of a directive. -/
lemma FailsFirst.directiveAt {g : Graph} {s : Scope} {source : String} {d : Document}
    {i : Instance} (accepted : parse source = .ok d) (h : FailsFirst g s d.nodes i) :
    DirectiveAt source.toList i.node.span.start := by
  have whole : Derives .start (scan source.toList) d.nodes := (parse_eq_ok_iff.1 accepted).2
  obtain ⟨before, piece, after, shape, place, makes⟩ := whole.exists_piece h.mem_visit
  have marker : piece.isText = false := makes.isText.trans h.fails.isText
  rw [← sourceOf_scan source.toList, shape, place]
  exact .of_pieces marker

/-- The template of a source is that of the document that it is read as. -/
lemma exists_parse_of_ofSource {source : String} {options : Options} {name : Option String}
    {t : Template} (made : Template.ofSource source options name = .ok t) :
    ∃ document, parse source = .ok document ∧ t = ⟨document, options, name, some source⟩ := by
  rw [Template.ofSource] at made
  cases outcome : parse source with
  | error f =>
    rw [outcome] at made
    cases made
  | ok document =>
    rw [outcome] at made
    cases made
    exact ⟨document, rfl, rfl⟩

end BraceTemplate
