import BraceTemplate.Proofs.Grammar
import Mathlib.Data.List.Chain

/-!
# Rows of pieces that a scan finds

`Scanned` says how a source is divided into pieces.  This file says which rows of pieces are the
division of some source, by conditions on the pieces alone: each piece is `Sound` in itself, and
each `Meets` the one behind it.  Such a row is a `Division`.

The main result `scan_eq_iff` says that the scan finds the one division that spells the source.  So
what it finds in a part of a source, or in a source with something put behind it, is found by taking
rows of pieces apart and putting them together: a part of a division is a division, and so are two
divisions side by side if they meet at their seam (`Division.append`).
-/

namespace BraceTemplate

/-! ## Doubled marks in joined texts -/

lemma noDouble_iff_isChain {mark : Char} {cs : List Char} :
    NoDouble mark cs ↔ cs.IsChain fun c d => ¬ (c = mark ∧ d = mark) := by
  induction cs with
  | nil => exact iff_of_true (noDouble_nil mark) .nil
  | cons c cs ih =>
    cases cs with
    | nil => exact iff_of_true (noDouble_singleton mark c) (.singleton c)
    | cons d rest => rw [noDouble_cons_cons, List.isChain_cons_cons, ih]

/-- A doubled mark in a joined text lies in one of its parts or on the seam. -/
lemma noDouble_append {mark : Char} {as bs : List Char} :
    NoDouble mark (as ++ bs) ↔
      NoDouble mark as ∧ NoDouble mark bs ∧ ¬ (as.getLast? = some mark ∧ bs.head? = some mark) := by
  simp only [noDouble_iff_isChain, List.isChain_append, Option.mem_def]
  refine and_congr_right fun _ => and_congr_right fun _ => ⟨?_, ?_⟩
  · rintro apart ⟨last, first⟩
    exact apart mark last mark first ⟨rfl, rfl⟩
  · rintro apart c last d first ⟨rfl, rfl⟩
    exact apart ⟨last, first⟩

lemma noDouble_append_mark {mark : Char} {cs : List Char} :
    NoDouble mark (cs ++ [mark]) ↔ NoDouble mark cs ∧ cs.getLast? ≠ some mark := by
  simp [noDouble_append, noDouble_singleton]

/-! ## Pieces and their neighbours -/

namespace Piece

/-- Whether a piece is a run of text. -/
def isText : Piece → Bool
  | .text _ => true
  | _ => false

/-- A piece as a scan cuts it: text is not empty and holds no doubled opening brace, a directive
ends at its first doubled closing brace, and an unterminated one holds none. -/
def Sound : Piece → Prop
  | .text content => content ≠ [] ∧ NoDouble '\x7b' content
  | .directive inner => NoDouble '\x7d' (inner ++ ['\x7d'])
  | .unterminated rest => NoDouble '\x7d' rest

/-- What may stand behind a piece.  Behind text a directive, which the text touches with no brace;
behind a directive anything; behind an unterminated directive nothing. -/
def Meets : Piece → Piece → Prop
  | .text content, next => next.isText = false ∧ content.getLast? ≠ some '\x7b'
  | .directive _, _ => True
  | .unterminated _, _ => False

/-- Directives all begin in the same way, so one may stand where another does. -/
lemma Meets.replace {piece next other : Piece} (h : piece.Meets next)
    (marker : other.isText = false) : piece.Meets other := by
  cases piece with
  | text content => exact ⟨marker, h.2⟩
  | directive inner => trivial
  | unterminated rest => exact h

lemma source_of_not_isText {piece : Piece} (marker : piece.isText = false) :
    ∃ rest, piece.source = '\x7b' :: '\x7b' :: rest := by
  cases piece with
  | text content => cases marker
  | directive inner => exact ⟨inner ++ ['\x7d', '\x7d'], rfl⟩
  | unterminated rest => exact ⟨rest, rfl⟩

end Piece

/-- A row of pieces as a scan finds it. -/
structure Division (pieces : List Piece) : Prop where
  sound : ∀ piece ∈ pieces, piece.Sound
  seams : pieces.IsChain Piece.Meets

namespace Division

lemma nil : Division [] := ⟨by simp, .nil⟩

lemma singleton {piece : Piece} (sound : piece.Sound) : Division [piece] :=
  ⟨by simpa using sound, .singleton piece⟩

lemma left {ps qs : List Piece} (h : Division (ps ++ qs)) : Division ps :=
  ⟨fun piece there => h.sound piece (List.mem_append_left qs there), h.seams.left_of_append⟩

lemma right {ps qs : List Piece} (h : Division (ps ++ qs)) : Division qs :=
  ⟨fun piece there => h.sound piece (List.mem_append_right ps there), h.seams.right_of_append⟩

lemma tail {piece : Piece} {pieces : List Piece} (h : Division (piece :: pieces)) :
    Division pieces :=
  @Division.right [piece] pieces h

/-- The last of some pieces meets the first of those behind them. -/
lemma seam {ps qs : List Piece} (h : Division (ps ++ qs)) :
    ∀ p ∈ ps.getLast?, ∀ q ∈ qs.head?, p.Meets q :=
  (List.isChain_append.1 h.seams).2.2

/-- Divisions that meet at their seam make one together. -/
lemma append {ps qs : List Piece} (front : Division ps) (back : Division qs)
    (seam : ∀ p ∈ ps.getLast?, ∀ q ∈ qs.head?, p.Meets q) : Division (ps ++ qs) := by
  refine ⟨?_, List.isChain_append.2 ⟨front.seams, back.seams, seam⟩⟩
  intro piece there
  obtain here | there := List.mem_append.1 there
  · exact front.sound piece here
  · exact back.sound piece there

/-- Text that touches no brace goes in front of a directive. -/
lemma behind_text {before : List Char} {piece : Piece} {pieces : List Piece}
    (free : NoDouble '\x7b' (before ++ ['\x7b'])) (marker : piece.isText = false)
    (h : Division (piece :: pieces)) : Division (textPiece before ++ piece :: pieces) := by
  rw [noDouble_append_mark] at free
  cases before with
  | nil => exact h
  | cons c cs =>
    have text : Piece.Sound (.text (c :: cs)) := ⟨List.cons_ne_nil c cs, free.1⟩
    refine (singleton text).append h ?_
    rintro _ ⟨⟩ _ ⟨⟩
    exact ⟨marker, free.2⟩

/-- Text that touches no brace goes in front of a directive and what is behind it. -/
lemma scanned_behind_text {before : List Char} {piece : Piece} {rest : List Piece}
    (free : NoDouble '\x7b' (before ++ ['\x7b'])) (marker : piece.isText = false)
    (h : Division (piece :: rest)) (behind : Scanned (sourceOf rest) rest) :
    Scanned (before ++ sourceOf (piece :: rest)) (textPiece before ++ piece :: rest) := by
  have sound := h.sound piece List.mem_cons_self
  cases piece with
  | text content => cases marker
  | directive inner => simpa [Piece.source] using Scanned.directive free sound behind
  | unterminated after =>
    cases rest with
    | nil => simpa [Piece.source] using Scanned.unterminated free sound
    | cons next rest => exact (List.isChain_cons_cons.1 h.seams).1.elim

/-- A division divides the source that it spells. -/
lemma scanned : ∀ {pieces : List Piece}, Division pieces → Scanned (sourceOf pieces) pieces
  | [], _ => .plain (noDouble_nil _)
  | [.text content], h => by
    obtain ⟨full, free⟩ := h.sound (.text content) List.mem_cons_self
    have one : textPiece content = [.text content] := by simp [textPiece, full]
    simpa [Piece.source, one] using Scanned.plain free
  | .text content :: next :: rest, h => by
    obtain ⟨full, free⟩ := h.sound (.text content) List.mem_cons_self
    obtain ⟨⟨marker, apart⟩, -⟩ := List.isChain_cons_cons.1 h.seams
    have one : textPiece content = [.text content] := by simp [textPiece, full]
    have shape := scanned_behind_text (noDouble_append_mark.2 ⟨free, apart⟩) marker h.tail
      h.tail.tail.scanned
    rwa [one] at shape
  | .directive _ :: _, h =>
    @scanned_behind_text [] _ _ (noDouble_singleton _ _) rfl h h.tail.scanned
  | .unterminated _ :: _, h =>
    @scanned_behind_text [] _ _ (noDouble_singleton _ _) rfl h h.tail.scanned

end Division

lemma Scanned.division {source : List Char} {pieces : List Piece} (h : Scanned source pieces) :
    Division pieces := by
  induction h with
  | @plain source free =>
    cases source with
    | nil => exact .nil
    | cons c cs => exact .singleton ⟨List.cons_ne_nil c cs, free⟩
  | unterminated opened free => exact .behind_text opened rfl (.singleton free)
  | directive opened closed _ ih =>
    refine .behind_text opened rfl (@Division.append [_] _ (.singleton closed) ih ?_)
    rintro _ ⟨⟩ _ _
    trivial

/-- **The scan finds the one division that spells the source.** -/
theorem scan_eq_iff {source : List Char} {pieces : List Piece} :
    scan source = pieces ↔ sourceOf pieces = source ∧ Division pieces := by
  constructor
  · rintro rfl
    exact ⟨sourceOf_scan source, (scanned_scan source).division⟩
  · rintro ⟨rfl, division⟩
    exact (scanned_iff.1 division.scanned).symm

lemma division_scan (source : List Char) : Division (scan source) := (scan_eq_iff.1 rfl).2

lemma scan_sourceOf {pieces : List Piece} (h : Division pieces) :
    scan (sourceOf pieces) = pieces :=
  scan_eq_iff.2 ⟨rfl, h⟩

/-- A directive goes behind readable pieces unless what they spell ends in an opening brace. -/
lemma Division.meets_marker {pieces : List Piece} (h : Division pieces)
    (readable : ∀ piece ∈ pieces, piece.Readable)
    (clear : (sourceOf pieces).getLast? ≠ some '\x7b') {next : Piece}
    (marker : next.isText = false) : ∀ piece ∈ pieces.getLast?, piece.Meets next := by
  intro piece last
  have there := List.mem_of_getLast? last
  obtain ⟨front, rfl⟩ := List.getLast?_eq_some_iff.1 last
  cases piece with
  | directive inner => trivial
  | unterminated rest => exact absurd rfl (readable (.unterminated rest) there .unmatchedOpen)
  | text content =>
    obtain ⟨full, -⟩ := h.sound (.text content) there
    refine ⟨marker, ?_⟩
    rwa [sourceOf_append, sourceOf_cons, sourceOf_nil, List.append_nil, Piece.source,
      List.getLast?_append_of_ne_nil _ full] at clear

/-- What stands in front of another piece does not end in an opening brace. -/
lemma Division.clear_in_front {ps qs : List Piece} {piece : Piece}
    (h : Division (ps ++ piece :: qs)) : (sourceOf ps).getLast? ≠ some '\x7b' := by
  obtain rfl | ⟨front, last, rfl⟩ := List.eq_nil_or_concat ps
  · simp
  · rw [List.concat_eq_append] at h ⊢
    have meets : last.Meets piece := h.seam last (by simp) piece rfl
    rw [sourceOf_append, sourceOf_cons, sourceOf_nil, List.append_nil]
    cases last with
    | text content =>
      obtain ⟨full, -⟩ : Piece.Sound (.text content) := h.sound _ (by simp)
      rw [Piece.source, List.getLast?_append_of_ne_nil _ full]
      exact meets.2
    | directive inner => simp [Piece.source, List.getLast?_cons]
    | unterminated rest => exact meets.elim

end BraceTemplate
