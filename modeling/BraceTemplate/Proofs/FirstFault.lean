import Mathlib
import BraceTemplate.Diagnostic.Parsing
import BraceTemplate.Proofs.Tiling

/-!
# The first fault of a source

A source that is no template is reported with one fault and its place.  This file says that the
place is the right one: up to it the source can still be completed to a template, and from it on,
unless blocks are merely left open, nothing that follows could mend it.

What completes the beginning of a source are closing directives, one for each block that is open
(`foldlM_closings`).  Which blocks those are is said on the pieces by `LeavesOpen`: behind the
opening of each stand only balanced brackets and the blocks opened later.

The main result `parse_fault_leftmost` goes by the two ways of failing, at a piece that cannot be
read (`Reader.read_eq_error`) and at the end (`Reader.finish_eq_error`); in both, the reader's
invariant `Holds` describes what has been read up to the place of the fault.
-/

namespace BraceTemplate

/-! ## Closing directives -/

/-- The piece that closes a block of a kind. -/
def BlockKind.closing (kind : BlockKind) : Piece := .directive kind.closingBody.toList

/-- Closing directives for some blocks, one behind the other. -/
def closings (kinds : List BlockKind) : String :=
  String.join (kinds.map fun kind => "\x7b\x7b" ++ kind.closingBody ++ "\x7d\x7d")

lemma toList_closings (kinds : List BlockKind) :
    (closings kinds).toList = sourceOf (kinds.map BlockKind.closing) := by
  induction kinds with
  | nil => rfl
  | cons kind kinds ih =>
    rw [closings, String.toList_join] at ih ⊢
    rw [List.map_cons, List.flatMap_cons, ih, List.map_cons, sourceOf_cons]
    simp [BlockKind.closing, Piece.source]

lemma role_closing (kind : BlockKind) : kind.closing.role = .closes kind.closingBody kind := by
  cases kind <;> rfl

lemma sound_closing (kind : BlockKind) : kind.closing.Sound := by
  have free : ¬ ['\x7d', '\x7d'] <:+: kind.closingBody.toList ++ ['\x7d'] := by
    cases kind <;> decide
  exact free

lemma division_closings (kinds : List BlockKind) : Division (kinds.map BlockKind.closing) := by
  induction kinds with
  | nil => exact .nil
  | cons kind kinds ih =>
    refine @Division.append [kind.closing] _ (.singleton (sound_closing kind)) ih ?_
    rintro _ ⟨⟩ _ _
    trivial

namespace Reader

/-- Closing directives for the open blocks, innermost first, leave none open. -/
lemma foldlM_closings (position : Position) (recent : List Node) (frames : List Frame) :
    ∃ stop nodes, ((frames.map (·.opening.kind)).map BlockKind.closing).foldlM read
      ⟨position, recent, frames⟩ = .ok ⟨stop, nodes, []⟩ := by
  induction frames generalizing position recent with
  | nil => exact ⟨position, recent, rfl⟩
  | cons frame frames ih =>
    obtain ⟨stop, nodes, run⟩ := ih (position.advance frame.opening.kind.closing.source)
      (Node.ofBlock ⟨frame.start, (position.advance frame.opening.kind.closing.source).offset⟩
        frame.body recent.reverse frame.opening :: frame.before)
    refine ⟨stop, nodes, ?_⟩
    rw [List.map_cons, List.map_cons, List.foldlM_cons, read_eq, role_closing]
    simp only [closeBlock, if_true]
    exact run

/-! ## What has been read -/

lemma Holds.position_eq {r : Reader} {ps : List Piece} (h : r.Holds ps) :
    r.position = Position.start.advance (sourceOf ps) := by
  induction h with
  | outermost => rfl
  | inside _ _ _ ih =>
    simp only at ih
    rw [sourceOf_append, sourceOf_cons, Position.advance_append, Position.advance_append, ← ih]

/-- The invariant describes one reader only, the one that has read the pieces. -/
lemma Holds.foldlM_eq {r : Reader} {ps : List Piece} (h : r.Holds ps) :
    ps.foldlM read start = .ok r := by
  induction h with
  | outermost whole => simpa [start] using foldlM_read_of_derives whole [] []
  | inside _ opens within ih =>
    rw [List.foldlM_append, ih, ok_bind, List.foldlM_cons, read_eq, opens]
    simp only [openBlock]
    rw [ok_bind, foldlM_read_of_derives within, List.append_nil]

lemma Holds.readable {r : Reader} {ps : List Piece} (h : r.Holds ps) :
    ∀ piece ∈ ps, piece.Readable := by
  induction h with
  | outermost whole => exact whole.readable
  | inside _ opens within ih =>
    intro piece there
    simp only [List.mem_append, List.mem_cons] at there
    obtain before | rfl | behind := there
    · exact ih piece before
    · simp [Piece.Readable, opens]
    · exact within.readable piece behind

/-- What has been read is completed by closing directives for the open blocks. -/
lemma Holds.exists_parse {r : Reader} {ps : List Piece} (h : r.Holds ps) (division : Division ps)
    (seam : ∀ kind : BlockKind, ∀ piece ∈ ps.getLast?, piece.Meets kind.closing) :
    ∃ d, parse (String.ofList (sourceOf ps) ++ closings (r.frames.map (·.opening.kind))) =
      .ok d := by
  obtain ⟨stop, nodes, run⟩ := foldlM_closings r.position r.recent r.frames
  have joined : Division (ps ++ (r.frames.map (·.opening.kind)).map BlockKind.closing) := by
    refine division.append (division_closings _) ?_
    intro piece last next first
    obtain ⟨kind, -, rfl⟩ := List.mem_map.1 (List.mem_of_mem_head? first)
    exact seam kind piece last
  refine ⟨⟨stop.offset, nodes.reverse⟩, ?_⟩
  rw [parse_eq_foldlM_read, String.toList_append, String.toList_ofList, toList_closings,
    ← sourceOf_append, scan_sourceOf joined, List.foldlM_append, h.foldlM_eq, ok_bind, run, ok_bind,
    finish]

end Reader

/-! ## Open blocks -/

/-- A block that has been opened: its kind, and where its opening directive starts. -/
structure OpenBlock where
  start : Position
  kind : BlockKind

/-- The blocks that some pieces leave open, innermost first.  The brackets behind the opening of the
innermost one are balanced, and the pieces before it leave the others open. -/
inductive LeavesOpen : List Piece → List OpenBlock → Prop
  | none {ps : List Piece} : Balanced (bracketsOf ps) → LeavesOpen ps []
  | block {outer inside : List Piece} {first : Piece} {kind : BlockKind}
      {blocks : List OpenBlock} :
      LeavesOpen outer blocks → first.bracket? = some (.opens kind) →
      Balanced (bracketsOf inside) →
      LeavesOpen (outer ++ first :: inside)
        (⟨Position.start.advance (sourceOf outer), kind⟩ :: blocks)

namespace Reader

/-- The blocks on the stack are those that the pieces leave open. -/
lemma Holds.leavesOpen {r : Reader} {ps : List Piece} (h : r.Holds ps) :
    LeavesOpen ps (r.frames.map fun frame => ⟨frame.start, frame.opening.kind⟩) := by
  induction h with
  | outermost whole => exact .none whole.balanced
  | @inside p before frames outer first body opening ps nodes outside opens within ih =>
    have place : p = Position.start.advance (sourceOf outer) := outside.position_eq
    have bracket : first.bracket? = some (.opens opening.kind) := by rw [Piece.bracket?, opens]
    simpa [place] using LeavesOpen.block ih bracket within.balanced

end Reader

/-! ## The two ways of failing -/

/-- The codes of faults that nothing behind them can mend. -/
def ErrorCode.IsFinal (code : ErrorCode) : Prop :=
  code = .mismatchedClose ∨ code = .unexpectedClose ∨ code = .malformedDirective

lemma not_isFinal_unmatchedOpen : ¬ ErrorCode.unmatchedOpen.IsFinal := by
  simp [ErrorCode.IsFinal]

lemma not_isFinal_unclosedDirective : ¬ ErrorCode.unclosedDirective.IsFinal := by
  simp [ErrorCode.IsFinal]

/-- A role is refused for the reason that its piece gives. -/
lemma refused_role {piece : Piece} {cause : SyntaxCause} (h : piece.role = .refused cause) :
    (∃ rest, piece = .unterminated rest ∧ cause = .unmatchedOpen) ∨
      ∃ inner, piece = .directive inner ∧ cause.code.IsFinal := by
  cases piece with
  | text content => cases h
  | unterminated rest =>
    cases h
    exact .inl ⟨rest, rfl, rfl⟩
  | directive inner =>
    refine .inr ⟨inner, rfl, ?_⟩
    simp only [Piece.role] at h
    cases meaning : classify (directiveBody inner) <;> rw [meaning] at h <;> cases h
    · exact .inr (.inr rfl)
    · exact .inr (.inl rfl)

namespace Reader

/-- A piece that cannot be read is an opening without an end, or a directive at which no reading
goes on; its fault stands at its start. -/
lemma read_eq_error {r : Reader} {piece : Piece} {f : SyntaxFault} (h : r.read piece = .error f) :
    f.position = r.position ∧
      ((∃ rest, piece = .unterminated rest ∧ f.cause = .unmatchedOpen) ∨
        ∃ inner, piece = .directive inner ∧ f.cause.code.IsFinal) := by
  rw [read_eq] at h
  cases role : piece.role with
  | leaf node => rw [role] at h; cases h
  | opens body opening => rw [role] at h; cases h
  | refused cause =>
    rw [role] at h
    cases h
    exact ⟨rfl, refused_role role⟩
  | closes body kind =>
    obtain ⟨inner, rfl, -, -⟩ := exists_of_role_closes role
    rw [role] at h
    simp only [closeBlock] at h
    split at h
    · split at h
      · cases h
      · cases h
        exact ⟨rfl, .inr ⟨inner, rfl, .inl rfl⟩⟩
    · cases h
      exact ⟨rfl, .inr ⟨inner, rfl, .inl rfl⟩⟩

/-- At the end of a source there is only one fault, an open block. -/
lemma finish_eq_error {r : Reader} {f : SyntaxFault} (h : r.finish = .error f) :
    f.cause.code = .unclosedDirective ∧
      ∃ frame frames, r.frames = frame :: frames ∧ f.position = frame.start := by
  rw [finish] at h
  split at h
  · cases h
  · rename_i frame frames shape
    cases h
    exact ⟨rfl, frame, frames, shape, rfl⟩

end Reader

/-- A source is refused at a piece that cannot be read, or at its end. -/
lemma parse_eq_error {source : String} {f : SyntaxFault} (h : parse source = .error f) :
    (∃ (ps : List Piece) (piece : Piece) (qs : List Piece) (r : Reader),
        scan source.toList = ps ++ piece :: qs ∧ r.Holds ps ∧ r.read piece = .error f) ∨
      ∃ r : Reader, r.Holds (scan source.toList) ∧ r.finish = .error f := by
  rw [parse_eq_foldlM_read, bind_eq_error_iff] at h
  obtain failed | ⟨r, run, failed⟩ := h
  · obtain ⟨ps, piece, qs, r, shape, run, step⟩ := foldlM_eq_error_iff.1 failed
    have holds := Reader.holds_start.run run
    rw [List.nil_append] at holds
    exact .inl ⟨ps, piece, qs, r, shape, holds, step⟩
  · have holds := Reader.holds_start.run run
    rw [List.nil_append] at holds
    exact .inr ⟨r, holds, failed⟩

/-! ## The place of a fault -/

section

variable {source : String} {ps qs : List Piece} {piece : Piece} {r : Reader}

lemma toList_eq_of_scan (shape : scan source.toList = ps ++ piece :: qs) :
    source.toList = sourceOf ps ++ piece.source ++ sourceOf qs := by
  have spelled := sourceOf_scan source.toList
  rw [shape, sourceOf_append, sourceOf_cons, ← List.append_assoc] at spelled
  exact spelled.symm

lemma Reader.Holds.offset_eq (h : r.Holds ps) : r.position.offset = (sourceOf ps).length := by
  rw [h.position_eq, Position.advance_offset, Position.start, Nat.zero_add]

/-- A directive begins with a doubled brace, and what stands before it can be completed. -/
lemma viable_before (shape : scan source.toList = ps ++ piece :: qs) (h : r.Holds ps)
    (marker : piece.isText = false) :
    Spells source.toList r.position.offset (r.position.offset + 2) ['\x7b', '\x7b'] ∧
      ∃ kinds d, parse (String.ofList (source.toList.take r.position.offset) ++ closings kinds) =
        .ok d := by
  have division := division_scan source.toList
  rw [shape] at division
  have whole := toList_eq_of_scan shape
  constructor
  · obtain ⟨rest, opens⟩ := Piece.source_of_not_isText marker
    rw [whole, opens, h.offset_eq]
    simpa using spells_append (sourceOf ps) ['\x7b', '\x7b'] (rest ++ sourceOf qs)
  · have before : source.toList.take r.position.offset = sourceOf ps := by
      rw [whole, h.offset_eq, List.append_assoc, List.take_left]
    rw [before]
    refine ⟨_, h.exists_parse division.left ?_⟩
    intro kind p last
    exact (division.seam p last piece rfl).replace rfl

/-- A directive that cannot be read cannot be read in front of anything else either. -/
lemma final_at {inner : List Char} {f : SyntaxFault}
    (shape : scan source.toList = ps ++ .directive inner :: qs) (h : r.Holds ps)
    (failed : r.read (.directive inner) = .error f) :
    ∃ last body, IsDirective source.toList r.position.offset last body ∧
      ∀ more, parse (String.ofList (source.toList.take last) ++ more) = .error f := by
  have division := division_scan source.toList
  rw [shape] at division
  have sound : NoDouble '\x7d' (inner ++ ['\x7d']) :=
    division.sound (.directive inner) (List.mem_append_right ps List.mem_cons_self)
  have whole := toList_eq_of_scan shape
  have spelled := spells_append (sourceOf ps) (Piece.directive inner).source (sourceOf qs)
  rw [← whole, ← h.offset_eq] at spelled
  refine ⟨_, directiveBody inner, ⟨inner, spelled, sound, rfl⟩, ?_⟩
  intro more
  have upTo : source.toList.take (r.position.offset + (Piece.directive inner).source.length) =
      sourceOf (ps ++ [.directive inner]) := by
    rw [whole, h.offset_eq, ← List.length_append, List.take_left]
    simp
  have front : Division (ps ++ [.directive inner]) := by
    have parts : Division ((ps ++ [.directive inner]) ++ qs) := by simpa using division
    exact parts.left
  have joined : Division ((ps ++ [.directive inner]) ++ scan more.toList) := by
    refine front.append (division_scan more.toList) ?_
    intro p last
    obtain rfl : Piece.directive inner = p := by simpa using last
    intros
    trivial
  have found : scan (String.ofList (source.toList.take
      (r.position.offset + (Piece.directive inner).source.length)) ++ more).toList =
      ps ++ .directive inner :: scan more.toList := by
    rw [String.toList_append, String.toList_ofList, upTo]
    conv_lhs => rw [← sourceOf_scan more.toList, ← sourceOf_append]
    rw [scan_sourceOf joined]
    simp
  rw [parse_eq_foldlM_read, found, bind_eq_error_iff]
  exact .inl (foldlM_eq_error_iff.2 ⟨ps, _, _, r, rfl, h.foldlM_eq, failed⟩)

/-- Behind a reader's innermost open block nothing else is open, and the reader before it holds what
stands there. -/
lemma Reader.Holds.exists_outer {frame : Frame} {frames : List Frame} (h : r.Holds ps)
    (shape : r.frames = frame :: frames) :
    ∃ (outer : List Piece) (first : Piece) (inside : List Piece) (before : Reader),
      ps = outer ++ first :: inside ∧ first.isText = false ∧ before.Holds outer ∧
        before.position = frame.start := by
  cases h with
  | outermost => cases shape
  | @inside p before frames outer first body opening inside nodes outside opens within =>
    cases shape
    obtain ⟨inner, rfl, -⟩ := exists_of_role_opens opens
    exact ⟨outer, _, inside, _, rfl, rfl, outside, rfl⟩

end

/-! ## Main result -/

/-- **A source that is refused is refused at its first fault.**  A directive starts there, and what
stands before it is completed by closing directives.  Unless the fault is an opening without an end
or a block left open, no source that goes on up to the end of that directive is read any further.
If it is a block left open, it is the innermost one, and closing all open blocks completes the
source. -/
theorem parse_fault_leftmost {source : String} {f : SyntaxFault}
    (refused : parse source = .error f) :
    Spells source.toList f.position.offset (f.position.offset + 2) ['\x7b', '\x7b'] ∧
    (∃ kinds d, parse (String.ofList (source.toList.take f.position.offset) ++ closings kinds) =
      .ok d) ∧
    (f.cause.code.IsFinal → ∃ last body, IsDirective source.toList f.position.offset last body ∧
      ∀ more, parse (String.ofList (source.toList.take last) ++ more) = .error f) ∧
    (f.cause.code = .unclosedDirective → ∃ innermost outer,
      LeavesOpen (scan source.toList) (innermost :: outer) ∧ f.position = innermost.start ∧
      (source.toList.getLast? ≠ some '\x7b' →
        ∃ d, parse (source ++ closings ((innermost :: outer).map (·.kind))) = .ok d)) := by
  obtain ⟨ps, piece, qs, r, shape, holds, failed⟩ | ⟨r, holds, failed⟩ := parse_eq_error refused
  · obtain ⟨place, reason⟩ := Reader.read_eq_error failed
    rw [place]
    have marker : piece.isText = false := by
      obtain ⟨rest, rfl, -⟩ | ⟨inner, rfl, -⟩ := reason <;> rfl
    obtain ⟨opens, viable⟩ := viable_before shape holds marker
    refine ⟨opens, viable, ?_, ?_⟩
    · intro final
      obtain ⟨rest, -, cause⟩ | ⟨inner, rfl, -⟩ := reason
      · rw [cause] at final
        exact absurd final not_isFinal_unmatchedOpen
      · exact final_at shape holds failed
    · intro unclosed
      obtain ⟨rest, -, cause⟩ | ⟨inner, -, final⟩ := reason
      · rw [cause] at unclosed
        cases unclosed
      · rw [unclosed] at final
        exact absurd final not_isFinal_unclosedDirective
  · obtain ⟨unclosed, frame, frames, stack, place⟩ := Reader.finish_eq_error failed
    obtain ⟨outer, first, inside, before, shape, marker, outside, start⟩ := holds.exists_outer stack
    obtain ⟨opens, viable⟩ := viable_before shape outside marker
    rw [start, ← place] at opens viable
    refine ⟨opens, viable, ?_, ?_⟩
    · intro final
      rw [unclosed] at final
      exact absurd final not_isFinal_unclosedDirective
    · intro _
      have blocks := holds.leavesOpen
      rw [stack, List.map_cons] at blocks
      refine ⟨_, _, blocks, place, ?_⟩
      intro clear
      have division := division_scan source.toList
      have completed := holds.exists_parse division fun kind =>
        division.meets_marker holds.readable (by rwa [sourceOf_scan]) rfl
      rw [sourceOf_scan, String.ofList_toList, stack] at completed
      simpa [Function.comp_def] using completed

/-- A condition closed by the end of a loop, inside of a loop. -/
def crossedBlocks : String :=
  "a\x7b\x7b#loop xs as x\x7d\x7d\x7b \x7b\x7b#if x\x7d\x7d" ++
    "\x7b\x7b /loop \x7d\x7d\x7d\x7b\x7b/if\x7d\x7d"

theorem crossedBlocks_fault :
    ∃ f, parse crossedBlocks = .error f ∧ f.cause.code.IsFinal ∧
      Spells crossedBlocks.toList f.position.offset (f.position.offset + 2) ['\x7b', '\x7b'] ∧
      (∃ kinds d, parse (String.ofList (crossedBlocks.toList.take f.position.offset) ++
        closings kinds) = .ok d) ∧
      ∃ last body, IsDirective crossedBlocks.toList f.position.offset last body ∧
        ∀ more, parse (String.ofList (crossedBlocks.toList.take last) ++ more) = .error f := by
  have refused : parse crossedBlocks =
      .error ⟨.mismatchedClose "/loop" (some .conditional), ⟨29, 1, 29⟩⟩ := by cbv
  obtain ⟨opens, viable, final, -⟩ := parse_fault_leftmost refused
  exact ⟨_, refused, .inl rfl, opens, viable, final (.inl rfl)⟩

end BraceTemplate
