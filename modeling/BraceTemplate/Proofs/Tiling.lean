import Mathlib
import BraceTemplate.Proofs.Seams
import BraceTemplate.Proofs.Evaluation

/-!
# Nodes tile their source

Every node knows the stretch of source it comes from.  This file says what stands there, by slices
of the source: under text its content, under a substitution or a comment one directive, and under a
block its opening directive, then its children without a gap, then its closing directive.

* `Spells` is what it means that a text stands between two offsets, `IsDirective` that a directive
  with some body does.
* `Tiles` says that nodes stand one behind the other from an offset up to another, and
  `Node.InPlace` that a node's own stretch is made up as it should be, down to the leaves.
* `writtenAll` puts the contents of the texts and the slices of the directives one behind the other.

The main result `parse_tiles` says that a parsed template tiles its source, and that its pieces in
document order write the source again.
-/

namespace BraceTemplate

/-! ## Slices of a source -/

/-- A text stands in a source from an offset up to another. -/
structure Spells (source : List Char) (first last : Nat) (text : List Char) : Prop where
  ordered : first ≤ last
  inside : last ≤ source.length
  slice : source.extract first last = text

/-- A directive with a body stands there, between double braces, and ends at the first pair of
closing ones. -/
def IsDirective (source : List Char) (first last : Nat) (body : String) : Prop :=
  ∃ inner, Spells source first last ('\x7b' :: '\x7b' :: inner ++ ['\x7d', '\x7d']) ∧
    NoDouble '\x7d' (inner ++ ['\x7d']) ∧ String.ofList (Text.trim inner) = body

lemma spells_append (before text after : List Char) :
    Spells (before ++ text ++ after) before.length (before.length + text.length) text := by
  refine ⟨by omega, by simp only [List.length_append]; omega, ?_⟩
  rw [List.append_assoc, List.extract_eq_take_drop, List.drop_left, Nat.add_sub_cancel_left,
    List.take_left]

lemma extract_append {source : List Char} {first middle last : Nat} (front : first ≤ middle)
    (back : middle ≤ last) :
    source.extract first middle ++ source.extract middle last = source.extract first last := by
  have sizes : last - first = (middle - first) + (last - middle) := by omega
  have place : (source.drop first).drop (middle - first) = source.drop middle := by
    rw [List.drop_drop, Nat.add_sub_cancel' front]
  rw [List.extract_eq_take_drop, List.extract_eq_take_drop, List.extract_eq_take_drop, sizes,
    List.take_add, place]

/-! ## Nodes in their source -/

/-- Whether a node is a run of text. -/
def Node.isText : Node → Bool
  | .text _ _ => true
  | _ => false

mutual
/-- A node's stretch of the source is made up of what the node stands for. -/
inductive Node.InPlace (source : List Char) : Node → Prop
  | text {span : Span} {content : String} :
      Spells source span.start.offset span.stop content.toList → content ≠ "" →
      NoDouble '\x7b' content.toList → Node.InPlace source (.text span content)
  | comment {span : Span} {body : String} :
      IsDirective source span.start.offset span.stop body →
      Node.InPlace source (.comment span body)
  | variable {span : Span} {name : String} :
      IsDirective source span.start.offset span.stop name →
      Node.InPlace source (.variable span name)
  | accessor {span : Span} {body : String} :
      IsDirective source span.start.offset span.stop body →
      Node.InPlace source (.accessor span body)
  | loop {span : Span} {body target item : String} {children : List Node} {first last : Nat} :
      IsDirective source span.start.offset first body → Tiles source first last children →
      IsDirective source last span.stop "/loop" →
      Node.InPlace source (.loop span body target item children)
  | conditional {span : Span} {body target : String} {children : List Node} {first last : Nat} :
      IsDirective source span.start.offset first body → Tiles source first last children →
      IsDirective source last span.stop "/if" →
      Node.InPlace source (.conditional span body target children)

/-- Nodes stand one behind the other from an offset up to another, with no gap and no overlap, and
no run of text stands behind another. -/
inductive Tiles (source : List Char) : Nat → Nat → List Node → Prop
  | nil (offset : Nat) : Tiles source offset offset []
  | cons {n : Node} {rest : List Node} {first last : Nat} :
      n.span.start.offset = first → n.InPlace source → Tiles source n.span.stop last rest →
      (∀ m ∈ rest.head?, ¬ (n.isText = true ∧ m.isText = true)) →
      Tiles source first last (n :: rest)
end

/-- The offset where the children of a block begin; a block without children has them at its end. -/
def childrenStart (span : Span) (children : List Node) : Nat :=
  (children.head?.map (·.span.start.offset)).getD span.stop

/-- The offset where the children of a block end. -/
def childrenStop (span : Span) (children : List Node) : Nat :=
  (children.getLast?.map (·.span.stop)).getD span.stop

mutual
/-- What a node writes of its source: the content of a text, the slices of all directives. -/
def Node.written (source : List Char) : Node → List Char
  | .text _ content => content.toList
  | .comment span _ => source.extract span.start.offset span.stop
  | .variable span _ => source.extract span.start.offset span.stop
  | .accessor span _ => source.extract span.start.offset span.stop
  | .loop span _ _ _ children =>
    source.extract span.start.offset (childrenStart span children) ++ writtenAll source children ++
      source.extract (childrenStop span children) span.stop
  | .conditional span _ _ children =>
    source.extract span.start.offset (childrenStart span children) ++ writtenAll source children ++
      source.extract (childrenStop span children) span.stop

/-- What some nodes write, in document order. -/
def writtenAll (source : List Char) : List Node → List Char
  | [] => []
  | n :: rest => n.written source ++ writtenAll source rest
end

/-! ## Tiles write their source -/

section

variable {source : List Char}

/-- Children that tile a stretch begin and end with it. -/
lemma Tiles.ends {first last : Nat} {children : List Node} (h : Tiles source first last children)
    (some : children ≠ []) (span : Span) :
    childrenStart span children = first ∧ childrenStop span children = last := by
  induction children generalizing first with
  | nil => exact absurd rfl some
  | cons n rest ih =>
    cases h with
    | cons starts _ behind _ =>
      refine ⟨starts, ?_⟩
      cases rest with
      | nil =>
        cases behind
        rfl
      | cons m rest => exact (ih behind (List.cons_ne_nil m rest)).2

/-- The two directives of a block and what its children write are the block's slice. -/
lemma written_block {span : Span} {opening closing : String} {children : List Node}
    {first last : Nat} (opens : IsDirective source span.start.offset first opening)
    (inside : Tiles source first last children)
    (closes : IsDirective source last span.stop closing)
    (ordered : first ≤ last) (written : writtenAll source children = source.extract first last) :
    source.extract span.start.offset (childrenStart span children) ++ writtenAll source children ++
        source.extract (childrenStop span children) span.stop =
      source.extract span.start.offset span.stop := by
  obtain ⟨_, front, -, -⟩ := opens
  obtain ⟨_, back, -, -⟩ := closes
  have start : span.start.offset ≤ last := front.ordered.trans ordered
  cases children with
  | nil =>
    cases inside
    rw [writtenAll, List.append_nil]
    exact extract_append (start.trans back.ordered) le_rfl
  | cons n rest =>
    obtain ⟨begins, ends⟩ := inside.ends (List.cons_ne_nil n rest) span
    rw [begins, ends, written, extract_append front.ordered ordered,
      extract_append start back.ordered]

/-- Nodes that tile a stretch write the slice of the source that it is. -/
lemma Tiles.written {first last : Nat} {nodes : List Node} (h : Tiles source first last nodes) :
    first ≤ last ∧ writtenAll source nodes = source.extract first last := by
  induction nodes using forest_induction generalizing first last with
  | nil =>
    cases h
    simp [writtenAll]
  | cons n rest ihBelow ihRest =>
    cases h with
    | cons starts placed behind _ =>
      subst starts
      have node : n.span.start.offset ≤ n.span.stop ∧
          n.written source = source.extract n.span.start.offset n.span.stop := by
        cases placed with
        | text spelled _ _ =>
          refine ⟨spelled.ordered, ?_⟩
          rw [Node.written]
          exact spelled.slice.symm
        | comment there | «variable» there | accessor there =>
          obtain ⟨_, spelled, -, -⟩ := there
          exact ⟨spelled.ordered, by rw [Node.written]; rfl⟩
        | loop opens inside closes | conditional opens inside closes =>
          obtain ⟨ordered, written⟩ := ihBelow inside
          refine ⟨?_, ?_⟩
          · obtain ⟨_, front, -, -⟩ := opens
            obtain ⟨_, back, -, -⟩ := closes
            exact (front.ordered.trans ordered).trans back.ordered
          · rw [Node.written]
            exact written_block opens inside closes ordered written
      obtain ⟨ordered, written⟩ := ihRest behind
      refine ⟨node.1.trans ordered, ?_⟩
      rw [writtenAll, node.2, written, extract_append node.1 ordered]

end

/-! ## Forests tile their source -/

lemma isText_of_role_leaf {piece : Piece} {node : Span → Node} (h : piece.role = .leaf node)
    (span : Span) : (node span).isText = piece.isText := by
  obtain ⟨content, rfl, rfl⟩ | ⟨inner, rfl, rfl | rfl | rfl⟩ := exists_of_role_leaf h <;> rfl

@[simp] lemma isText_ofBlock (span : Span) (body : String) (children : List Node)
    (opening : Opening) : (Node.ofBlock span body children opening).isText = false := by
  cases opening <;> rfl

/-- A forest begins with text exactly if its pieces do. -/
lemma Derives.head?_isText {p : Position} {ps : List Piece} {nodes : List Node}
    (h : Derives p ps nodes) : nodes.head?.map Node.isText = ps.head?.map Piece.isText := by
  cases h with
  | nil => rfl
  | leaf isLeaf _ => exact congrArg some (isText_of_role_leaf isLeaf _)
  | block opens _ _ _ =>
    obtain ⟨inner, rfl, -⟩ := exists_of_role_opens opens
    exact congrArg some (isText_ofBlock ..)

/-- A piece of text is followed by none, and so is its node. -/
lemma Derives.apart {p : Position} {piece : Piece} {rest : List Piece} {nodes : List Node}
    (h : Derives p rest nodes) (division : Division (piece :: rest)) (text : piece.isText = true) :
    ∀ m ∈ nodes.head?, m.isText ≠ true := by
  intro m first there
  have begins := h.head?_isText
  rw [Option.mem_def.1 first, Option.map_some, there] at begins
  obtain ⟨next, head, isText⟩ := Option.map_eq_some_iff.1 begins.symm
  have meets : piece.Meets next := (List.isChain_cons.1 division.seams).1 next head
  cases piece with
  | text content =>
    have marker : next.isText = false := meets.1
    rw [isText] at marker
    cases marker
  | directive inner => cases text
  | unterminated rest => cases text

section

variable {source : List Char} {p : Position}

/-- What a position has before it, it has in front of what stands there. -/
lemma spells_at {text : List Char} (before after : List Char)
    (shape : source = before ++ text ++ after) (place : p.offset = before.length) :
    Spells source p.offset (p.advance text).offset text := by
  rw [Position.advance_offset, place, shape]
  exact spells_append before text after

/-- A leaf's stretch of the source is its piece. -/
lemma inPlace_of_role_leaf {piece : Piece} {node : Span → Node} {span : Span}
    (isLeaf : piece.role = .leaf node) (sound : piece.Sound)
    (there : Spells source span.start.offset span.stop piece.source) :
    (node span).InPlace source := by
  obtain ⟨content, rfl, rfl⟩ | ⟨inner, rfl, rfl | rfl | rfl⟩ := exists_of_role_leaf isLeaf
  · obtain ⟨full, free⟩ := sound
    refine .text (by simpa [Piece.source] using there) ?_ (by simpa using free)
    intro empty
    exact full (by simpa using congrArg String.toList empty)
  · exact .comment ⟨inner, there, sound, rfl⟩
  · exact .variable ⟨inner, there, sound, rfl⟩
  · exact .accessor ⟨inner, there, sound, rfl⟩

/-- A block's stretch is its two directives around what its children tile. -/
lemma inPlace_ofBlock {span : Span} {body closing : String} {opening : Opening}
    {children : List Node} {first last : Nat}
    (opens : IsDirective source span.start.offset first body)
    (inside : Tiles source first last children)
    (closes : IsDirective source last span.stop closing)
    (meaning : classify closing = .closes opening.kind) :
    (Node.ofBlock span body children opening).InPlace source := by
  rw [eq_closingBody_of_classify meaning] at closes
  cases opening with
  | loop target item => exact .loop opens inside closes
  | conditional target => exact .conditional opens inside closes

/-- The forest of a division tiles the source that the division spells. -/
lemma Derives.tiles {ps : List Piece} {nodes : List Node} (h : Derives p ps nodes)
    (division : Division ps) (before after : List Char)
    (shape : source = before ++ sourceOf ps ++ after) (place : p.offset = before.length) :
    Tiles source p.offset (p.advance (sourceOf ps)).offset nodes := by
  induction h generalizing before after with
  | nil p => exact .nil _
  | @leaf p piece node rest nodes isLeaf behind ih =>
    have spelled : Spells source p.offset (p.advance piece.source).offset piece.source :=
      spells_at before (sourceOf rest ++ after) (by simpa using shape) place
    have others : Tiles source (p.advance piece.source).offset
        ((p.advance piece.source).advance (sourceOf rest)).offset nodes := by
      apply ih division.tail (before ++ piece.source) after
      · simpa using shape
      · rw [Position.advance_offset, List.length_append, place]
    rw [sourceOf_cons, Position.advance_append]
    refine .cons ?_ ?_ ?_ ?_
    · rw [span_of_role_leaf isLeaf]
    · exact inPlace_of_role_leaf isLeaf (division.sound piece List.mem_cons_self) spelled
    · rw [span_of_role_leaf isLeaf]
      exact others
    · rintro m first ⟨here, there⟩
      rw [isText_of_role_leaf isLeaf] at here
      exact behind.apart division here m first there
  | @block p first last body closing opening inside rest children nodes opens within closes behind
      ihIn ihOut =>
    have parts : Division (inside ++ last :: rest) := division.tail
    have spelledFirst : Spells source p.offset (p.advance first.source).offset first.source :=
      spells_at before (sourceOf inside ++ last.source ++ sourceOf rest ++ after)
        (by simpa using shape) place
    have placeInside : (p.advance first.source).offset = (before ++ first.source).length := by
      rw [Position.advance_offset, List.length_append, place]
    have below : Tiles source (p.advance first.source).offset
        ((p.advance first.source).advance (sourceOf inside)).offset children :=
      ihIn parts.left (before ++ first.source) (last.source ++ sourceOf rest ++ after)
        (by simpa using shape) placeInside
    have placeLast : ((p.advance first.source).advance (sourceOf inside)).offset =
        (before ++ first.source ++ sourceOf inside).length := by
      rw [Position.advance_offset, List.length_append, placeInside]
    have spelledLast : Spells source ((p.advance first.source).advance (sourceOf inside)).offset
        (((p.advance first.source).advance (sourceOf inside)).advance last.source).offset
        last.source :=
      spells_at (before ++ first.source ++ sourceOf inside) (sourceOf rest ++ after)
        (by simpa using shape) placeLast
    have stop : ((p.advance first.source).advance (sourceOf inside)).advance last.source =
        p.advance (sourceOf (first :: inside ++ [last])) := by simp [Position.advance_append]
    rw [stop] at spelledLast
    have others : Tiles source (p.advance (sourceOf (first :: inside ++ [last]))).offset
        ((p.advance (sourceOf (first :: inside ++ [last]))).advance (sourceOf rest)).offset
        nodes := by
      apply ihOut parts.right.tail (before ++ sourceOf (first :: inside ++ [last])) after
      · simpa using shape
      · rw [Position.advance_offset, List.length_append, place]
    have whole : sourceOf (first :: inside ++ last :: rest) =
        sourceOf (first :: inside ++ [last]) ++ sourceOf rest := by simp
    rw [whole, Position.advance_append]
    obtain ⟨inner, rfl, rfl⟩ := exists_of_role_opens opens
    obtain ⟨outer, rfl, rfl, meaning⟩ := exists_of_role_closes closes
    have soundFirst : NoDouble '\x7d' (inner ++ ['\x7d']) :=
      division.sound (.directive inner) List.mem_cons_self
    have soundLast : NoDouble '\x7d' (outer ++ ['\x7d']) :=
      parts.sound (.directive outer) (by simp)
    refine .cons ?_ ?_ ?_ ?_
    · rw [span_ofBlock]
    · exact inPlace_ofBlock ⟨inner, spelledFirst, soundFirst, rfl⟩ below
        ⟨outer, spelledLast, soundLast, rfl⟩ meaning
    · rw [span_ofBlock]
      exact others
    · rintro m - ⟨here, -⟩
      rw [isText_ofBlock] at here
      cases here

end

/-! ## Main result -/

/-- **A parsed template tiles its source, at every level of nesting.**  What its nodes write, the
contents of the texts and the slices of the directives in document order, is the source. -/
theorem parse_tiles {source : String} {d : Document} (accepted : parse source = .ok d) :
    d.length = source.toList.length ∧ Tiles source.toList 0 d.length d.nodes ∧
      writtenAll source.toList d.nodes = source.toList := by
  obtain ⟨size, whole⟩ := parse_eq_ok_iff.1 accepted
  have spelled := sourceOf_scan source.toList
  have tiles : Tiles source.toList 0 d.length d.nodes := by
    have covered := whole.tiles (division_scan source.toList) [] []
      (show source.toList = _ by simp [spelled]) rfl
    rwa [spelled, Position.advance_offset, Position.start, Nat.zero_add, ← size] at covered
  refine ⟨size, tiles, ?_⟩
  rw [tiles.written.2, size]
  simp

/-- Blocks in blocks, one of them without children, next to single braces. -/
def nestedBlocks : String :=
  "\x7b \x7b\x7b#if c\x7d\x7d\x7b\x7b#loop xs as x\x7d\x7d\x7b\x7b/loop\x7d\x7d\x7d" ++
    "\x7b\x7b x \x7d\x7d\x7b\x7b /if\x7d\x7d"

theorem nestedBlocks_tile :
    ∃ d, parse nestedBlocks = .ok d ∧ d.length = nestedBlocks.toList.length ∧
      Tiles nestedBlocks.toList 0 d.length d.nodes ∧
      writtenAll nestedBlocks.toList d.nodes = nestedBlocks.toList := by
  let inner : List Node :=
    [.loop ⟨⟨11, 1, 11⟩, 37⟩ "#loop xs as x" "xs" "x" [], .text ⟨⟨37, 1, 37⟩, 38⟩ "\x7d",
      .variable ⟨⟨38, 1, 38⟩, 45⟩ "x"]
  have parsed : parse nestedBlocks =
      .ok ⟨53, [.text ⟨⟨0, 1, 0⟩, 2⟩ "\x7b ", .conditional ⟨⟨2, 1, 2⟩, 53⟩ "#if c" "c" inner]⟩ := by
    cbv
  exact ⟨_, parsed, parse_tiles parsed⟩

end BraceTemplate
