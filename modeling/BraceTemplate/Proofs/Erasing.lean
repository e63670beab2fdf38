import BraceTemplate.Proofs.DocumentOrder
import BraceTemplate.Proofs.Joining

/-!
# Comments erased from a source

A comment can be cut out of a source, at any depth, and what is left is a template.  Its tree is the
old one without the comment, where text on both sides of the comment becomes one run (`Removed`),
and with the places that the nodes have now.

Nothing new can arise at the cut.  A directive stood there, and the scan leaves no opening brace in
front of one; so the pieces left are those of the new source (`Division.joined`).  That they make
the tree said goes by induction on the way down to the comment: at the bottom two rows of siblings
are joined, and the blocks on the way up are closed around them (`Derives.removed`).

A comment writes nothing, reads nothing and cannot fail.  The main result `parse_erased_comment`
adds that to the tree.
-/

namespace BraceTemplate

/-! ## Forests without a comment -/

/-- The second forest is the first without one of its nodes, at any depth.  The siblings that stood
around that node are joined. -/
inductive Removed (c : Node) : List Node → List Node → Prop
  | here (front back : List Node) : Removed c (front ++ c :: back) (joined front back)
  | inside {children children' : List Node} (front : List Node) (span : Span) (body : String)
      (opening : Opening) (back : List Node) :
      Removed c children children' →
      Removed c (front ++ .ofBlock span body children opening :: back)
        (front ++ .ofBlock span body children' opening :: back)

lemma Removed.exists_cons {c n : Node} {rest rest' : List Node} (h : Removed c rest rest') :
    ∃ nodes, Removed c (n :: rest) nodes := by
  cases h with
  | here front back => exact ⟨_, .here (n :: front) back⟩
  | inside front span body opening back below =>
    exact ⟨_, .inside (n :: front) span body opening back below⟩

/-- Every node that a traversal visits can be removed. -/
lemma exists_removed {c : Node} {nodes : List Node} (visited : c ∈ Node.visit nodes) :
    ∃ nodes', Removed c nodes nodes' := by
  induction nodes using forest_induction with
  | nil =>
    rw [visit_nil] at visited
    cases visited
  | cons n rest ihBelow ihRest =>
    obtain rfl | below | later := mem_visit_cons.1 visited
    · exact ⟨_, .here [] rest⟩
    · obtain ⟨children', removed⟩ := ihBelow below
      cases n with
      | loop span body target item children =>
        exact ⟨_, .inside [] span body (.loop target item) rest removed⟩
      | conditional span body target children =>
        exact ⟨_, .inside [] span body (.conditional target) rest removed⟩
      | _ =>
        simp only [Node.children, visit_nil, List.not_mem_nil] at below
    · obtain ⟨rest', removed⟩ := ihRest later
      exact removed.exists_cons

/-! ## What a comment does -/

section

variable {span : Span} {body : String}

lemma renderAll_append (g : Graph) (mode : Mode) (s : Scope) (front back : List Node) :
    renderAll g mode s (front ++ back) = do
      let text ← renderAll g mode s front
      let text' ← renderAll g mode s back
      return text ++ text' := by
  induction front with
  | nil =>
    rw [List.nil_append, renderAll, ok_bind]
    cases renderAll g mode s back <;> simp
  | cons n front ih =>
    rw [List.cons_append]
    simp only [renderAll, ih, bind_assoc, pure_bind, String.append_assoc]

/-- Blocks with children that are rendered alike are rendered alike. -/
lemma render_ofBlock_congr {g : Graph} {mode : Mode} {children children' : List Node}
    (same : ∀ s, renderAll g mode s children' = renderAll g mode s children) (span : Span)
    (body : String) (opening : Opening) (s : Scope) :
    (Node.ofBlock span body children' opening).render g mode s =
      (Node.ofBlock span body children opening).render g mode s := by
  have work : (Node.ofBlock span body children' opening).work g mode s =
      (Node.ofBlock span body children opening).work g mode s := by
    cases opening <;> rfl
  rw [Node.render_eq, Node.render_eq, work, children_ofBlock, children_ofBlock]
  simp only [same]

/-- Without a comment, a forest is rendered as before. -/
lemma renderAll_removed {nodes nodes' : List Node}
    (h : Removed (.comment span body) nodes nodes') (g : Graph) (mode : Mode) (s : Scope) :
    renderAll g mode s nodes' = renderAll g mode s nodes := by
  induction h generalizing s with
  | here front back =>
    have comment : renderAll g mode s (.comment span body :: back) = renderAll g mode s back := by
      rw [renderAll, Node.render, ok_bind]
      cases renderAll g mode s back <;> simp
    rw [renderAll_joined, renderAll_append, comment]
  | inside front span body opening back _ ih =>
    rw [renderAll_append, renderAll_append, renderAll, renderAll,
      render_ofBlock_congr ih span body opening s]

lemma outsidePathsAll_append (bound : List String) (front back : List Node) :
    outsidePathsAll bound (front ++ back) =
      outsidePathsAll bound front ++ outsidePathsAll bound back := by
  induction front with
  | nil => rw [List.nil_append, outsidePathsAll, List.nil_append]
  | cons n front ih =>
    rw [List.cons_append, outsidePathsAll, outsidePathsAll, ih, List.append_assoc]

lemma outsidePathsAll_joined (bound : List String) (front back : List Node) :
    outsidePathsAll bound (joined front back) =
      outsidePathsAll bound front ++ outsidePathsAll bound back := by
  fun_induction joined front back with
  | case1 back => rw [outsidePathsAll, List.nil_append]
  | case2 span content span' content' back => simp only [outsidePathsAll, Node.outsidePaths,
      List.nil_append]
  | case3 n front back others ih =>
    rw [outsidePathsAll, outsidePathsAll, ih, List.append_assoc]

/-- Without a comment, a forest reads the same paths. -/
lemma outsidePathsAll_removed {nodes nodes' : List Node}
    (h : Removed (.comment span body) nodes nodes') (bound : List String) :
    outsidePathsAll bound nodes' = outsidePathsAll bound nodes := by
  induction h generalizing bound with
  | here front back =>
    rw [outsidePathsAll_joined, outsidePathsAll_append, outsidePathsAll, Node.outsidePaths,
      List.nil_append]
  | inside front span body opening back _ ih =>
    rw [outsidePathsAll_append, outsidePathsAll_append, outsidePathsAll, outsidePathsAll]
    cases opening <;> simp only [Node.ofBlock, Node.outsidePaths, ih]

end

/-- A relocated forest reads the same paths. -/
lemma outsidePathsAll_relocate (r : Relocation) (bound : List String) (nodes : List Node) :
    outsidePathsAll bound (relocateAll r nodes) = outsidePathsAll bound nodes := by
  induction nodes using forest_induction generalizing bound with
  | nil => rw [relocateAll]
  | cons n rest ihBelow ihRest =>
    have here : (n.relocate r).outsidePaths bound = n.outsidePaths bound := by
      cases n with
      | loop span body target item children | conditional span body target children =>
        rw [Node.relocate, Node.outsidePaths, Node.outsidePaths]
        exact congrArg _ (ihBelow _)
      | _ =>
        rw [Node.relocate]
        simp only [Node.outsidePaths]
    rw [relocateAll, outsidePathsAll, outsidePathsAll, here, ihRest]

/-! ## Pieces without a comment -/

/-- A directive on the left of the seam keeps away from it. -/
lemma joinedPieces_append_cons {marker : Piece} (isMarker : marker.isText = false)
    (front ps qs : List Piece) :
    joinedPieces (front ++ marker :: ps) qs = front ++ marker :: joinedPieces ps qs := by
  induction front with
  | nil =>
    rw [List.nil_append, joinedPieces, List.nil_append]
    rintro content content' back - rfl
    cases isMarker
  | cons piece front ih =>
    rw [List.cons_append, joinedPieces, ih, List.cons_append]
    simp

/-- A directive on the right of the seam keeps away from it. -/
lemma joinedPieces_append {marker : Piece} (isMarker : marker.isText = false)
    (ps qs back : List Piece) :
    joinedPieces ps (qs ++ marker :: back) = joinedPieces ps qs ++ marker :: back := by
  fun_induction joinedPieces ps qs with
  | case1 qs => rw [joinedPieces]
  | case2 content content' qs => rw [List.cons_append, joinedPieces, List.cons_append]
  | case3 piece ps qs others ih =>
    rw [joinedPieces, ih, List.cons_append]
    intro content content' rest shape text last
    cases qs with
    | nil =>
      obtain ⟨rfl, -⟩ := List.cons.inj shape
      cases isMarker
    | cons q qs =>
      obtain ⟨rfl, -⟩ := List.cons.inj shape
      exact others content content' qs rfl text last

lemma isText_of_role_opens {piece : Piece} {body : String} {opening : Opening}
    (h : piece.role = .opens body opening) : piece.isText = false := by
  obtain ⟨inner, rfl, -⟩ := exists_of_role_opens h
  rfl

lemma isText_of_role_closes {piece : Piece} {body : String} {kind : BlockKind}
    (h : piece.role = .closes body kind) : piece.isText = false := by
  obtain ⟨inner, rfl, -⟩ := exists_of_role_closes h
  rfl

/-! ## The first node of a forest -/

section

variable {p : Position} {ps : List Piece} {ms : List Node} {span : Span} {body : String}

/-- A comment at the start of a forest comes from a directive at the start of the pieces. -/
lemma Derives.of_comment_cons (h : Derives p ps (.comment span body :: ms)) :
    ∃ inner rest, ps = .directive inner :: rest ∧
      span = ⟨p, (p.advance (Piece.directive inner).source).offset⟩ ∧
      Derives (p.advance (Piece.directive inner).source) rest ms := by
  generalize shape : Node.comment span body :: ms = nodes at h
  cases h with
  | nil => cases shape
  | leaf isLeaf later =>
    obtain ⟨same, rfl⟩ := List.cons.inj shape
    obtain ⟨content, rfl, rfl⟩ | ⟨inner, rfl, rfl | rfl | rfl⟩ := exists_of_role_leaf isLeaf <;>
      cases same
    exact ⟨inner, _, rfl, rfl, later⟩
  | @block _ _ _ _ _ opening =>
    obtain ⟨same, -⟩ := List.cons.inj shape
    cases opening <;> cases same

/-- A block at the start of a forest comes from two directives around the pieces of its children. -/
lemma Derives.of_block_cons {children : List Node} {opening : Opening}
    (h : Derives p ps (.ofBlock span body children opening :: ms)) :
    ∃ first inside last closing rest, ps = first :: inside ++ last :: rest ∧
      first.role = .opens body opening ∧ Derives (p.advance first.source) inside children ∧
      last.role = .closes closing opening.kind ∧
      span = ⟨p, (p.advance (sourceOf (first :: inside ++ [last]))).offset⟩ ∧
      Derives (p.advance (sourceOf (first :: inside ++ [last]))) rest ms := by
  generalize shape : Node.ofBlock span body children opening :: ms = nodes at h
  cases h with
  | nil => cases shape
  | leaf isLeaf later =>
    obtain ⟨same, -⟩ := List.cons.inj shape
    obtain ⟨content, rfl, rfl⟩ | ⟨inner, rfl, rfl | rfl | rfl⟩ := exists_of_role_leaf isLeaf <;>
      cases opening <;> cases same
  | @block _ first last _ _ opening' inside rest _ _ opens within closes later =>
    obtain ⟨same, rfl⟩ := List.cons.inj shape
    cases opening <;> cases opening' <;> cases same <;>
      exact ⟨first, inside, last, _, rest, rfl, opens, within, closes, rfl, later⟩

end

/-! ## The forest that is left -/

/-- Only text is relocated to text. -/
lemma exists_of_relocate_eq_text {r : Relocation} {n : Node} {span : Span} {content : String}
    (h : n.relocate r = .text span content) : ∃ span', n = .text span' content := by
  cases n <;> rw [Node.relocate] at h <;> cases h
  exact ⟨_, rfl⟩

/-- Forests may be joined in either place. -/
lemma joined_relocateAll (r : Relocation) (front back : List Node) :
    joined (relocateAll r front) (relocateAll r back) = relocateAll r (joined front back) := by
  fun_induction joined front back with
  | case1 back => rw [relocateAll, joined]
  | case2 span content span' content' back =>
    simp only [relocateAll, Node.relocate, joined, Relocation.span]
  | case3 n front back others ih =>
    rw [relocateAll, relocateAll, ← ih, joined]
    intro span content span' content' rest there here last
    obtain ⟨_, rfl⟩ := exists_of_relocate_eq_text here
    cases front with
    | cons m front =>
      rw [relocateAll] at last
      cases last
    | nil =>
      cases back with
      | nil =>
        rw [relocateAll] at there
        cases there
      | cons m back =>
        rw [relocateAll] at there
        obtain ⟨_, rfl⟩ := exists_of_relocate_eq_text (List.cons.inj there).1
        exact others _ _ _ _ _ rfl rfl rfl

/-- **What is left of some pieces without a comment makes the forest without it.**  The directive of
the comment stands somewhere among the pieces.  Reading what is in front of it from another place,
and what is behind it from where that ends, makes the forest without the comment, relocated in the
same way. -/
theorem Derives.removed {span : Span} {body : String} {nodes nodes' : List Node}
    (removed : Removed (.comment span body) nodes nodes') {p : Position} {ps : List Piece}
    (h : Derives p ps nodes) :
    ∃ front inner back, ps = front ++ .directive inner :: back ∧
      span = ⟨p.advance (sourceOf front),
        (p.advance (sourceOf (front ++ [.directive inner]))).offset⟩ ∧
      ∀ (r : Relocation) (q : Position), r.Along p q (sourceOf front) →
        r.Along (p.advance (sourceOf (front ++ [.directive inner]))) (q.advance (sourceOf front))
          (sourceOf back) →
        Derives q (joinedPieces front back) (relocateAll r nodes') := by
  induction removed generalizing p ps with
  | here before after =>
    obtain ⟨front, rest, rfl, first, next⟩ := h.split
    obtain ⟨inner, back, rfl, rfl, second⟩ := next.of_comment_cons
    refine ⟨front, inner, back, rfl, by simp [Position.advance_append], ?_⟩
    intro r q along along'
    have spelled : sourceOf (front ++ [.directive inner]) =
        sourceOf front ++ (Piece.directive inner).source := by simp
    rw [spelled, Position.advance_append] at along'
    rw [← joined_relocateAll]
    exact (first.relocate along).joined (second.relocate along')
  | @inside children children' before span' body' opening after below ih =>
    obtain ⟨front, rest, rfl, first, next⟩ := h.split
    obtain ⟨opener, inside, closer, closing, back, rfl, opens, within, closes, rfl, second⟩ :=
      next.of_block_cons
    obtain ⟨front', inner, back', rfl, rfl, left⟩ := ih within
    refine ⟨front ++ opener :: front', inner, back' ++ closer :: back, by simp,
      by simp [Position.advance_append], ?_⟩
    intro r q along along'
    rw [joinedPieces_append_cons (isText_of_role_opens opens),
      joinedPieces_append (isText_of_role_closes closes), relocateAll_append, relocateAll,
      relocate_ofBlock]
    -- everything is said from the start of the block, in the old place and in the new one
    have whole : sourceOf (front ++ opener :: front') =
        sourceOf front ++ (opener.source ++ sourceOf front') := by simp
    have behind : sourceOf (back' ++ closer :: back) =
        sourceOf back' ++ closer.source ++ sourceOf back := by simp
    have cut : p.advance (sourceOf (front ++ opener :: front' ++ [.directive inner])) =
        ((p.advance (sourceOf front)).advance opener.source).advance
          (sourceOf (front' ++ [.directive inner])) := by simp [Position.advance_append]
    have seam : q.advance (sourceOf (front ++ opener :: front')) =
        ((q.advance (sourceOf front)).advance opener.source).advance (sourceOf front') := by
      simp [Position.advance_append]
    rw [whole] at along
    rw [behind, cut, seam] at along'
    have oldEnd : (((p.advance (sourceOf front)).advance opener.source).advance
        (sourceOf (front' ++ [.directive inner]))).advance (sourceOf back' ++ closer.source) =
        (p.advance (sourceOf front)).advance
          (sourceOf (opener :: (front' ++ .directive inner :: back') ++ [closer])) := by
      simp [Position.advance_append]
    have newEnd : (((q.advance (sourceOf front)).advance opener.source).advance
        (sourceOf front')).advance (sourceOf back' ++ closer.source) =
        (q.advance (sourceOf front)).advance
          (sourceOf (opener :: joinedPieces front' back' ++ [closer])) := by
      simp [Position.advance_append, sourceOf_joinedPieces]
    have start : r.start (p.advance (sourceOf front)) = q.advance (sourceOf front) :=
      along.rest.here
    have stop := (along' (sourceOf back' ++ closer.source) (List.prefix_append _ _)).2
    have beyond := along'.rest
    rw [oldEnd, newEnd] at stop beyond
    have siblings := first.relocate (along.initial (List.prefix_append _ _))
    have children := left r _ along.rest.rest (along'.initial (by simp))
    have later := second.relocate beyond
    rw [Relocation.span, start, stop]
    exact siblings.append (.block opens children closes later)

/-! ## The source that is left -/

lemma offset_advance_start (cs : List Char) : (Position.start.advance cs).offset = cs.length := by
  rw [Position.advance_offset, Position.start, Nat.zero_add]

/-- A source without the stretch that a span covers. -/
def erased (source : String) (cut : Span) : String :=
  String.ofList (source.toList.take cut.start.offset ++ source.toList.drop cut.stop)

/-- The offset of a character when the stretch before it is gone. -/
def Span.closeUp (cut : Span) (offset : Nat) : Nat :=
  if offset < cut.stop then offset else offset - (cut.stop - cut.start.offset)

/-- The places in what is left of a source without a stretch.  Offsets close up, and the lines and
columns are those of the new source. -/
def Relocation.without (left : String) (cut : Span) : Relocation where
  start p := Position.start.advance (left.toList.take (cut.closeUp p.offset))
  stop := cut.closeUp

section

variable {left : String} {cut : Span} {x m y : List Char} (shape : left.toList = x ++ y)
  (start : cut.start.offset = x.length) (stop : cut.stop = x.length + m.length)

include shape stop in
/-- Up to the cut, all stays where it is. -/
lemma without_along_front (nonempty : m ≠ []) :
    (Relocation.without left cut).Along .start .start x := by
  rintro xs ⟨t, rfl⟩
  have inner : 0 < m.length := List.length_pos_of_ne_nil nonempty
  have before : xs.length < cut.stop := by
    rw [stop, List.length_append]
    omega
  simp only [Relocation.without, offset_advance_start, Span.closeUp, if_pos before, shape, and_true]
  rw [List.append_assoc, List.take_left]

include shape start stop in
/-- Behind the cut, all moves up to it. -/
lemma without_along_back :
    (Relocation.without left cut).Along (Position.start.advance (x ++ m))
      (Position.start.advance x) y := by
  rintro ys ⟨t, rfl⟩
  have behind : ¬ (x ++ m ++ ys).length < cut.stop := by
    rw [stop, List.length_append, List.length_append]
    omega
  have moved : (x ++ m ++ ys).length - (cut.stop - cut.start.offset) = (x ++ ys).length := by
    rw [stop, start, List.length_append, List.length_append, List.length_append]
    omega
  rw [← Position.advance_append, ← Position.advance_append]
  simp only [Relocation.without, offset_advance_start, Span.closeUp, if_neg behind, moved, shape,
    and_true]
  rw [← List.append_assoc, List.take_left]

end

/-- What is left of a source without a comment is a template, with the tree that is left. -/
lemma exists_parse_erased {source : String} {d : Document} (accepted : parse source = .ok d)
    {span : Span} {body : String} (there : Node.comment span body ∈ d.inOrder) :
    ∃ nodes, Removed (.comment span body) d.nodes nodes ∧
      parse (erased source span) = .ok ⟨d.length - (span.stop - span.start.offset),
        relocateAll (.without (erased source span) span) nodes⟩ := by
  obtain ⟨size, whole⟩ := parse_eq_ok_iff.1 accepted
  obtain ⟨nodes, removed⟩ := exists_removed there
  obtain ⟨front, inner, back, pieces, place, rebuilt⟩ := whole.removed removed
  have spelled : source.toList =
      sourceOf front ++ (Piece.directive inner).source ++ sourceOf back := by
    rw [← sourceOf_scan source.toList, pieces]
    simp
  have cut : sourceOf (front ++ [.directive inner]) =
      sourceOf front ++ (Piece.directive inner).source := by simp
  rw [cut] at place rebuilt
  have start : span.start.offset = (sourceOf front).length := by
    rw [place]
    exact offset_advance_start _
  have stop : span.stop = (sourceOf front).length + (Piece.directive inner).source.length := by
    rw [place, ← List.length_append]
    exact offset_advance_start _
  have shape : (erased source span).toList = sourceOf front ++ sourceOf back := by
    rw [erased, String.toList_ofList, start, stop, spelled, ← List.length_append, List.drop_left,
      List.append_assoc, List.take_left]
  -- no opening brace stands in front of a directive, so the cut makes no new one
  have scanned : scan (erased source span).toList = joinedPieces front back := by
    have division : Division (front ++ .directive inner :: back) := pieces ▸ division_scan _
    have readable : ∀ piece ∈ front, piece.Readable := by
      intro piece there
      exact whole.readable piece (pieces ▸ List.mem_append_left _ there)
    refine scan_eq_iff.2 ⟨by rw [sourceOf_joinedPieces, shape], ?_⟩
    refine division.left.joined division.right.tail readable ?_
    rintro ⟨brace, -⟩
    exact division.clear_in_front brace
  refine ⟨nodes, removed, parse_eq_ok_iff.2 ⟨?_, ?_⟩⟩
  · rw [shape, size, spelled, start, stop]
    simp only [List.length_append]
    omega
  · rw [scanned]
    exact rebuilt (.without (erased source span) span) .start
      (without_along_front shape stop (by simp [Piece.source]))
      (without_along_back shape start stop)

/-- **Comments can be erased from the source of a template.**  What is left is a template, whose
tree is the old one without the comment.  It is rendered as before, in every scope and mode, and
fails with the same faults; and it reads the same paths. -/
theorem parse_erased_comment {source : String} {d : Document} (accepted : parse source = .ok d)
    {span : Span} {body : String} (there : Node.comment span body ∈ d.inOrder) :
    ∃ nodes d', Removed (.comment span body) d.nodes nodes ∧
      parse (erased source span) = .ok d' ∧
      d'.length = d.length - (span.stop - span.start.offset) ∧
      d'.nodes = relocateAll (.without (erased source span) span) nodes ∧
      (∀ g mode s, renderAll g mode s d'.nodes = (renderAll g mode s d.nodes).mapError
        (Stop.relocate (.without (erased source span) span))) ∧
      d'.dependencies = d.dependencies := by
  obtain ⟨nodes, removed, parsed⟩ := exists_parse_erased accepted there
  refine ⟨nodes, _, removed, parsed, rfl, rfl, ?_, ?_⟩
  · intro g mode s
    rw [renderAll_relocate, renderAll_removed removed]
  · rw [Document.dependencies, dependencies, outsidePathsAll_relocate,
      outsidePathsAll_removed removed]
    rfl

/-- A comment between two runs of text inside a block, erased. -/
theorem nested_comment_erased :
    ∃ d d', parse "\x7b\x7b#if a\x7d\x7d\nx\x7b\x7b# c #\x7d\x7dy\x7b\x7b/if\x7d\x7d" = .ok d ∧
      parse "\x7b\x7b#if a\x7d\x7d\nxy\x7b\x7b/if\x7d\x7d" = .ok d' ∧ d'.length = 19 ∧
      d'.dependencies = d.dependencies := by
  let source := "\x7b\x7b#if a\x7d\x7d\nx\x7b\x7b# c #\x7d\x7dy\x7b\x7b/if\x7d\x7d"
  let span : Span := ⟨⟨11, 2, 1⟩, 20⟩
  let n : Node := .conditional ⟨⟨0, 1, 0⟩, 28⟩ "#if a" "a"
    [.text ⟨⟨9, 1, 9⟩, 11⟩ "\nx", .comment span "# c #", .text ⟨⟨20, 2, 10⟩, 21⟩ "y"]
  have parsed : parse source = .ok ⟨28, [n]⟩ := by cbv
  have there : Node.comment span "# c #" ∈ (Document.mk 28 [n]).inOrder := by
    simp [Document.inOrder, mem_visit_cons, n, Node.children, visit_nil]
  have left : erased source span = "\x7b\x7b#if a\x7d\x7d\nxy\x7b\x7b/if\x7d\x7d" := by decide
  obtain ⟨nodes, d', -, parsed', size, -, -, reads⟩ := parse_erased_comment parsed there
  exact ⟨_, d', parsed, left ▸ parsed', size, reads⟩

end BraceTemplate
