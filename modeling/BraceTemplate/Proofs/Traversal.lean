import Mathlib
import BraceTemplate.Proofs.DocumentOrder
import BraceTemplate.Proofs.Seams

/-!
# Every node once, in document order

The traversal of a forest works on a list of nodes still to visit.  This file compares it with the
recursive definition of document order, in which a node comes before all that is below it, and that
before the nodes behind it (`Node.preorder`, `visit_eq_preorderAll`).

Two nodes of a tree may be the same, so that each is visited once is said of addresses: the row of
indices that leads to a node (`nodeAt?`).  In a parsed template nodes are told apart by where they
start as well, for each directive and each run of text takes up some of the source.

Comments are nodes like all others.  Those of a template are the comments among the pieces of its
source, however deep they are nested (`Derives.comments`).  `visit_in_document_order` puts this
together.
-/

namespace BraceTemplate

/-! ## Document order by recursion -/

mutual
/-- A node and all nodes below it, by recursion. -/
def Node.preorder : Node → List Node
  | .text span content => [.text span content]
  | .comment span body => [.comment span body]
  | .variable span name => [.variable span name]
  | .accessor span body => [.accessor span body]
  | .loop span body target item children =>
    .loop span body target item children :: preorderAll children
  | .conditional span body target children =>
    .conditional span body target children :: preorderAll children

/-- The nodes of a forest and all nodes below them, by recursion. -/
def preorderAll : List Node → List Node
  | [] => []
  | n :: rest => n.preorder ++ preorderAll rest
end

lemma preorder_eq (n : Node) : n.preorder = n :: preorderAll n.children := by
  cases n <;> simp [Node.preorder, Node.children, preorderAll]

/-- **The traversal follows the recursion.** -/
theorem visit_eq_preorderAll (nodes : List Node) : Node.visit nodes = preorderAll nodes := by
  induction nodes using forest_induction with
  | nil => rw [visit_nil, preorderAll]
  | cons n rest ihBelow ihRest =>
    rw [visit_cons, visit_append, ihBelow, ihRest, preorderAll, preorder_eq, List.cons_append]

/-! ## Addresses -/

/-- The node at an address.  The first index picks a node of the forest, and each further one a
child of the node before. -/
def nodeAt? : List Node → List Nat → Option Node
  | _, [] => none
  | nodes, [i] => nodes[i]?
  | nodes, i :: indices => nodes[i]?.bind fun n => nodeAt? n.children indices

/-- The address of a node, seen from a forest with one more node in front. -/
def nextAddress : List Nat → List Nat
  | [] => []
  | i :: indices => (i + 1) :: indices

lemma nodeAt?_zero_cons (n : Node) (rest : List Node) {address : List Nat}
    (below : address ≠ []) : nodeAt? (n :: rest) (0 :: address) = nodeAt? n.children address := by
  cases address with
  | nil => exact absurd rfl below
  | cons i indices => rfl

lemma nodeAt?_next (n : Node) (rest : List Node) (address : List Nat) :
    nodeAt? (n :: rest) (nextAddress address) = nodeAt? rest address := by
  cases address with
  | nil => rfl
  | cons i indices => cases indices <;> simp [nextAddress, nodeAt?]

/-- Every address with a node has an index. -/
lemma exists_of_nodeAt?_isSome {nodes : List Node} {address : List Nat}
    (there : (nodeAt? nodes address).isSome) : ∃ i indices, address = i :: indices := by
  cases address with
  | nil => simp [nodeAt?] at there
  | cons i indices => exact ⟨i, indices, rfl⟩

/-- The addresses of a forest that starts with a node are those of the node, of the nodes below it
and of the nodes behind it. -/
lemma nodeAt?_cons_isSome_iff (n : Node) (rest : List Node) (address : List Nat) :
    (nodeAt? (n :: rest) address).isSome ↔ address = [0] ∨
      (∃ inner, (nodeAt? n.children inner).isSome ∧ 0 :: inner = address) ∨
      ∃ outer, (nodeAt? rest outer).isSome ∧ nextAddress outer = address := by
  constructor
  · intro there
    obtain ⟨i, indices, rfl⟩ := exists_of_nodeAt?_isSome there
    cases i with
    | zero =>
      by_cases last : indices = []
      · exact .inl (by rw [last])
      · rw [nodeAt?_zero_cons n rest last] at there
        exact .inr (.inl ⟨indices, there, rfl⟩)
    | succ i =>
      rw [← nextAddress, nodeAt?_next] at there
      exact .inr (.inr ⟨i :: indices, there, rfl⟩)
  · rintro (rfl | ⟨inner, there, rfl⟩ | ⟨outer, there, rfl⟩)
    · rfl
    · obtain ⟨i, indices, rfl⟩ := exists_of_nodeAt?_isSome there
      exact there
    · rwa [nodeAt?_next]

/-- The addresses of a forest that starts with a node are in order if those of the nodes below it
and of the nodes behind it are. -/
lemma pairwise_addresses {below behind : List (List Nat)} (orderBelow : below.Pairwise (· < ·))
    (orderBehind : behind.Pairwise (· < ·)) (indexBelow : ∀ a ∈ below, ∃ i t, a = i :: t)
    (indexBehind : ∀ a ∈ behind, ∃ i t, a = i :: t) :
    ([0] :: below.map (0 :: ·) ++ behind.map nextAddress).Pairwise (· < ·) := by
  have inner : (below.map (0 :: ·)).Pairwise (· < ·) := by
    rw [List.pairwise_map]
    exact orderBelow.imp fun less => List.cons_lt_cons_iff.2 (.inr ⟨rfl, less⟩)
  have outer : (behind.map nextAddress).Pairwise (· < ·) := by
    rw [List.pairwise_map]
    refine orderBehind.imp_of_mem fun {a b} here there less => ?_
    obtain ⟨i, t, rfl⟩ := indexBehind a here
    obtain ⟨j, u, rfl⟩ := indexBehind b there
    simpa [nextAddress, List.cons_lt_cons_iff] using less
  rw [List.cons_append, List.pairwise_cons, List.pairwise_append]
  simp only [List.mem_append, List.mem_map]
  refine ⟨?_, inner, outer, ?_⟩
  · rintro _ (⟨a, there, rfl⟩ | ⟨a, there, rfl⟩)
    · obtain ⟨i, t, rfl⟩ := indexBelow a there
      simp
    · obtain ⟨i, t, rfl⟩ := indexBehind a there
      simp [nextAddress, List.cons_lt_cons_iff]
  · rintro _ ⟨a, -, rfl⟩ _ ⟨b, there, rfl⟩
    obtain ⟨i, t, rfl⟩ := indexBehind b there
    simp [nextAddress, List.cons_lt_cons_iff]

/-- **The traversal visits each address once, in order.** -/
theorem exists_addresses (nodes : List Node) :
    ∃ addresses : List (List Nat), addresses.Pairwise (· < ·) ∧
      (∀ address, address ∈ addresses ↔ (nodeAt? nodes address).isSome) ∧
      addresses.map (nodeAt? nodes) = (Node.visit nodes).map some := by
  induction nodes using forest_induction with
  | nil =>
    refine ⟨[], .nil, fun address => ⟨nofun, fun there => ?_⟩, by rw [visit_nil]; rfl⟩
    obtain ⟨i, indices, rfl⟩ := exists_of_nodeAt?_isSome there
    cases indices <;> simp [nodeAt?] at there
  | cons n rest ihBelow ihRest =>
    obtain ⟨below, orderBelow, allBelow, visitBelow⟩ := ihBelow
    obtain ⟨behind, orderBehind, allBehind, visitBehind⟩ := ihRest
    have indexBelow (a : List Nat) (there : a ∈ below) : ∃ i t, a = i :: t :=
      exists_of_nodeAt?_isSome ((allBelow a).1 there)
    have indexBehind (a : List Nat) (there : a ∈ behind) : ∃ i t, a = i :: t :=
      exists_of_nodeAt?_isSome ((allBehind a).1 there)
    refine ⟨[0] :: below.map (0 :: ·) ++ behind.map nextAddress,
      pairwise_addresses orderBelow orderBehind indexBelow indexBehind, ?_, ?_⟩
    · intro address
      rw [nodeAt?_cons_isSome_iff, List.cons_append, List.mem_cons, List.mem_append,
        List.mem_map, List.mem_map]
      simp only [allBelow, allBehind]
    · have inner : (below.map (0 :: ·)).map (nodeAt? (n :: rest)) =
          below.map (nodeAt? n.children) := by
        rw [List.map_map]
        refine List.map_congr_left fun a there => ?_
        obtain ⟨i, t, rfl⟩ := indexBelow a there
        rfl
      have outer : (behind.map nextAddress).map (nodeAt? (n :: rest)) =
          behind.map (nodeAt? rest) := by
        rw [List.map_map]
        exact List.map_congr_left fun a _ => nodeAt?_next n rest a
      rw [List.map_append, List.map_cons, inner, outer, visitBelow, visitBehind, visit_cons,
        visit_append, List.map_cons, List.map_append, List.cons_append]
      rfl

/-! ## Starts in the source -/

/-- Pieces that a scan finds take up some of the source. -/
lemma Piece.Sound.source_ne_nil {piece : Piece} (sound : piece.Sound) : piece.source ≠ [] := by
  cases piece with
  | text content => exact sound.1
  | directive inner | unterminated rest => simp [Piece.source]

/-- The nodes of a forest start where its pieces stand. -/
lemma Derives.start_bounds {p : Position} {ps : List Piece} {nodes : List Node}
    (h : Derives p ps nodes) (taken : ∀ piece ∈ ps, piece.source ≠ []) {n : Node}
    (visited : n ∈ Node.visit nodes) :
    p.offset ≤ n.span.start.offset ∧
      n.span.start.offset < (p.advance (sourceOf ps)).offset := by
  obtain ⟨before, piece, after, rfl, place, -⟩ := h.exists_piece visited
  have some := List.length_pos_iff.2 (taken piece (by simp))
  rw [place, Position.advance_offset, Position.advance_offset, sourceOf_append, sourceOf_cons,
    List.length_append, List.length_append]
  omega

/-- **Nodes that are visited later start later.** -/
theorem Derives.pairwise_start {p : Position} {ps : List Piece} {nodes : List Node}
    (h : Derives p ps nodes) (taken : ∀ piece ∈ ps, piece.source ≠ []) :
    (Node.visit nodes).Pairwise fun m n => m.span.start.offset < n.span.start.offset := by
  induction h with
  | nil p =>
    rw [visit_nil]
    exact .nil
  | @leaf p piece node rest nodes isLeaf more ih =>
    obtain ⟨here, later⟩ := List.forall_mem_cons.1 taken
    rw [visit_cons, children_of_role_leaf isLeaf, List.nil_append, List.pairwise_cons,
      span_of_role_leaf isLeaf]
    refine ⟨fun n visited => ?_, ih later⟩
    have bounds := (more.start_bounds later visited).1
    have some := List.length_pos_iff.2 here
    rw [Position.advance_offset] at bounds
    show p.offset < _
    omega
  | @block p first last body closing opening inside rest children nodes opens within closes more
      ihIn ihOut =>
    have here : ∀ piece ∈ inside, piece.source ≠ [] := fun piece h => taken piece (by simp [h])
    have later : ∀ piece ∈ rest, piece.source ≠ [] := fun piece h => taken piece (by simp [h])
    have some := List.length_pos_iff.2 (source_ne_nil_of_role_opens opens)
    rw [visit_cons, visit_append, children_ofBlock, List.pairwise_cons, List.pairwise_append,
      span_ofBlock]
    refine ⟨fun n visited => ?_, ihIn here, ihOut later, fun m inner n outer => ?_⟩
    · show p.offset < _
      obtain below | behind := List.mem_append.1 visited
      · have bounds := (within.start_bounds here below).1
        rw [Position.advance_offset] at bounds
        omega
      · have bounds := (more.start_bounds later behind).1
        rw [Position.advance_offset, List.cons_append, sourceOf_cons, List.length_append] at bounds
        omega
    · -- the closing directive stands between what is below the block and what is behind it
      have before := (within.start_bounds here inner).2
      have behind := (more.start_bounds later outer).1
      simp only [Position.advance_offset, List.cons_append, sourceOf_cons, sourceOf_append,
        List.length_append] at before behind
      omega

/-! ## Comments -/

/-- The body of a comment. -/
def Node.comment? : Node → Option String
  | .comment _ body => some body
  | _ => none

/-- The body of a directive that is a comment. -/
def Piece.comment? : Piece → Option String
  | .directive inner =>
    if classify (directiveBody inner) = .comment then some (directiveBody inner) else none
  | _ => none

lemma comments_eq (d : Document) : d.comments = d.inOrder.filterMap Node.comment? := rfl

@[simp] lemma comment?_ofBlock (span : Span) (body : String) (children : List Node)
    (opening : Opening) : (Node.ofBlock span body children opening).comment? = none := by
  cases opening <;> rfl

/-- A leaf is a comment exactly if its piece is one, with the same body. -/
lemma comment?_of_role_leaf {piece : Piece} {node : Span → Node} (h : piece.role = .leaf node)
    (span : Span) : (node span).comment? = piece.comment? := by
  cases piece with
  | text content =>
    cases h
    rfl
  | unterminated rest => cases h
  | directive inner =>
    simp only [Piece.role] at h
    cases meaning : classify (directiveBody inner) <;> rw [meaning] at h <;> cases h <;>
      simp [Node.comment?, Piece.comment?, meaning]

lemma comment?_of_role_opens {piece : Piece} {body : String} {opening : Opening}
    (h : piece.role = .opens body opening) : piece.comment? = none := by
  obtain ⟨inner, rfl, rfl⟩ := exists_of_role_opens h
  simp only [Piece.role] at h
  rw [Piece.comment?, if_neg]
  intro meaning
  rw [meaning] at h
  cases h

lemma comment?_of_role_closes {piece : Piece} {body : String} {kind : BlockKind}
    (h : piece.role = .closes body kind) : piece.comment? = none := by
  obtain ⟨inner, rfl, rfl, meaning⟩ := exists_of_role_closes h
  rw [Piece.comment?, meaning, if_neg nofun]

/-- **The comments of a forest are those among its pieces.** -/
theorem Derives.comments {p : Position} {ps : List Piece} {nodes : List Node}
    (h : Derives p ps nodes) :
    (Node.visit nodes).filterMap Node.comment? = ps.filterMap Piece.comment? := by
  induction h with
  | nil p => rw [visit_nil, List.filterMap_nil, List.filterMap_nil]
  | leaf isLeaf _ ih =>
    rw [visit_cons, children_of_role_leaf isLeaf, List.nil_append, List.filterMap_cons,
      List.filterMap_cons, comment?_of_role_leaf isLeaf, ih]
  | block opens _ closes _ ihIn ihOut =>
    rw [visit_cons, visit_append, children_ofBlock,
      List.filterMap_cons_none (comment?_ofBlock ..), List.filterMap_append, ihIn, ihOut,
      List.cons_append, List.filterMap_cons_none (comment?_of_role_opens opens),
      List.filterMap_append, List.filterMap_cons_none (comment?_of_role_closes closes)]

/-! ## Main result -/

/-- **Every node is visited once, in document order, and every comment is found.**  The traversal is
the recursive one, and meets each address once, in order.  The nodes of a parsed template start
further and further on in its source, and its comments are the directives of the source that are
comments, in order. -/
theorem visit_in_document_order :
    (∀ n : Node, n.inOrder = n.preorder) ∧
    (∀ nodes : List Node, Node.visit nodes = preorderAll nodes ∧
      ∃ addresses : List (List Nat), addresses.Pairwise (· < ·) ∧
        (∀ address, address ∈ addresses ↔ (nodeAt? nodes address).isSome) ∧
        addresses.map (nodeAt? nodes) = (Node.visit nodes).map some) ∧
    ∀ source d, parse source = .ok d →
      (d.inOrder.Pairwise fun m n => m.span.start.offset < n.span.start.offset) ∧
      d.comments = (scan source.toList).filterMap Piece.comment? := by
  refine ⟨fun n => ?_, fun nodes => ⟨visit_eq_preorderAll nodes, exists_addresses nodes⟩, ?_⟩
  · rw [Node.inOrder, visit_eq_preorderAll, preorderAll, preorderAll, List.append_nil]
  · intro source d accepted
    have whole := (parse_eq_ok_iff.1 accepted).2
    have taken : ∀ piece ∈ scan source.toList, piece.source ≠ [] := fun piece there =>
      ((division_scan source.toList).sound piece there).source_ne_nil
    refine ⟨whole.pairwise_start taken, ?_⟩
    rw [comments_eq]
    exact whole.comments

/-- A comment in a block is found like one that stands in front of it. -/
theorem comments_nested_and_plain :
    let source := "\x7b\x7b#a#\x7d\x7d\x7b\x7b#if x\x7d\x7d\x7b\x7b#b#\x7d\x7d\x7b\x7b/if\x7d\x7d"
    ∃ d, parse source = .ok d ∧
      (d.inOrder.Pairwise fun m n => m.span.start.offset < n.span.start.offset) ∧
      d.inOrder.map (·.span.start.offset) = [0, 7, 16] ∧ d.comments = ["#a#", "#b#"] := by
  intro source
  have accepted : parse source =
      .ok ⟨30, [.comment ⟨⟨0, 1, 0⟩, 7⟩ "#a#",
        .conditional ⟨⟨7, 1, 7⟩, 30⟩ "#if x" "x" [.comment ⟨⟨16, 1, 16⟩, 23⟩ "#b#"]]⟩ := by
    cbv
  refine ⟨_, accepted, (visit_in_document_order.2.2 _ _ accepted).1, ?_, ?_⟩ <;>
    simp [Document.comments, Document.inOrder, Node.visit, Node.children, Node.span]

end BraceTemplate
