import BraceTemplate.Proofs.Evaluation
import BraceTemplate.Proofs.Grammar

/-!
# Document order

The traversal of a forest keeps a list of nodes still to visit.  This file says what it visits: the
first node, then all that is below it, then the rest (`mem_visit_cons`).

In a parsed template the order is that of the source.  A node starts where some more text has been
read, and a node below another starts strictly behind it, on a later line or further right on the
same line (`Derives.start_before`), for the opening directive stands between the two.
-/

namespace BraceTemplate

/-! ## What the traversal visits -/

lemma visit_nil : Node.visit [] = [] := by rw [Node.visit]

lemma visit_cons (n : Node) (pending : List Node) :
    Node.visit (n :: pending) = n :: Node.visit (n.children ++ pending) := by
  rw [Node.visit]

/-- Forests side by side are visited one after the other. -/
lemma visit_append (ns ms : List Node) :
    Node.visit (ns ++ ms) = Node.visit ns ++ Node.visit ms := by
  induction ns using forest_induction generalizing ms with
  | nil => rw [visit_nil, List.nil_append, List.nil_append]
  | cons n rest ihBelow ihRest =>
    rw [List.cons_append, visit_cons, visit_cons, ihBelow, ihBelow, ihRest, List.cons_append,
      List.append_assoc]

lemma mem_visit_cons {m n : Node} {rest : List Node} :
    m ∈ Node.visit (n :: rest) ↔ m = n ∨ m ∈ Node.visit n.children ∨ m ∈ Node.visit rest := by
  rw [visit_cons, visit_append, List.mem_cons, List.mem_append]

/-- The nodes of a forest are visited. -/
lemma mem_visit_of_mem {n : Node} {nodes : List Node} (h : n ∈ nodes) : n ∈ Node.visit nodes := by
  induction nodes with
  | nil => cases h
  | cons m rest ih =>
    rw [mem_visit_cons]
    obtain rfl | later := List.mem_cons.1 h
    · exact .inl rfl
    · exact .inr (.inr (ih later))

/-- What is below a node that is visited is visited. -/
lemma mem_visit_of_below {m n : Node} {nodes : List Node} (visited : m ∈ Node.visit nodes)
    (below : n ∈ Node.visit m.children) : n ∈ Node.visit nodes := by
  induction nodes using forest_induction with
  | nil =>
    rw [visit_nil] at visited
    cases visited
  | cons first rest ihBelow ihRest =>
    rw [mem_visit_cons] at visited ⊢
    obtain rfl | inner | later := visited
    · exact .inr (.inl below)
    · exact .inr (.inl (ihBelow inner))
    · exact .inr (.inr (ihRest later))

/-- The children of a node that is visited are visited. -/
lemma mem_visit_of_mem_children {m n : Node} {nodes : List Node} (visited : m ∈ Node.visit nodes)
    (child : n ∈ m.children) : n ∈ Node.visit nodes :=
  mem_visit_of_below visited (mem_visit_of_mem child)

/-! ## Positions behind one another -/

/-- A place stands before another one on the page. -/
def Position.Before (p q : Position) : Prop :=
  p.line < q.line ∨ p.line = q.line ∧ p.column < q.column

namespace Position

lemma Before.trans {p q r : Position} (first : p.Before q) (next : q.Before r) : p.Before r := by
  unfold Before at *
  omega

/-- Places behind one another differ in line or column. -/
lemma Before.ne {p q : Position} (h : p.Before q) : (p.line, p.column) ≠ (q.line, q.column) := by
  unfold Before at h
  intro same
  simp only [Prod.mk.injEq] at same
  omega

lemma before_step (p : Position) (c : Char) : p.Before (p.step c) := by
  by_cases feed : c = '\n'
  · rw [step, if_pos feed]
    exact .inl (Nat.lt_succ_self _)
  · rw [step, if_neg feed]
    exact .inr ⟨rfl, Nat.lt_succ_self _⟩

/-- Reading some text leads to a later place. -/
lemma before_advance {p : Position} {cs : List Char} (nonempty : cs ≠ []) :
    p.Before (p.advance cs) := by
  induction cs generalizing p with
  | nil => exact absurd rfl nonempty
  | cons c cs ih =>
    have here := before_step p c
    by_cases last : cs = []
    · subst last
      exact here
    · exact here.trans (ih last)

end Position

/-! ## Positions in a parsed template -/

/-- A directive takes up some of the source. -/
lemma source_ne_nil_of_role_opens {piece : Piece} {body : String} {opening : Opening}
    (h : piece.role = .opens body opening) : piece.source ≠ [] := by
  obtain ⟨inner, rfl, -⟩ := exists_of_role_opens h
  simp [Piece.source]

/-- A leaf makes the node that it stands for, and an opening directive a block with any children. -/
inductive Piece.Makes : Piece → Node → Prop
  | leaf {piece : Piece} {node : Span → Node} {span : Span} :
      piece.role = .leaf node → Makes piece (node span)
  | block {piece : Piece} {body : String} {opening : Opening} {span : Span}
      {children : List Node} :
      piece.role = .opens body opening → Makes piece (Node.ofBlock span body children opening)

/-- Every node of a forest starts at the piece that makes it. -/
lemma Derives.exists_piece {p : Position} {ps : List Piece} {nodes : List Node}
    (h : Derives p ps nodes) {n : Node} (visited : n ∈ Node.visit nodes) :
    ∃ before piece after, ps = before ++ piece :: after ∧
      n.span.start = p.advance (sourceOf before) ∧ piece.Makes n := by
  induction h with
  | nil p =>
    rw [visit_nil] at visited
    cases visited
  | @leaf p piece node rest nodes isLeaf _ ih =>
    rw [mem_visit_cons, children_of_role_leaf isLeaf, visit_nil] at visited
    obtain rfl | none | later := visited
    · refine ⟨[], piece, rest, rfl, ?_, .leaf isLeaf⟩
      rw [span_of_role_leaf isLeaf]
      rfl
    · cases none
    · obtain ⟨before, other, after, rfl, place, makes⟩ := ih later
      refine ⟨piece :: before, other, after, rfl, ?_, makes⟩
      rw [place, sourceOf_cons, Position.advance_append]
  | @block p first last body closing opening inside rest children nodes opens _ _ _ ihIn ihOut =>
    rw [mem_visit_cons, children_ofBlock] at visited
    obtain rfl | below | later := visited
    · refine ⟨[], first, inside ++ last :: rest, rfl, ?_, .block opens⟩
      rw [span_ofBlock]
      rfl
    · obtain ⟨before, other, after, rfl, place, makes⟩ := ihIn below
      refine ⟨first :: before, other, after ++ last :: rest, by simp, ?_, makes⟩
      rw [place, sourceOf_cons, Position.advance_append]
    · obtain ⟨before, other, after, rfl, place, makes⟩ := ihOut later
      have whole : sourceOf (first :: inside ++ last :: before) =
          sourceOf (first :: inside ++ [last]) ++ sourceOf before := by simp
      refine ⟨first :: inside ++ last :: before, other, after, by simp, ?_, makes⟩
      rw [place, whole, Position.advance_append]

/-- **A node below another starts behind it.** -/
theorem Derives.start_before {p : Position} {ps : List Piece} {nodes : List Node}
    (h : Derives p ps nodes) {m n : Node} (visited : m ∈ Node.visit nodes)
    (below : n ∈ Node.visit m.children) : m.span.start.Before n.span.start := by
  induction h with
  | nil p =>
    rw [visit_nil] at visited
    cases visited
  | leaf isLeaf _ ih =>
    rw [mem_visit_cons, children_of_role_leaf isLeaf, visit_nil] at visited
    obtain rfl | none | later := visited
    · rw [children_of_role_leaf isLeaf, visit_nil] at below
      cases below
    · cases none
    · exact ih later
  | @block p first last body closing opening inside rest children nodes opens within _ _ ihIn
      ihOut =>
    rw [mem_visit_cons, children_ofBlock] at visited
    obtain rfl | inner | later := visited
    · -- the opening directive stands between the start of the block and its children
      rw [children_ofBlock] at below
      obtain ⟨before, piece, after, -, place, -⟩ := within.exists_piece below
      have between : first.source ++ sourceOf before ≠ [] := by
        simp [source_ne_nil_of_role_opens opens]
      rw [span_ofBlock, place, ← Position.advance_append]
      exact Position.before_advance between
    · exact ihIn inner
    · exact ihOut later

end BraceTemplate
