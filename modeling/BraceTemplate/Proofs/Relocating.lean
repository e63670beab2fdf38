import BraceTemplate.Proofs.Evaluation
import BraceTemplate.Proofs.Grammar

/-!
# Forests in other places

The pieces of a template make the same forest wherever they stand in a source, but for the places of
its nodes.  A `Relocation` gives the new places, and it goes `Along` a text if reading that text
from the old place and from the new one, it leads from each place on the way to the other.

This file carries relocations through reading and rendering: pieces read from another place make the
relocated forest (`Derives.relocate`), and that is rendered as before, but for the places of the
directives that fail (`renderAll_relocate`).
-/

namespace BraceTemplate

/-- New places for the nodes of a forest: where they start, and the offsets that they end at. -/
structure Relocation where
  start : Position → Position
  stop : Nat → Nat

namespace Relocation

variable {r : Relocation} {p q : Position} {as bs cs : List Char}

/-- The new place of a span. -/
def span (r : Relocation) (s : Span) : Span := ⟨r.start s.start, r.stop s.stop⟩

/-- The places on the way through a text that is read from `p` are relocated to those on the way
through it from `q`. -/
def Along (r : Relocation) (p q : Position) (cs : List Char) : Prop :=
  ∀ xs, xs <+: cs → r.start (p.advance xs) = q.advance xs ∧
    r.stop (p.advance xs).offset = (q.advance xs).offset

namespace Along

lemma here (h : r.Along p q cs) : r.start p = q := (h [] List.nil_prefix).1

lemma span_eq (h : r.Along p q cs) (part : as <+: cs) :
    r.span ⟨p, (p.advance as).offset⟩ = ⟨q, (q.advance as).offset⟩ := by
  rw [span, h.here, (h as part).2]

lemma initial (h : r.Along p q cs) (part : as <+: cs) : r.Along p q as :=
  fun xs there => h xs (there.trans part)

/-- What is left of a text after its beginning. -/
lemma rest (h : r.Along p q (as ++ bs)) : r.Along (p.advance as) (q.advance as) bs := by
  intro xs there
  have whole : as ++ xs <+: as ++ bs := (List.prefix_append_right_inj as).2 there
  have places := h (as ++ xs) whole
  rwa [Position.advance_append, Position.advance_append] at places

end Along

end Relocation

/-! ## Nodes -/

mutual
/-- A node in another place. -/
def Node.relocate (r : Relocation) : Node → Node
  | .text span content => .text (r.span span) content
  | .comment span body => .comment (r.span span) body
  | .variable span name => .variable (r.span span) name
  | .accessor span body => .accessor (r.span span) body
  | .loop span body target item children =>
    .loop (r.span span) body target item (relocateAll r children)
  | .conditional span body target children =>
    .conditional (r.span span) body target (relocateAll r children)

def relocateAll (r : Relocation) : List Node → List Node
  | [] => []
  | n :: rest => n.relocate r :: relocateAll r rest
end

variable (r : Relocation)

lemma relocateAll_append (ns ms : List Node) :
    relocateAll r (ns ++ ms) = relocateAll r ns ++ relocateAll r ms := by
  induction ns with
  | nil => rw [List.nil_append, relocateAll, List.nil_append]
  | cons n ns ih => rw [List.cons_append, relocateAll, relocateAll, ih, List.cons_append]

lemma children_relocate (n : Node) : (n.relocate r).children = relocateAll r n.children := by
  cases n <;> rw [Node.relocate] <;> simp only [Node.children, relocateAll]

lemma relocate_of_role_leaf {piece : Piece} {node : Span → Node} (h : piece.role = .leaf node)
    (span : Span) : (node span).relocate r = node (r.span span) := by
  obtain ⟨content, rfl, rfl⟩ | ⟨inner, rfl, rfl | rfl | rfl⟩ := exists_of_role_leaf h <;>
    rw [Node.relocate]

lemma relocate_ofBlock (span : Span) (body : String) (children : List Node) (opening : Opening) :
    (Node.ofBlock span body children opening).relocate r =
      .ofBlock (r.span span) body (relocateAll r children) opening := by
  cases opening <;> rw [Node.ofBlock, Node.relocate, Node.ofBlock]

variable {r}

/-- Read from another place, pieces make the relocated forest. -/
lemma Derives.relocate {p q : Position} {ps : List Piece} {nodes : List Node}
    (h : Derives p ps nodes) (along : r.Along p q (sourceOf ps)) :
    Derives q ps (relocateAll r nodes) := by
  induction h generalizing q with
  | nil p =>
    rw [relocateAll]
    exact .nil q
  | @leaf p piece node rest nodes isLeaf _ ih =>
    rw [sourceOf_cons] at along
    rw [relocateAll, relocate_of_role_leaf r isLeaf, along.span_eq (List.prefix_append _ _)]
    exact .leaf isLeaf (ih along.rest)
  | @block p first last body closing opening inside rest children nodes opens _ closes _ ihIn
      ihOut =>
    have shape : sourceOf (first :: inside ++ last :: rest) =
        sourceOf (first :: inside ++ [last]) ++ sourceOf rest := by simp
    have within :
        first.source ++ sourceOf inside <+: sourceOf (first :: inside ++ last :: rest) := by simp
    have below : r.Along (p.advance first.source) (q.advance first.source) (sourceOf inside) :=
      (along.initial within).rest
    rw [shape] at along
    rw [relocateAll, relocate_ofBlock, along.span_eq (List.prefix_append _ _)]
    exact .block opens (ihIn below) closes (ihOut along.rest)

/-! ## Renderings -/

/-- The end of a rendering, for a forest in another place. -/
def Stop.relocate (r : Relocation) : Stop → Stop
  | .fault f site => .fault f (r.span site)
  | .number n => .number n
  | .writing w => .writing w

variable (r)

lemma stamped_relocate {α : Type} (site : Span) (x : Except Failure α) :
    stamped (r.span site) x = (stamped site x).mapError (Stop.relocate r) := by
  cases x with
  | ok a => rfl
  | error e => cases e <;> rfl

/-- A node does the same work wherever it stands. -/
lemma work_relocate (g : Graph) (mode : Mode) (s : Scope) (n : Node) :
    (n.relocate r).work g mode s = (n.work g mode s).mapError (Stop.relocate r) := by
  cases n with
  | text span content | comment span body =>
    rw [Node.relocate]
    rfl
  | «variable» span name | accessor span body | loop span body target item children =>
    rw [Node.relocate]
    exact stamped_relocate r span _
  | conditional span body target children =>
    rw [Node.relocate, Node.work, Node.work, mapError_bind, stamped_relocate]
    congr 1
    funext v
    cases v.truth g <;> rfl

/-- **A relocated forest is rendered as before, but for the places of its failures.** -/
theorem renderAll_relocate (g : Graph) (mode : Mode) (s : Scope) (nodes : List Node) :
    renderAll g mode s (relocateAll r nodes) =
      (renderAll g mode s nodes).mapError (Stop.relocate r) := by
  induction nodes using forest_induction generalizing s with
  | nil =>
    rw [relocateAll, renderAll]
    rfl
  | cons n rest ihBelow ihRest =>
    have here : (n.relocate r).render g mode s =
        (n.render g mode s).mapError (Stop.relocate r) := by
      rw [Node.render_eq, Node.render_eq, work_relocate, children_relocate, mapError_bind]
      simp only [ihBelow, mapError_bind, mapError_mapM]
      rfl
    rw [relocateAll, renderAll, renderAll, here, ihRest, mapError_bind]
    simp only [mapError_bind]
    rfl

end BraceTemplate
