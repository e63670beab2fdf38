import BraceTemplate.Source.Position
import BraceTemplate.Template.Directive

/-!
# Templates as trees

A parsed template is a forest of nodes in source order.  Each node knows the stretch of source it
comes from; loops and conditionals own the nodes between their opening and closing directives, and
their stretch ends behind the closing one.
-/

namespace BraceTemplate

/-- A stretch of source, from a position up to an offset. -/
structure Span where
  start : Position
  stop : Nat
deriving DecidableEq, Repr

/-- A node of a template.  `body` is the trimmed text of the directive, for a block that of the
opening one. -/
inductive Node
  | text (span : Span) (content : String)
  | comment (span : Span) (body : String)
  | variable (span : Span) (name : String)
  | accessor (span : Span) (body : String)
  | loop (span : Span) (body target item : String) (children : List Node)
  | conditional (span : Span) (body target : String) (children : List Node)
deriving Repr

/-- A parsed template: the length of its source and the nodes that cover it. -/
structure Document where
  length : Nat
  nodes : List Node
deriving Repr

namespace Node

def span : Node → Span
  | .text span _ | .comment span _ | .variable span _ | .accessor span _ => span
  | .loop span .. | .conditional span .. => span

def children : Node → List Node
  | .loop _ _ _ _ children | .conditional _ _ _ children => children
  | _ => []

/-- The node for a block whose closing directive has been read. -/
def ofBlock (span : Span) (body : String) (children : List Node) : Opening → Node
  | .loop target item => .loop span body target item children
  | .conditional target => .conditional span body target children

/-! ## Document order

The traversal keeps a list of nodes still to visit; the children of a visited node go in front of
it. -/

theorem sizeOf_append (ns ms : List Node) : sizeOf (ns ++ ms) + 1 = sizeOf ns + sizeOf ms := by
  induction ns with
  | nil =>
    simp only [List.nil_append, List.nil.sizeOf_spec]
    omega
  | cons n ns ih =>
    simp only [List.cons_append, List.cons.sizeOf_spec]
    omega

/-- The nodes below a node weigh no more than it. -/
theorem sizeOf_children_le (n : Node) : sizeOf n.children ≤ sizeOf n := by
  cases n with
  | loop _ _ _ _ children | conditional _ _ _ children =>
    simp only [Node.children, loop.sizeOf_spec, conditional.sizeOf_spec]
    omega
  | _ => simp only [Node.children, List.nil.sizeOf_spec, text.sizeOf_spec, comment.sizeOf_spec,
      variable.sizeOf_spec, accessor.sizeOf_spec]; omega

/-- The pending nodes and all nodes below them, in document order. -/
def visit : List Node → List Node
  | [] => []
  | n :: pending => n :: visit (n.children ++ pending)
termination_by pending => sizeOf pending
decreasing_by
  have joined := sizeOf_append n.children pending
  have below := sizeOf_children_le n
  simp only [List.cons.sizeOf_spec]
  omega

/-- A node and all nodes below it, in document order. -/
def inOrder (n : Node) : List Node := visit [n]

end Node

namespace Document

/-- A template is the stretch of its whole source. -/
def span (d : Document) : Span := ⟨.start, d.length⟩

/-- All nodes in document order. -/
def inOrder (d : Document) : List Node := Node.visit d.nodes

/-- The bodies of all comments, in document order. -/
def comments (d : Document) : List String :=
  d.inOrder.filterMap fun
    | .comment _ body => some body
    | _ => none

/-- The node reached by taking, at each level, the child with the given number. -/
def node? (d : Document) : List Nat → Option Node
  | [] => none
  | i :: indices => indices.foldl (fun n i => n.bind (·.children[i]?)) d.nodes[i]?

end Document

end BraceTemplate
