import BraceTemplate.Template.Dependency

/-!
# The walker

A walker collects the paths that nodes read from outside, for one template after the other.  It
visits the nodes in order.  A stack holds the names that the enclosing loops bind, one layer for
each depth, and a set the dotted paths found so far; an analysis starts with a fresh stack and an
empty set, whatever the walker was used for before.
-/

namespace BraceTemplate

/-- A walker: the names bound at each depth, innermost first, and the dotted paths found. -/
structure Walker where
  layers : List (List String) := []
  found : List String := []
deriving DecidableEq, Repr

namespace Walker

/-- The names bound where the walker is. -/
def bound (w : Walker) : List String := w.layers.headD []

/-- Adds a path, unless it starts with a bound name. -/
def add (w : Walker) (path : List String) : Walker :=
  match path with
  | [] => w
  | first :: _ =>
    if first ∈ w.bound then w else { w with found := insertName (dotted path) w.found }

/-- Goes into a loop that binds a name. -/
def enter (w : Walker) (item : String) : Walker :=
  { w with layers := (item :: w.bound) :: w.layers }

/-- Leaves the innermost loop. -/
def leave (w : Walker) : Walker := { w with layers := w.layers.tail }

mutual
/-- Visits a node and all below it. -/
def visit (w : Walker) : Node → Walker
  | .text _ _ | .comment _ _ => w
  | .variable _ name => w.add [name]
  | .accessor _ body => w.add (splitPath body)
  | .loop _ _ target item children =>
    (visitAll ((w.add (splitPath target)).enter item) children).leave
  | .conditional _ _ target children => visitAll (w.add (splitPath target)) children

def visitAll (w : Walker) : List Node → Walker
  | [] => w
  | n :: rest => visitAll (w.visit n) rest
end

/-- Collects the paths of some nodes, from the start. -/
def analyze (w : Walker) (nodes : List Node) : Walker :=
  visitAll { w with layers := [[]], found := [] } nodes

end Walker

end BraceTemplate
