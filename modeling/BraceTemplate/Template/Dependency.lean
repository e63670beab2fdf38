import BraceTemplate.Template.Node

/-!
# What a template reads

A path that starts with a loop's name reads the loop's item inside that loop and the data everywhere
else; the path a loop runs over is read outside of it.  The walk carries the names that the
enclosing loops bind and collects the paths that start with none of them.

Sets of names are kept as ascending lists without repetition.
-/

namespace BraceTemplate

/-! ## Sets of names -/

/-- Puts a name into an ascending list. -/
def insertName (s : String) : List String → List String
  | [] => [s]
  | t :: rest =>
    if s < t then s :: t :: rest
    else if s = t then t :: rest
    else t :: insertName s rest

/-- The names of a list in ascending order, each once. -/
def nameSet (names : List String) : List String := names.foldr insertName []

theorem mem_insertName {s t : String} {names : List String} :
    t ∈ insertName s names ↔ t = s ∨ t ∈ names := by
  induction names with
  | nil => simp [insertName]
  | cons n names ih =>
    simp only [insertName]
    split
    · simp
    · split
      · rename_i same
        simp [same]
      · simp only [List.mem_cons, ih]
        grind

/-- Building a set loses no name and adds none. -/
theorem mem_nameSet {t : String} {names : List String} : t ∈ nameSet names ↔ t ∈ names := by
  induction names with
  | nil => simp [nameSet]
  | cons n names ih =>
    rw [nameSet, List.foldr_cons, mem_insertName, ← nameSet, ih, List.mem_cons]

/-! ## Paths read -/

/-- A path, unless it starts with one of the bound names. -/
def outsidePath (bound : List String) (path : List String) : List (List String) :=
  match path with
  | [] => []
  | first :: _ => if first ∈ bound then [] else [path]

mutual
/-- The paths that a node reads from outside, when enclosing loops bind some names. -/
def Node.outsidePaths (bound : List String) : Node → List (List String)
  | .text _ _ | .comment _ _ => []
  | .variable _ name => outsidePath bound [name]
  | .accessor _ body => outsidePath bound (splitPath body)
  | .loop _ _ target item children =>
    outsidePath bound (splitPath target) ++ outsidePathsAll (item :: bound) children
  | .conditional _ _ target children =>
    outsidePath bound (splitPath target) ++ outsidePathsAll bound children

def outsidePathsAll (bound : List String) : List Node → List (List String)
  | [] => []
  | n :: rest => n.outsidePaths bound ++ outsidePathsAll bound rest
end

/-- The dotted paths that some nodes may read from the data. -/
def dependencies (nodes : List Node) : List String :=
  nameSet ((outsidePathsAll [] nodes).map dotted)

/-- The part of a dotted path before its first dot. -/
def firstSegment (path : String) : String := String.ofList (path.toList.takeWhile (· ≠ '.'))

namespace Document

/-- The dotted paths that a template may read from the data. -/
def dependencies (d : Document) : List String := BraceTemplate.dependencies d.nodes

/-- The top-level names among them. -/
def requiredNames (d : Document) : List String := nameSet (d.dependencies.map firstSegment)

/-- The required names that are not among the given ones. -/
def missingNames (d : Document) (given : List String) : List String :=
  d.requiredNames.filter (!given.contains ·)

end Document

end BraceTemplate
