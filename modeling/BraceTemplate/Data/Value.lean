import BraceTemplate.Number.Exact

/-!
# Template data

Templates are filled from data of many kinds: scalars, lists and tuples, mappings, scopes, and
plain objects with attributes.  A list or a mapping may be shared between places and may contain
itself, so the collections are the nodes of a finite graph: a `Value` names a collection by its
place in a `Graph`, and everything else is part of the value that holds it.  A scope is either: one
that is put on others by a rendering is a value by itself, one that stands in the data it is made
from is a collection.  Functions that look into data take the graph as a parameter; none of them
changes it.
-/

namespace BraceTemplate

/-- A key of a mapping.  As in values, `decimal` holds the number's own text and `object` the text
that displays it, each with a mark; nothing reads the attributes of a key. -/
inductive Key
  | null
  | undefined
  | bool (b : Bool)
  | int (n : Int)
  | float (x : Binary64)
  | decimal (text : String) (mark : Nat)
  | complex (re im : Binary64)
  | text (s : String)
  | bytes (bs : List UInt8)
  | object (mark : Nat) (display : String)
  | tuple (ks : List Key)

/-- A data value.  `decimal` holds the number's own text.  The layers of a `scope` stand innermost
first.  An object has attributes of its own and others, such as methods, that its type lends it;
bytes have only the latter.  Objects, and decimals that are "not a number", are equal to themselves
only, so both carry a mark that tells them apart. -/
inductive Value
  | null
  | undefined
  | bool (b : Bool)
  | int (n : Int)
  | float (x : Binary64)
  | decimal (text : String) (mark : Nat)
  | complex (re im : Binary64)
  | text (s : String)
  | bytes (bs : List UInt8) (lent : List (String × Value))
  | object (mark : Nat) (display : String) (attributes lent : List (String × Value))
  | scope (layers : List (List (Key × Value)))
  | collection (place : Nat)

instance : Inhabited Key := ⟨.null⟩

instance : Inhabited Value := ⟨.null⟩

/-- Keys and values in insertion order; no key occurs twice. -/
abbrev Entries := List (Key × Value)

/-- A node of the data graph.  The layers of a scope stand innermost first. -/
inductive Collection
  | list (items : List Value)
  | tuple (items : List Value)
  | map (entries : Entries)
  | scope (layers : List Entries)

/-- The collections of some data, each known by its place. -/
structure Graph where
  collections : List Collection

namespace Graph

/-- The collection at a place, if there is one. -/
def at? (g : Graph) (place : Nat) : Option Collection := g.collections[place]?

/-! ## Walks

A walk through the data remembers the collections that it is inside of.  It enters a collection only
if it is not inside of it yet, so fewer collections are left to enter at every step down, and walks
end on data that contain themselves. -/

/-- Enters a collection unless the walk is already inside of it. -/
def enter? (g : Graph) (inside : List Nat) (place : Nat) : Option Collection :=
  if place ∈ inside then none else g.at? place

theorem enter?_eq_some_iff {g : Graph} {inside : List Nat} {place : Nat} {c : Collection} :
    g.enter? inside place = some c ↔ place ∉ inside ∧ g.at? place = some c := by
  unfold enter?
  split <;> simp [*]

/-- How many collections a walk can still enter. -/
def unentered (g : Graph) (inside : List Nat) : Nat :=
  (List.range g.collections.length).countP (· ∉ inside)

theorem unentered_cons_lt {g : Graph} {inside : List Nat} {place : Nat} {c : Collection}
    (h : g.enter? inside place = some c) : g.unentered (place :: inside) < g.unentered inside := by
  obtain ⟨fresh, there⟩ := enter?_eq_some_iff.1 h
  have bound : place < g.collections.length := (List.getElem?_eq_some_iff.1 there).1
  have count : ∀ ns : List Nat, ns.countP (· ∉ place :: inside) ≤ ns.countP (· ∉ inside) ∧
      (place ∈ ns → ns.countP (· ∉ place :: inside) < ns.countP (· ∉ inside)) := by
    intro ns
    induction ns with
    | nil => simp
    | cons n ns ih =>
      simp only [List.countP_cons, List.mem_cons, not_or, decide_eq_true_eq, Bool.decide_and]
      grind
  exact (count _).2 (List.mem_range.2 bound)

/-- There is less to enter behind a collection that the walk is not inside of. -/
theorem unentered_lt_of_fresh {g : Graph} {inside : List Nat} {place : Nat} {c : Collection}
    (found : g.at? place = some c) (fresh : place ∉ inside) :
    g.unentered (place :: inside) < g.unentered inside :=
  unentered_cons_lt (enter?_eq_some_iff.2 ⟨fresh, found⟩)

end Graph

end BraceTemplate
