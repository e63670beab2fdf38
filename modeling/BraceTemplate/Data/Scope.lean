import BraceTemplate.Data.Key

/-!
# Scopes

A scope is a stack of layers of bindings, innermost first.  A name has the value that the innermost
layer binding it gives, even when that value is null.  Entering a loop puts a layer in front, so the
layers underneath, and the caller's data at the bottom, never change.

A scope behaves as the single mapping `merged`: look-up, membership, order and size all agree with
it.
-/

namespace BraceTemplate

/-- Layers of bindings, innermost first. -/
abbrev Scope := List Entries

namespace Scope

/-- The value of a name. -/
def valueOf? (s : Scope) (name : String) : Option Value := s.findSome? (Entries.valueOf? name ·)

/-- Whether a name is bound. -/
def binds (s : Scope) (name : String) : Bool := s.any fun layer => layer.names.contains name

/-- The scope with one more binding in front. -/
def child (s : Scope) (name : String) (v : Value) : Scope := [(.text name, v)] :: s

/-- Adds a key to those seen so far, unless it is one of them. -/
def see (seen : List Key) (k : Key) : List Key := if seen.any k.same then seen else seen ++ [k]

/-- The keys bound.  The layers are gone through from the innermost, each in insertion order, and a
key is taken where it is first seen. -/
def keys (s : Scope) : List Key :=
  s.foldl (fun seen layer => layer.foldl (fun seen e => see seen e.1) seen) []

/-- Keeps the first of all entries with the same key, except for keys already seen. -/
def firstBindings (seen : List Key) : Entries → Entries
  | [] => []
  | e :: rest =>
    if seen.any e.1.same then firstBindings seen rest
    else e :: firstBindings (e.1 :: seen) rest

/-- All bindings in force, in the order of their keys. -/
def merged (s : Scope) : Entries := firstBindings [] s.flatten

/-- How many keys are bound. -/
def size (s : Scope) : Nat := s.keys.length

theorem mem_of_mem_firstBindings {seen : List Key} {es : Entries} {e : Key × Value}
    (h : e ∈ firstBindings seen es) : e ∈ es := by
  fun_induction firstBindings seen es <;> grind

/-- A binding in force stands in one of the layers. -/
theorem exists_layer_of_mem_merged {s : Scope} {e : Key × Value} (h : e ∈ s.merged) :
    ∃ layer ∈ s, e ∈ layer :=
  List.mem_flatten.1 (mem_of_mem_firstBindings h)

/-- The innermost layer decides. -/
theorem valueOf?_cons (layer : Entries) (s : Scope) (name : String) :
    valueOf? (layer :: s) name = (layer.valueOf? name).or (valueOf? s name) := by
  simp only [valueOf?, List.findSome?_cons]
  cases layer.valueOf? name <;> rfl

@[simp] theorem valueOf?_child_self (s : Scope) (name : String) (v : Value) :
    (s.child name v).valueOf? name = some v := by
  simp [child, valueOf?_cons, Entries.valueOf?]

theorem valueOf?_child_of_ne (s : Scope) {name other : String} (v : Value) (h : other ≠ name) :
    (s.child name v).valueOf? other = s.valueOf? other := by
  simp [child, valueOf?_cons, Entries.valueOf?, Ne.symm h]

theorem binds_iff (s : Scope) (name : String) : s.binds name = (s.valueOf? name).isSome := by
  induction s with
  | nil => rfl
  | cons layer s ih =>
    rw [valueOf?_cons]
    have here : (layer.valueOf? name).isSome ↔ name ∈ layer.names := Entries.valueOf?_isSome_iff
    simp only [binds, List.any_cons] at ih ⊢
    rw [ih]
    cases h : layer.valueOf? name <;> simp_all

end Scope

/-- Values that hold bindings in force are larger than the values bound there. -/
theorem Value.sizeOf_lt_of_mem_merged {layers : List Entries} {e : Key × Value}
    (h : e ∈ Scope.merged layers) : sizeOf e.2 < sizeOf (Value.scope layers) := by
  obtain ⟨layer, hlayer, he⟩ := Scope.exists_layer_of_mem_merged h
  have outer := List.sizeOf_lt_of_mem hlayer
  have inner := List.sizeOf_lt_of_mem he
  have pair : sizeOf e = 1 + sizeOf e.1 + sizeOf e.2 := by cases e; rfl
  simp only [Value.scope.sizeOf_spec]
  omega

end BraceTemplate
