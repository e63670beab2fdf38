import BraceTemplate.Data.Equality
import BraceTemplate.Render.Resolve

/-!
# Families of scopes

A family starts from one scope and grows by children of its members.  Children share the layers of
the member that they come from, and no query changes a member.
-/

namespace BraceTemplate

/-- A scope of a family and the member that it is a child of. -/
structure FamilyScope where
  scope : Scope
  parent : Option Nat

/-- The scopes of a family, oldest first. -/
structure ScopeFamily where
  members : List FamilyScope

/-- What can be asked of a member. -/
inductive ScopeQuery
  | child (name : String) (value : Value)
  | item (name : String)
  | get (name : String) (default : Value)
  | has (name : String)
  | keys
  | size
  | mapping
  | display
  | parent
  | equal (other : Nat)
  | resolve (path : List String) (mode : Mode)

/-- The answer of a member. -/
inductive ScopeAnswer
  | index (n : Nat)
  | value (v : Value)
  | truth (b : Bool)
  | keys (ks : List Key)
  | mapping (es : Entries)
  | text (s : String)
  | members (indices : List Nat)

/-- Why a member has no answer. -/
inductive ScopeError
  | unbound (name : String)
  | failure (f : Failure)
  | writing (w : WritingFault)
  | comparison (c : ComparisonFault)

namespace ScopeFamily

/-- The family of one scope. -/
def ofScope (s : Scope) : ScopeFamily := ⟨[⟨s, none⟩]⟩

/-- Adds the child of a member. -/
def addChild (f : ScopeFamily) (i : Nat) (m : FamilyScope) (name : String) (v : Value) :
    ScopeFamily :=
  ⟨f.members ++ [⟨m.scope.child name v, some i⟩]⟩

/-- The answer of a member to a query that leaves the family as it is. -/
def answer (g : Graph) (f : ScopeFamily) (m : FamilyScope) :
    ScopeQuery → Except ScopeError ScopeAnswer
  | .child _ _ => .ok (.index f.members.length)
  | .item name =>
    match m.scope.valueOf? name with
    | some v => .ok (.value v)
    | none => .error (.unbound name)
  | .get name default => .ok (.value ((m.scope.valueOf? name).getD default))
  | .has name => .ok (.truth (m.scope.binds name))
  | .keys => .ok (.keys m.scope.keys)
  | .size => .ok (.index m.scope.size)
  | .mapping => .ok (.mapping m.scope.merged)
  | .display =>
    match (Value.scope m.scope).literal g with
    | .ok text => .ok (.text text)
    | .error w => .error (.writing w)
  | .parent =>
    match m.parent, m.scope with
    | some i, _ => .ok (.members [i])
    | none, _ :: layer :: outer => .ok (.value (.scope (layer :: outer)))
    | none, _ => .ok (.value .null)
  | .equal other =>
    match f.members[other]? with
    | none => .ok (.truth false)
    | some n =>
      match (Value.scope m.scope).equal g (.scope n.scope) with
      | .ok b => .ok (.truth b)
      | .error c => .error (.comparison c)
  | .resolve path mode =>
    match (Value.scope m.scope).resolvePath g mode path with
    | .ok v => .ok (.value v)
    | .error e => .error (.failure e)

/-- One step: a query to the member with a given number. -/
def step (g : Graph) (f : ScopeFamily) (i : Nat) (query : ScopeQuery) :
    ScopeFamily × Except ScopeError ScopeAnswer :=
  match f.members[i]? with
  | none => (f, .ok (.value .null))
  | some m =>
    let next := match query with
      | .child name v => f.addChild i m name v
      | _ => f
    (next, f.answer g m query)

/-- The answers to a row of queries, each to the member with the number before it. -/
def run (g : Graph) (f : ScopeFamily) :
    List (Nat × ScopeQuery) → List (Except ScopeError ScopeAnswer)
  | [] => []
  | (i, query) :: rest => (f.step g i query).2 :: run g (f.step g i query).1 rest

end ScopeFamily

end BraceTemplate
