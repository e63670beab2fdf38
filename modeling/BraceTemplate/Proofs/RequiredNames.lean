import Mathlib
import BraceTemplate.Proofs.Blame
import BraceTemplate.Proofs.MergedScopes

/-!
# Checking names before rendering

Before a template is rendered, its required names can be compared with the names that the data
provide.  This file says what the comparison is good for: a name that a strict rendering fails to
find bound, anywhere in the template, is one of the names that the comparison reports.

The required names are collected without running the template, and a name that a loop binds does not
count inside that loop.  At run time a scope decides.  The invariant `Covers` says that it binds all
names that count as bound, and whatever the data bind; `Covers.enter` is the step from a block to
its children.  So an unbound name is free where it is read, and unbound in the data as well
(`Covers.unbound`).

The main result `missingNames_complete` puts that together with the order of the names, and with
what else is among them: the names that are free in the template and that the data do not bind.
-/

namespace BraceTemplate

/-! ## Names in ascending order -/

lemma pairwise_insertName (s : String) {names : List String}
    (ascending : names.Pairwise (· < ·)) : (insertName s names).Pairwise (· < ·) := by
  induction names with
  | nil => exact List.pairwise_singleton _ _
  | cons t rest ih =>
    obtain ⟨first, others⟩ := List.pairwise_cons.1 ascending
    rw [insertName]
    by_cases less : s < t
    · rw [if_pos less, List.pairwise_cons]
      refine ⟨?_, ascending⟩
      intro u there
      obtain rfl | later := List.mem_cons.1 there
      · exact less
      · exact String.lt_trans less (first u later)
    · by_cases same : s = t
      · rw [if_neg less, if_pos same]
        exact ascending
      · rw [if_neg less, if_neg same, List.pairwise_cons]
        refine ⟨?_, ih others⟩
        intro u there
        obtain rfl | later := mem_insertName.1 there
        · exact Std.lt_of_le_of_ne less (Ne.symm same)
        · exact first u later

/-- A set of names is in strictly ascending order. -/
lemma pairwise_nameSet (names : List String) : (nameSet names).Pairwise (· < ·) := by
  induction names with
  | nil => exact .nil
  | cons s names ih =>
    rw [nameSet, List.foldr_cons]
    exact pairwise_insertName s ih

/-! ## Names that are not bound -/

/-- The path that a directive reads starts with a name that the scope does not bind. -/
def Unbound (s : Scope) (n : Node) (name : String) : Prop :=
  (∃ rest, n.reads = some (name :: rest)) ∧ s.valueOf? name = none

/-- An evaluation inside a rendering of some nodes in a scope: its own scope binds whatever that
scope does and the names that the loops around bind, and the paths that are free in its node are
free in the nodes. -/
structure Covers (s : Scope) (nodes : List Node) (bound : List String) (i : Instance) : Prop where
  keeps : ∀ name, (s.valueOf? name).isSome → (i.scope.valueOf? name).isSome
  binds : ∀ name ∈ bound, (i.scope.valueOf? name).isSome
  free : i.node.outsidePaths bound ⊆ outsidePathsAll [] nodes

/-- The scopes that a node opens bind what is bound inside it. -/
lemma Opens.binds_within {s t : Scope} {n : Node} (h : Opens s n t) {bound : List String}
    (binds : ∀ name ∈ bound, (s.valueOf? name).isSome) :
    ∀ name ∈ n.boundWithin bound, (t.valueOf? name).isSome := by
  intro name there
  cases h with
  | conditional => exact binds name there
  | @loop span body target item children v =>
    by_cases same : name = item
    · rw [same, Scope.valueOf?_child_self]
      rfl
    · have outer : name ∈ bound := (List.mem_cons.1 there).resolve_left same
      rw [Scope.valueOf?_child_of_ne s v same]
      exact binds name outer

/-- They bind what is bound around it. -/
lemma Opens.keeps {s t : Scope} {n : Node} (h : Opens s n t) {name : String}
    (bound : (s.valueOf? name).isSome) : (t.valueOf? name).isSome := by
  have binds : ∀ other ∈ [name], (s.valueOf? other).isSome := by simpa using bound
  exact h.binds_within binds name (boundWithin_subset n [name] (List.mem_singleton.2 rfl))

lemma outsidePaths_subset {n : Node} {nodes : List Node} (h : n ∈ nodes) (bound : List String) :
    n.outsidePaths bound ⊆ outsidePathsAll bound nodes := by
  induction nodes with
  | nil => cases h
  | cons m rest ih =>
    rw [outsidePathsAll]
    obtain rfl | later := List.mem_cons.1 h
    · exact List.subset_append_left _ _
    · exact List.subset_append_of_subset_right _ (ih later)

/-- From the evaluation of a block to those of its children. -/
lemma Covers.enter {s u t : Scope} {nodes : List Node} {bound : List String} {m n : Node}
    {around : List (Scope × Node)} (h : Covers s nodes bound ⟨u, m, around⟩) (opens : Opens u m t)
    (child : n ∈ m.children) :
    Covers s nodes (m.boundWithin bound) ⟨t, n, (u, m) :: around⟩ := by
  refine ⟨fun name given => opens.keeps (h.keeps name given), opens.binds_within h.binds, ?_⟩
  intro path there
  have below := outsidePaths_subset child (m.boundWithin bound) there
  exact h.free (Node.mem_outsidePaths.2 (.inr below))

lemma exists_covers_of_mem_instances {g : Graph} {mode : Mode} {s : Scope} {nodes : List Node}
    {i : Instance} (h : i ∈ instances g mode [] s nodes) : ∃ bound, Covers s nodes bound i := by
  refine instances_induction (motive := fun i => ∃ bound, Covers s nodes bound i) ?_ ?_ h
  · rintro u m around t n ⟨bound, covers⟩ opened child
    exact ⟨_, covers.enter (opens_of_mem_opened opened) child⟩
  · intro n there
    exact ⟨[], fun name given => given, by simp, outsidePaths_subset there []⟩

/-- **A name that is not bound where it is read is free in the nodes, and the data do not bind
it.** -/
theorem Covers.unbound {s : Scope} {nodes : List Node} {bound : List String} {i : Instance}
    (h : Covers s nodes bound i) {name : String} (unbound : Unbound i.scope i.node name) :
    s.valueOf? name = none ∧ ∃ rest, name :: rest ∈ outsidePathsAll [] nodes := by
  obtain ⟨⟨rest, reads⟩, none⟩ := unbound
  have outer : name ∉ bound := by
    intro inside
    have some := h.binds name inside
    rw [none] at some
    cases some
  have own : name :: rest ∈ outsidePath bound (name :: rest) := by
    rw [outsidePath, if_neg outer]
    exact List.mem_singleton.2 rfl
  have missing : s.valueOf? name = Option.none := by
    by_contra given
    have some := h.keeps name (Option.isSome_iff_ne_none.2 given)
    rw [none] at some
    cases some
  exact ⟨missing, rest, h.free (Node.mem_outsidePaths.2 (.inl ⟨_, reads, own⟩))⟩

/-! ## The comparison -/

/-- Strict rendering of a template with a mapping and some bindings fails because a name is not
bound: at the directive that it fails at, the path starts with that name, and the scope does not
bind it. -/
def FailsUnbound (g : Graph) (t : Template) (c : Value) (bindings : Entries) (name : String) :
    Prop :=
  t.mode g = .strict ∧ (∃ e, t.render g [c] bindings = .error e) ∧
    ∃ s i, Template.scope g [c] bindings = .ok s ∧ FailsFirst g s t.document.nodes i ∧
      Unbound i.scope i.node name

/-- The names that a mapping provides are those that it binds. -/
lemma missingNames_of_mapping {g : Graph} {c : Value} {es : Entries}
    (mapping : c.entries? g = some es) (t : Template) :
    t.missingNames g c = .ok (t.document.missingNames es.names) := by
  have provided : c.providedNames g = .ok es.names := by
    simp only [Value.providedNames, mapping]
  rw [Template.missingNames, provided]
  rfl

/-- The names reported are those that the template reads from outside and the data do not bind. -/
lemma mem_missingNames_iff {source : String} {d : Document} (accepted : parse source = .ok d)
    {given : List String} {name : String} :
    name ∈ d.missingNames given ↔
      (∃ rest, name :: rest ∈ outsidePathsAll [] d.nodes) ∧ name ∉ given := by
  rw [Document.missingNames, List.mem_filter, mem_requiredNames_iff accepted]
  simp

lemma mem_missingNames_of_failsUnbound {g : Graph} {source : String} {t : Template}
    (accepted : parse source = .ok t.document) {c : Value} {es : Entries}
    (mapping : c.entries? g = some es) {bindings : Entries} {name : String}
    (fails : FailsUnbound g t c bindings name) :
    name ∈ t.document.missingNames es.names := by
  obtain ⟨-, -, s, i, data, first, unbound⟩ := fails
  obtain ⟨before, after, shape, -⟩ := first.first
  have listed : i ∈ instances g .strict [] s t.document.nodes := by simp [shape]
  obtain ⟨bound, covers⟩ := exists_covers_of_mem_instances listed
  obtain ⟨free, rest, there⟩ := covers.unbound unbound
  obtain ⟨s', data', answers⟩ := exists_scope_of_call mapping (scope_eq_ok_iff.1 data).1
  obtain rfl : s' = s := Except.ok.inj (data'.symm.trans data)
  have notGiven : name ∉ es.names := by
    rw [answers name, Option.or_eq_none_iff] at free
    rw [← Entries.valueOf?_isSome_iff, free.2]
    simp
  exact (mem_missingNames_iff accepted).2 ⟨⟨rest, there⟩, notGiven⟩

/-- **Comparing the names is a complete check of them.**  It gives names in strictly ascending
order: those that the template reads from outside and the mapping does not bind.  Among them is
every name that a strict rendering with the mapping fails to find bound; so if it gives none, no
rendering fails for such a name. -/
theorem missingNames_complete {g : Graph} {source : String} {t : Template}
    (accepted : parse source = .ok t.document) {c : Value} {es : Entries}
    (mapping : c.entries? g = some es) :
    ∃ names, t.missingNames g c = .ok names ∧ names.Pairwise (· < ·) ∧
      (∀ name, name ∈ names ↔
        (∃ rest, name :: rest ∈ outsidePathsAll [] t.document.nodes) ∧ name ∉ es.names) ∧
      (∀ bindings name, FailsUnbound g t c bindings name → name ∈ names) ∧
      (names = [] → ∀ bindings name, ¬ FailsUnbound g t c bindings name) := by
  have complete : ∀ bindings name, FailsUnbound g t c bindings name →
      name ∈ t.document.missingNames es.names := by
    intro bindings name fails
    exact mem_missingNames_of_failsUnbound accepted mapping fails
  refine ⟨_, missingNames_of_mapping mapping t, (pairwise_nameSet _).filter _,
    fun _ => mem_missingNames_iff accepted, complete, ?_⟩
  intro empty bindings name fails
  have there := complete bindings name fails
  rw [empty] at there
  cases there

/-- Data of one mapping, which binds a list of one number. -/
def oneNumber : Graph := ⟨[.list [.int 1], .map [(.text "xs", .collection 0)]]⟩

/-- A name that nothing binds is missed inside a loop, and the comparison reports it. -/
theorem name_missed_in_loop_reported :
    ∃ (t : Template) (names : List String), Template.ofSource
        "\x7b\x7b#loop xs as x\x7d\x7d\x7b\x7b y \x7d\x7d\x7b\x7b/loop\x7d\x7d"
        {} none = .ok t ∧
      FailsUnbound oneNumber t (.collection 1) [] "y" ∧
      t.missingNames oneNumber (.collection 1) = .ok names ∧ "y" ∈ names := by
  let source :=
    "\x7b\x7b#loop xs as x\x7d\x7d\x7b\x7b y \x7d\x7d\x7b\x7b/loop\x7d\x7d"
  let y : Node := .variable ⟨⟨17, 1, 17⟩, 24⟩ "y"
  let n : Node := .loop ⟨⟨0, 1, 0⟩, 33⟩ "#loop xs as x" "xs" "x" [y]
  let t : Template := ⟨⟨33, [n]⟩, {}, none, some source⟩
  let missing : Fault := .missingVariable "y"
  let s : Scope := [[(.text "xs", .collection 0)]]
  have parsed : parse source = .ok ⟨33, [n]⟩ := by cbv
  have made : Template.ofSource source {} none = .ok t := by rw [Template.ofSource, parsed]
  have failed : t.render oneNumber [.collection 1] [] = .error (.diagnostic (.ofRender
    (missing.diagnoseAt _ none (some source) ⟨17, 1, 17⟩))) := rfl
  have opened : n.opened oneNumber .strict s = [s.child "x" (.int 1)] := rfl
  have listed : instances oneNumber .strict [] s [n] =
      [⟨s, n, []⟩] ++ ⟨s.child "x" (.int 1), y, [(s, n)]⟩ :: [] := by
    simp [instances, opened, n, y, Node.children]
  have own : (Instance.mk (s.child "x" (.int 1)) y [(s, n)]).work oneNumber .strict =
    .error (.fault missing y.span) := rfl
  have done : ∀ j ∈ [Instance.mk s n []], ∃ w, j.work oneNumber .strict = .ok w := by
    intro j there
    obtain rfl := List.mem_singleton.1 there
    exact ⟨⟨"", [s.child "x" (.int 1)]⟩, rfl⟩
  have first := failsFirst_of_split listed done own
  have fails : FailsUnbound oneNumber t (.collection 1) [] "y" :=
    ⟨rfl, ⟨_, failed⟩, s, _, rfl, first, ⟨[], rfl⟩, rfl⟩
  have mapping : Value.entries? oneNumber (.collection 1) =
    some [(.text "xs", .collection 0)] := rfl
  obtain ⟨names, missed, -, -, complete, -⟩ := missingNames_complete (t := t) parsed mapping
  exact ⟨t, names, made, fails, missed, complete _ _ fails⟩

end BraceTemplate
