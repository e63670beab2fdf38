import BraceTemplate.Proofs.DocumentOrder

/-!
# Evaluations one after the other

A node inside loops is evaluated many times, once in each scope that the loops around it open.
`instances` lists these evaluations in the order in which they take place: a node in its scope, then
its children in each scope that its own work opens, then the nodes after it.  Each entry knows the
evaluations of the blocks that it is a part of.

A rendering is the works in that list, done in order, with their texts put together
(`renderAll_eq_writeAll`).  So it fails exactly if one of them does and all before it are done
(`renderAll_eq_error_iff_first`).  What all evaluations have in common is proved by
`instances_induction`, which follows them from a block to its children.
-/

namespace BraceTemplate

/-- The scopes that a node opens for its children, none if its own work fails. -/
def Node.opened (g : Graph) (mode : Mode) (s : Scope) (n : Node) : List Scope :=
  match n.work g mode s with
  | .ok w => w.scopes
  | .error _ => []

/-- One evaluation of a node: the scope that it takes place in, and the evaluations of the blocks
around it, innermost first. -/
structure Instance where
  scope : Scope
  node : Node
  around : List (Scope × Node)

/-- The work that is done in an evaluation. -/
def Instance.work (g : Graph) (mode : Mode) (i : Instance) : Except Stop Work :=
  i.node.work g mode i.scope

/-- The evaluations of a forest in a scope, inside some others. -/
def instances (g : Graph) (mode : Mode) (around : List (Scope × Node)) (s : Scope) :
    List Node → List Instance
  | [] => []
  | n :: rest =>
    ⟨s, n, around⟩ ::
      (n.opened g mode s).flatMap (instances g mode ((s, n) :: around) · n.children) ++
      instances g mode around s rest
termination_by nodes => sizeOf nodes
decreasing_by
  · have below := n.sizeOf_children_le
    simp only [List.cons.sizeOf_spec]
    omega
  · simp only [List.cons.sizeOf_spec]
    omega

/-! ## Works in order -/

/-- The text that some works write, done one after the other. -/
def writeAll (g : Graph) (mode : Mode) (is : List Instance) : Except Stop String := do
  let works ← is.mapM (Instance.work g mode)
  return String.join (works.map Work.text)

section

variable {g : Graph} {mode : Mode}

lemma writeAll_cons (i : Instance) (is : List Instance) :
    writeAll g mode (i :: is) = do
      let w ← i.work g mode
      let others ← writeAll g mode is
      return w.text ++ others := by
  simp only [writeAll, List.mapM_cons, bind_assoc, pure_bind, List.map_cons, String.join_cons]

lemma writeAll_append (is js : List Instance) :
    writeAll g mode (is ++ js) = do
      let first ← writeAll g mode is
      let others ← writeAll g mode js
      return first ++ others := by
  simp only [writeAll, List.mapM_append, bind_assoc, pure_bind, List.map_append,
    String.join_append]

lemma writeAll_flatMap (scopes : List Scope) (each : Scope → List Instance) :
    writeAll g mode (scopes.flatMap each) = do
      let texts ← scopes.mapM fun t => writeAll g mode (each t)
      return String.join texts := by
  induction scopes with
  | nil => rfl
  | cons t scopes ih =>
    rw [List.flatMap_cons, writeAll_append, ih]
    simp only [List.mapM_cons, bind_assoc, pure_bind, String.join_cons]

end

/-- **A rendering is its evaluations, done in order.** -/
theorem renderAll_eq_writeAll (g : Graph) (mode : Mode) (around : List (Scope × Node)) (s : Scope)
    (nodes : List Node) :
    renderAll g mode s nodes = writeAll g mode (instances g mode around s nodes) := by
  induction nodes using forest_induction generalizing around s with
  | nil =>
    rw [renderAll, instances]
    rfl
  | cons n rest ihBelow ihRest =>
    rw [renderAll, instances, writeAll_append, writeAll_cons, Node.render_eq, Instance.work,
      Node.opened, ihRest around s]
    cases n.work g mode s with
    | error e => rfl
    | ok w =>
      have below : (fun t => renderAll g mode t n.children) = fun t =>
          writeAll g mode (instances g mode ((s, n) :: around) t n.children) := by
        funext t
        exact ihBelow ((s, n) :: around) t
      simp only [ok_bind, writeAll_flatMap, below, bind_assoc, pure_bind]

/-- **A rendering fails exactly at the first evaluation that fails, and as that does.** -/
theorem renderAll_eq_error_iff_first {g : Graph} {mode : Mode} {s : Scope} {nodes : List Node}
    {e : Stop} :
    renderAll g mode s nodes = .error e ↔
      ∃ before i after, instances g mode [] s nodes = before ++ i :: after ∧
        (∀ j ∈ before, ∃ w, j.work g mode = .ok w) ∧ i.work g mode = .error e := by
  rw [renderAll_eq_writeAll g mode [] s nodes, writeAll, bind_eq_error_iff, mapM_eq_error_iff]
  constructor
  · rintro (failed | ⟨works, -, same⟩)
    · exact failed
    · cases same
  · exact .inl

/-! ## What stands in the list -/

/-- An entry of the list is the evaluation of a first node, or comes out of one of the scopes that
it opens, or out of the nodes after it. -/
lemma mem_instances_cons {g : Graph} {mode : Mode} {around : List (Scope × Node)} {s : Scope}
    {n : Node} {rest : List Node} {i : Instance} :
    i ∈ instances g mode around s (n :: rest) ↔
      i = ⟨s, n, around⟩ ∨
        (∃ t ∈ n.opened g mode s, i ∈ instances g mode ((s, n) :: around) t n.children) ∨
        i ∈ instances g mode around s rest := by
  rw [instances, List.mem_append, List.mem_cons, List.mem_flatMap, or_assoc]

/-- **What holds of the evaluations at the top, and goes from the evaluation of a block to those of
its children, holds of all.** -/
theorem instances_induction {g : Graph} {mode : Mode} {motive : Instance → Prop}
    (inner : ∀ u m around t n, motive ⟨u, m, around⟩ → t ∈ m.opened g mode u → n ∈ m.children →
      motive ⟨t, n, (u, m) :: around⟩)
    {around : List (Scope × Node)} {s : Scope} {nodes : List Node}
    (outer : ∀ n ∈ nodes, motive ⟨s, n, around⟩) {i : Instance}
    (h : i ∈ instances g mode around s nodes) : motive i := by
  induction nodes using forest_induction generalizing around s with
  | nil =>
    rw [instances] at h
    cases h
  | cons n rest ihBelow ihRest =>
    have here : motive ⟨s, n, around⟩ := outer n List.mem_cons_self
    obtain rfl | ⟨t, opened, below⟩ | later := mem_instances_cons.1 h
    · exact here
    · refine ihBelow ?_ below
      intro child there
      exact inner s n around t child here opened there
    · refine ihRest ?_ later
      intro m there
      exact outer m (List.mem_cons_of_mem n there)

/-- Only nodes of the forest are evaluated. -/
lemma mem_visit_of_mem_instances {g : Graph} {mode : Mode} {around : List (Scope × Node)}
    {s : Scope} {nodes : List Node} {i : Instance} (h : i ∈ instances g mode around s nodes) :
    i.node ∈ Node.visit nodes := by
  refine instances_induction (motive := fun i => i.node ∈ Node.visit nodes) ?_ ?_ h
  · intro u m around t n visited _ child
    exact mem_visit_of_mem_children visited child
  · intro n there
    exact mem_visit_of_mem there

/-! ## The scopes that a node opens -/

/-- A loop opens scopes with one more binding, of its own name, and a condition opens its scope. -/
inductive Opens (s : Scope) : Node → Scope → Prop
  | loop {span : Span} {body target item : String} {children : List Node} (v : Value) :
      Opens s (.loop span body target item children) (s.child item v)
  | conditional {span : Span} {body target : String} {children : List Node} :
      Opens s (.conditional span body target children) s

lemma opens_of_work {g : Graph} {mode : Mode} {s t : Scope} {n : Node} {w : Work}
    (done : n.work g mode s = .ok w) (opened : t ∈ w.scopes) : Opens s n t := by
  cases n with
  | text span content | comment span body =>
    cases done
    cases opened
  | «variable» span name | accessor span body =>
    rw [Node.work] at done
    obtain ⟨v, -, later⟩ := bind_eq_ok_iff.1 (stamped_eq_ok_iff.1 done)
    obtain ⟨text, -, same⟩ := bind_eq_ok_iff.1 later
    cases same
    cases opened
  | loop span body target item children =>
    rw [Node.work] at done
    obtain ⟨v, -, later⟩ := bind_eq_ok_iff.1 (stamped_eq_ok_iff.1 done)
    obtain ⟨items, -, same⟩ := bind_eq_ok_iff.1 later
    cases same
    obtain ⟨item, -, rfl⟩ := List.mem_map.1 opened
    exact .loop item
  | conditional span body target children =>
    rw [Node.work] at done
    obtain ⟨v, -, later⟩ := bind_eq_ok_iff.1 done
    obtain ⟨holds, -, same⟩ := bind_eq_ok_iff.1 later
    cases same
    cases holds with
    | false => cases opened
    | true =>
      obtain rfl := List.mem_singleton.1 opened
      exact .conditional

lemma opens_of_mem_opened {g : Graph} {mode : Mode} {s t : Scope} {n : Node}
    (h : t ∈ n.opened g mode s) : Opens s n t := by
  rw [Node.opened] at h
  cases done : n.work g mode s with
  | error e =>
    rw [done] at h
    cases h
  | ok w =>
    rw [done] at h
    exact opens_of_work done h

end BraceTemplate
