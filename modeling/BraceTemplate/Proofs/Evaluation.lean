import BraceTemplate.Proofs.Outcome
import BraceTemplate.Render.Evaluate

/-!
# The order of evaluation

A directive first does its own work: it looks something up, and out of that come the text it writes
itself and the scopes in which its children are rendered.  `Node.work` is that part of a rendering,
and `render_eq` says that a rendering is nothing else: the node's work, then its children once in
each scope.  A loop gives one scope for each item, a conditional its own scope or none, and every
other node none at all.

With it the order of evaluation can be said: `Reaches` tells which directives, each with the scope
it is evaluated in, a rendering comes to before it fails.  The main result `renderAll_eq_error_iff`
says that a rendering fails exactly if it comes to a directive whose own work fails, and fails as
that work does.

Proofs about renderings go by `forest_induction`: over a row of nodes, with one hypothesis for the
children of the first node and one for the nodes after it.
-/

namespace BraceTemplate

/-! ## Induction over forests -/

/-- A property of forests holds if it goes from the children of a node, and from the nodes after it,
to the forest that starts with it. -/
lemma forest_induction {motive : List Node → Prop} (nil : motive [])
    (cons : ∀ n rest, motive n.children → motive rest → motive (n :: rest)) (nodes : List Node) :
    motive nodes := by
  match nodes with
  | [] => exact nil
  | n :: rest =>
    exact cons n rest (forest_induction nil cons n.children) (forest_induction nil cons rest)
termination_by sizeOf nodes
decreasing_by
  · have below := n.sizeOf_children_le
    simp only [List.cons.sizeOf_spec]
    omega
  · simp only [List.cons.sizeOf_spec]
    omega

/-! ## A node's own work -/

/-- What a node writes itself, and the scopes in which its children are to be rendered. -/
structure Work where
  text : String
  scopes : List Scope

/-- The part of a rendering that a node does itself. -/
def Node.work (g : Graph) (mode : Mode) (s : Scope) : Node → Except Stop Work
  | .text _ content => .ok ⟨content, []⟩
  | .comment _ _ => .ok ⟨"", []⟩
  | .variable span name => stamped span do
    return ⟨← writeReference g mode (.variable name) (← s.lookup g mode name), []⟩
  | .accessor span body => stamped span do
    return ⟨← writeReference g mode (.accessor body)
      (← (Value.scope s).walk g mode (splitPath body)), []⟩
  | .loop span body target item _ => stamped span do
    let items ← loopItems g mode (splitPath target) body
      (← (Value.scope s).walk g mode (splitPath target))
    return ⟨"", items.map (s.child item)⟩
  | .conditional span _ target _ => do
    let v ← stamped span ((Value.scope s).walk g mode (splitPath target))
    return ⟨"", if ← (v.truth g).mapError .number then [s] else []⟩

@[simp] lemma stamped_ok {α : Type} (site : Span) (a : α) :
    stamped site (.ok a) = .ok a := rfl

@[simp] lemma stamped_error {α : Type} (site : Span) (e : Failure) :
    stamped (α := α) site (.error e) = .error (e.at site) := rfl

lemma stamped_eq_ok_iff {α : Type} {site : Span} {x : Except Failure α} {a : α} :
    stamped site x = .ok a ↔ x = .ok a := by
  cases x <;> simp

/-- **A rendering is the node's own work, and then its children in each scope that the work
gives.** -/
theorem Node.render_eq (g : Graph) (mode : Mode) (s : Scope) (n : Node) :
    n.render g mode s = do
      let w ← n.work g mode s
      let texts ← w.scopes.mapM fun t => renderAll g mode t n.children
      return w.text ++ String.join texts := by
  cases n with
  | text span content =>
    rw [Node.render, Node.work, ok_bind, List.mapM_nil]
    exact congrArg Except.ok String.append_empty.symm
  | comment span body =>
    rw [Node.render, Node.work, ok_bind, List.mapM_nil]
    rfl
  | «variable» span name =>
    rw [Node.render, Node.work]
    cases s.lookup g mode name with
    | error e => rfl
    | ok v =>
      simp only [ok_bind]
      cases writeReference g mode (.variable name) v with
      | error e => rfl
      | ok text => exact congrArg Except.ok String.append_empty.symm
  | accessor span body =>
    rw [Node.render, Node.work]
    cases (Value.scope s).walk g mode (splitPath body) with
    | error e => rfl
    | ok v =>
      simp only [ok_bind]
      cases writeReference g mode (.accessor body) v with
      | error e => rfl
      | ok text => exact congrArg Except.ok String.append_empty.symm
  | loop span body target item children =>
    rw [Node.render, Node.work]
    cases (Value.scope s).walk g mode (splitPath target) with
    | error e => rfl
    | ok v =>
      simp only [ok_bind]
      cases loopItems g mode (splitPath target) body v with
      | error e => rfl
      | ok items =>
        simp only [ok_bind, stamped_ok, Node.children, pure, Except.pure, String.empty_append,
          List.mapM_map]
        rfl
  | conditional span body target children =>
    rw [Node.render, Node.work]
    cases (Value.scope s).walk g mode (splitPath target) with
    | error e => rfl
    | ok v =>
      simp only [ok_bind, stamped_ok]
      cases v.truth g with
      | error n => rfl
      | ok b =>
        cases b with
        | false => rfl
        | true =>
          simp only [Except.mapError, ok_bind, if_true, Node.children, pure, Except.pure,
            List.mapM_cons, List.mapM_nil]
          cases renderAll g mode s children <;> simp

/-- A node fails with its own work, or with its children in the first scope where they fail. -/
lemma render_eq_error_iff {g : Graph} {mode : Mode} {s : Scope} {n : Node} {e : Stop} :
    n.render g mode s = .error e ↔
      n.work g mode s = .error e ∨
      ∃ w before u after, n.work g mode s = .ok w ∧ w.scopes = before ++ u :: after ∧
        (∀ v ∈ before, ∃ text, renderAll g mode v n.children = .ok text) ∧
        renderAll g mode u n.children = .error e := by
  rw [Node.render_eq, bind_eq_error_iff]
  refine or_congr Iff.rfl ⟨?_, ?_⟩
  · rintro ⟨w, done, rest⟩
    obtain below | ⟨texts, -, same⟩ := bind_eq_error_iff.1 rest
    · obtain ⟨before, u, after, shape, fine, failed⟩ := mapM_eq_error_iff.1 below
      exact ⟨w, before, u, after, done, shape, fine, failed⟩
    · cases same
  · rintro ⟨w, before, u, after, done, shape, fine, failed⟩
    have below := mapM_eq_error_iff.2 ⟨before, u, after, shape, fine, failed⟩
    exact ⟨w, done, bind_eq_error_iff.2 (.inl below)⟩

lemma renderAll_cons_eq_error_iff {g : Graph} {mode : Mode} {s : Scope} {n : Node}
    {rest : List Node} {e : Stop} :
    renderAll g mode s (n :: rest) = .error e ↔
      n.render g mode s = .error e ∨
        (∃ text, n.render g mode s = .ok text) ∧ renderAll g mode s rest = .error e := by
  rw [renderAll, bind_eq_error_iff]
  refine or_congr Iff.rfl ⟨?_, ?_⟩
  · rintro ⟨first, here, after⟩
    obtain there | ⟨others, -, same⟩ := bind_eq_error_iff.1 after
    · exact ⟨⟨first, here⟩, there⟩
    · cases same
  · rintro ⟨⟨first, here⟩, there⟩
    exact ⟨first, here, bind_eq_error_iff.2 (.inl there)⟩

/-- A single node is rendered as a forest of one. -/
lemma renderAll_singleton (g : Graph) (mode : Mode) (s : Scope) (n : Node) :
    renderAll g mode s [n] = n.render g mode s := by
  rw [renderAll]
  cases n.render g mode s with
  | error e => rfl
  | ok text =>
    rw [ok_bind, renderAll, ok_bind]
    exact congrArg Except.ok String.append_empty

lemma evaluateAll_singleton (g : Graph) (mode : Mode) (s : Scope) (n : Node) :
    evaluateAll g mode s [n] = n.evaluate g mode s := by
  rw [evaluateAll, renderAll_singleton, Node.evaluate]

/-! ## The directives that a rendering comes to -/

/-- Rendering a forest in scope `s` comes to the node `m` in scope `t`: all that is evaluated before
has succeeded. -/
inductive Reaches (g : Graph) (mode : Mode) : Scope → List Node → Scope → Node → Prop
  | head {s : Scope} {n : Node} {rest : List Node} : Reaches g mode s (n :: rest) s n
  | next {s t : Scope} {n m : Node} {rest : List Node} {text : String} :
      n.render g mode s = .ok text → Reaches g mode s rest t m →
      Reaches g mode s (n :: rest) t m
  | inside {s t u : Scope} {n m : Node} {rest : List Node} {w : Work} {before after : List Scope} :
      n.work g mode s = .ok w → w.scopes = before ++ u :: after →
      (∀ v ∈ before, ∃ text, renderAll g mode v n.children = .ok text) →
      Reaches g mode u n.children t m → Reaches g mode s (n :: rest) t m

/-- A rendering that comes to a node whose own work fails, fails with it. -/
lemma Reaches.renderAll_eq_error {g : Graph} {mode : Mode} {s t : Scope} {nodes : List Node}
    {m : Node} {e : Stop} (reached : Reaches g mode s nodes t m)
    (failed : m.work g mode t = .error e) :
    renderAll g mode s nodes = .error e := by
  induction reached with
  | head => exact renderAll_cons_eq_error_iff.2 (.inl (render_eq_error_iff.2 (.inl failed)))
  | next here _ ih => exact renderAll_cons_eq_error_iff.2 (.inr ⟨⟨_, here⟩, ih failed⟩)
  | inside done shape fine _ ih =>
    have here := render_eq_error_iff.2 (.inr ⟨_, _, _, _, done, shape, fine, ih failed⟩)
    exact renderAll_cons_eq_error_iff.2 (.inl here)

/-- A rendering that fails comes to a node whose own work fails in the same way. -/
lemma exists_reaches_of_renderAll_eq_error {g : Graph} {mode : Mode} {s : Scope}
    {nodes : List Node} {e : Stop} (failed : renderAll g mode s nodes = .error e) :
    ∃ t m, Reaches g mode s nodes t m ∧ m.work g mode t = .error e := by
  induction nodes using forest_induction generalizing s with
  | nil =>
    rw [renderAll] at failed
    cases failed
  | cons n rest ihBelow ihRest =>
    obtain here | ⟨⟨text, here⟩, later⟩ := renderAll_cons_eq_error_iff.1 failed
    · obtain own | ⟨w, before, u, after, done, shape, fine, below⟩ := render_eq_error_iff.1 here
      · exact ⟨s, n, .head, own⟩
      · obtain ⟨t, m, reached, own⟩ := ihBelow below
        exact ⟨t, m, .inside done shape fine reached, own⟩
    · obtain ⟨t, m, reached, own⟩ := ihRest later
      exact ⟨t, m, .next here reached, own⟩

/-- **A rendering fails exactly if it comes to a node whose own work fails, and fails as that
does.** -/
theorem renderAll_eq_error_iff {g : Graph} {mode : Mode} {s : Scope} {nodes : List Node}
    {e : Stop} :
    renderAll g mode s nodes = .error e ↔
      ∃ t m, Reaches g mode s nodes t m ∧ m.work g mode t = .error e := by
  constructor
  · exact exists_reaches_of_renderAll_eq_error
  · rintro ⟨t, m, reached, failed⟩
    exact reached.renderAll_eq_error failed

/-- A rendering has an error of some sort exactly if it comes to a node whose own work has one. -/
lemma renderAll_failsWith_iff {g : Graph} {mode : Mode} {s : Scope} {nodes : List Node}
    {sort : Stop → Prop} :
    FailsWith sort (renderAll g mode s nodes) ↔
      ∃ t m, Reaches g mode s nodes t m ∧ FailsWith sort (m.work g mode t) := by
  simp only [FailsWith, renderAll_eq_error_iff]
  constructor
  · rintro ⟨e, ⟨t, m, reached, failed⟩, isSort⟩
    exact ⟨t, m, reached, e, failed, isSort⟩
  · rintro ⟨t, m, reached, e, failed, isSort⟩
    exact ⟨e, ⟨t, m, reached, failed⟩, isSort⟩

end BraceTemplate
