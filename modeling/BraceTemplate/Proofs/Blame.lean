import Mathlib
import BraceTemplate.Proofs.Instances
import BraceTemplate.Proofs.Modes
import BraceTemplate.Render.Template

/-!
# Where a strict rendering points

The report of a fault names a line, and shows a snippet of the source with a column.  This file says
that these are the place of the directive that failed.

The failure of a directive is stamped with its own span, never with that of a block around it
(`span_of_work_eq_fault`), and a rendering fails with the first evaluation that fails.  `FailsFirst`
says what that evaluation is: all before it are done, it has nothing fit to work with, and none of
the blocks around it skips its children.  The main result
`exists_failsFirst_of_render_eq_report` puts the report next to it.
-/

namespace BraceTemplate

/-! ## The place of a failure -/

lemma span_of_stamped_eq_fault {α : Type} {span site : Span} {x : Except Failure α} {f : Fault}
    (h : stamped span x = .error (.fault f site)) : site = span := by
  cases x with
  | ok a => cases h
  | error e =>
    cases e with
    | number n | writing w => cases h
    | fault f =>
      cases h
      rfl

/-- A directive that fails is stamped with its own span. -/
lemma span_of_work_eq_fault {g : Graph} {mode : Mode} {s : Scope} {n : Node} {f : Fault}
    {site : Span} (h : n.work g mode s = .error (.fault f site)) : site = n.span := by
  cases n with
  | text span content | comment span body => cases h
  | «variable» span name | accessor span body | loop span body target item children =>
    rw [Node.work] at h
    exact span_of_stamped_eq_fault h
  | conditional span body target children =>
    rw [Node.work] at h
    obtain here | ⟨v, -, later⟩ := bind_eq_error_iff.1 h
    · exact span_of_stamped_eq_fault here
    · cases truth : v.truth g <;> rw [truth] at later <;> cases later

/-! ## Blocks that skip their children -/

/-- A condition that comes to a false value, or a loop that comes to a sequence of no items. -/
inductive Skips (g : Graph) (s : Scope) : Node → Prop
  | conditional {span : Span} {body target : String} {children : List Node} {v : Value} :
      (Value.scope s).resolve g (splitPath target) = .ok v → v.truth g = .ok false →
      Skips g s (.conditional span body target children)
  | loop {span : Span} {body target item : String} {children : List Node} {v : Value} :
      (Value.scope s).resolve g (splitPath target) = .ok v → v.items? g = some [] →
      Skips g s (.loop span body target item children)

/-- Such a block does its work and opens no scope. -/
lemma Skips.work {g : Graph} {s : Scope} {n : Node} (h : Skips g s n) :
    n.work g .strict s = .ok ⟨"", []⟩ := by
  cases h with
  | conditional found isFalse =>
    rw [Node.work, Value.walk, settle_strict, found, stamped_ok, ok_bind, isFalse]
    rfl
  | loop found noItems =>
    rw [Node.work, Value.walk, settle_strict, found, ok_bind, loopItems, settle_strict, noItems]
    rfl

/-- **A block that skips its children writes nothing and has no fault, whatever they are.** -/
theorem Skips.render {g : Graph} {s : Scope} {n : Node} (h : Skips g s n) :
    n.render g .strict s = .ok "" := by
  rw [Node.render_eq, h.work]
  rfl

lemma Skips.opened {g : Graph} {s : Scope} {n : Node} (h : Skips g s n) :
    n.opened g .strict s = [] := by
  rw [Node.opened, h.work]

/-- The blocks around a node, each with the scope it is evaluated in, lead from the top of a forest
down to the node, and none of them skips its children. -/
def Entered (g : Graph) (nodes : List Node) (n : Node) : List (Scope × Node) → Prop
  | [] => n ∈ nodes
  | (u, m) :: around => n ∈ m.children ∧ ¬ Skips g u m ∧ Entered g nodes m around

/-- Every evaluation is inside of blocks that are entered. -/
lemma entered_of_mem_instances {g : Graph} {s : Scope} {nodes : List Node} {i : Instance}
    (h : i ∈ instances g .strict [] s nodes) : Entered g nodes i.node i.around := by
  refine instances_induction (motive := fun i => Entered g nodes i.node i.around) ?_ ?_ h
  · intro u m around t n outer opened child
    refine ⟨child, ?_, outer⟩
    intro skips
    rw [skips.opened] at opened
    cases opened
  · intro n there
    exact there

/-! ## The evaluation that failed -/

/-- An evaluation is the one that a strict rendering fails at: all before it are done, and it has
nothing fit to work with.  The blocks that it is a part of have been entered. -/
structure FailsFirst (g : Graph) (s : Scope) (nodes : List Node) (i : Instance) : Prop where
  first : ∃ before after, instances g .strict [] s nodes = before ++ i :: after ∧
    ∀ j ∈ before, ∃ w, j.work g .strict = .ok w
  fails : Degrades g i.scope i.node
  entered : Entered g nodes i.node i.around

lemma FailsFirst.mem_visit {g : Graph} {s : Scope} {nodes : List Node} {i : Instance}
    (h : FailsFirst g s nodes i) : i.node ∈ Node.visit nodes := by
  obtain ⟨before, after, shape, -⟩ := h.first
  have listed : i ∈ instances g .strict [] s nodes := by simp [shape]
  exact mem_visit_of_mem_instances listed

/-- The first evaluation with a fault of its own is the one. -/
lemma failsFirst_of_split {g : Graph} {s : Scope} {nodes : List Node} {i : Instance} {f : Fault}
    {site : Span} {before after : List Instance}
    (shape : instances g .strict [] s nodes = before ++ i :: after)
    (done : ∀ j ∈ before, ∃ w, j.work g .strict = .ok w)
    (own : i.work g .strict = .error (.fault f site)) : FailsFirst g s nodes i := by
  have fails : Degrades g i.scope i.node := work_strict_eq_fault_iff.1 ⟨f, site, own⟩
  have listed : i ∈ instances g .strict [] s nodes := by simp [shape]
  exact ⟨⟨before, after, shape, done⟩, fails, entered_of_mem_instances listed⟩

/-- A strict rendering with a fault fails at some evaluation, and is stamped with its node. -/
lemma exists_failsFirst {g : Graph} {s : Scope} {nodes : List Node} {f : Fault} {site : Span}
    (failed : renderAll g .strict s nodes = .error (.fault f site)) :
    ∃ i, FailsFirst g s nodes i ∧ i.work g .strict = .error (.fault f site) ∧
      site = i.node.span := by
  obtain ⟨before, i, after, shape, done, own⟩ := renderAll_eq_error_iff_first.1 failed
  exact ⟨i, failsFirst_of_split shape done own, own, span_of_work_eq_fault own⟩

/-! ## The report -/

/-- A report names a template, and gives the place of a node in it as the place of the fault. -/
structure RenderDiagnostic.PointsAt (d : RenderDiagnostic) (name : Option String) (n : Node) :
    Prop where
  templateName : d.templateName = name
  line : d.line = some (n.span.start.line : Int)
  snippet : ∃ quoted, d.snippet = some quoted ∧ quoted.errorLine = n.span.start.line ∧
    quoted.column = some (n.span.start.column : Int)

lemma pointsAt_diagnoseAt {name : Option String} {source : String} (f : Fault) (message : String)
    (nonempty : source ≠ "") (n : Node) :
    (f.diagnoseAt message name (some source) n.span.start).PointsAt name n := by
  refine ⟨rfl, rfl, Snippet.build source n.span.start.line 1 (some n.span.start.column), ?_, rfl,
    rfl⟩
  simp [Fault.diagnoseAt, nonempty]

/-- A report points at nodes of one line and column only. -/
lemma RenderDiagnostic.PointsAt.same_place {d : RenderDiagnostic} {name : Option String}
    {m n : Node} (here : d.PointsAt name m) (there : d.PointsAt name n) :
    (m.span.start.line, m.span.start.column) = (n.span.start.line, n.span.start.column) := by
  obtain ⟨quoted, shown, line, column⟩ := here.snippet
  obtain ⟨quoted', shown', line', column'⟩ := there.snippet
  obtain rfl : quoted = quoted' := Option.some.inj (shown.symm.trans shown')
  rw [line] at line'
  rw [column, Option.some.injEq] at column'
  rw [Prod.mk.injEq]
  exact ⟨Int.ofNat.inj line', Int.ofNat.inj column'⟩

/-- The report of a rendering is that of a fault of the forest, with its message. -/
lemma exists_fault_of_render_eq_report {g : Graph} {t : Template} {arguments : List Value}
    {bindings : Entries} {d : RenderDiagnostic}
    (failed : t.render g arguments bindings = .error (.diagnostic (.ofRender d))) :
    ∃ s f site message, Template.scope g arguments bindings = .ok s ∧
      renderAll g (t.mode g) s t.document.nodes = .error (.fault f site) ∧
      f.message g = .ok message ∧ d = f.diagnoseAt message t.name t.source site.start := by
  rw [Template.render] at failed
  cases data : Template.scope g arguments bindings with
  | error e =>
    rw [data] at failed
    cases failed
  | ok s =>
    simp only [data, Except.mapError, ok_bind] at failed
    cases outcome : renderAll g (t.mode g) s t.document.nodes with
    | ok text =>
      rw [outcome] at failed
      cases failed
    | error e =>
      rw [outcome] at failed
      cases e with
      | number n | writing w => cases failed
      | fault f site =>
        simp only [Stop.report, Fault.report] at failed
        cases said : f.message g with
        | ok message =>
          rw [said] at failed
          cases failed
          exact ⟨s, f, site, message, rfl, outcome, said, rfl⟩
        | error w =>
          rw [said] at failed
          cases failed

/-- **The report of a strict rendering points at the directive that failed first**, and not at any
block around it. -/
theorem exists_failsFirst_of_render_eq_report {g : Graph} {source : String} {options : Options}
    {name : Option String} {t : Template} (made : Template.ofSource source options name = .ok t)
    (nonempty : source ≠ "") (strict : t.mode g = .strict) {arguments : List Value}
    {bindings : Entries} {d : RenderDiagnostic}
    (failed : t.render g arguments bindings = .error (.diagnostic (.ofRender d))) :
    ∃ s i f message, Template.scope g arguments bindings = .ok s ∧
      FailsFirst g s t.document.nodes i ∧ i.node ∈ t.document.inOrder ∧
      i.work g .strict = .error (.fault f i.node.span) ∧ f.message g = .ok message ∧
      d = f.diagnoseAt message name (some source) i.node.span.start ∧ d.PointsAt name i.node ∧
      ∀ m ∈ t.document.inOrder, i.node ∈ Node.visit m.children → ¬ d.PointsAt name m := by
  obtain ⟨document, accepted, rfl⟩ :
      ∃ document, parse source = .ok document ∧ ⟨document, options, name, some source⟩ = t := by
    rw [Template.ofSource] at made
    cases outcome : parse source with
    | error f =>
      rw [outcome] at made
      cases made
    | ok document =>
      rw [outcome] at made
      cases made
      exact ⟨document, rfl, rfl⟩
  obtain ⟨s, f, site, message, data, stopped, said, rfl⟩ := exists_fault_of_render_eq_report failed
  rw [strict] at stopped
  obtain ⟨i, first, own, rfl⟩ := exists_failsFirst stopped
  have points : (f.diagnoseAt message name (some source) i.node.span.start).PointsAt name i.node :=
    pointsAt_diagnoseAt f message nonempty i.node
  refine ⟨s, i, f, message, data, first, first.mem_visit, own, said, rfl, points, ?_⟩
  intro m visited inside there
  have whole : Derives .start (scan source.toList) document.nodes := (parse_eq_ok_iff.1 accepted).2
  have behind : m.span.start.Before i.node.span.start := whole.start_before visited inside
  exact behind.ne (there.same_place points)

/-- Data of one item that has a title and no name. -/
def untitledItems : Graph :=
  ⟨[.list [.collection 1], .map [(.text "title", .text "x")]]⟩

/-- A name that is missing on an item is reported at the directive that asks for it, on the second
line, and not at the loop. -/
theorem missing_name_points_inside_loop :
    ∃ (t : Template) (d : RenderDiagnostic), Template.ofSource
        "\x7b\x7b#loop items as item\x7d\x7d\n\x7b\x7b item.name \x7d\x7d\x7b\x7b/loop\x7d\x7d"
        {} none = .ok t ∧
      t.render untitledItems [] [(.text "items", .collection 0)] =
        .error (.diagnostic (.ofRender d)) ∧
      d.line = some 2 ∧
      ∃ s i, FailsFirst untitledItems s t.document.nodes i ∧ d.PointsAt none i.node := by
  let source :=
    "\x7b\x7b#loop items as item\x7d\x7d\n\x7b\x7b item.name \x7d\x7d\x7b\x7b/loop\x7d\x7d"
  let n : Node := .loop ⟨⟨0, 1, 0⟩, 48⟩ "#loop items as item" "items" "item"
    [.text ⟨⟨23, 1, 23⟩, 24⟩ "\n", .accessor ⟨⟨24, 2, 0⟩, 39⟩ "item.name"]
  let t : Template := ⟨⟨48, [n]⟩, {}, none, some source⟩
  let missing : Fault := .missingProperty ["item", "name"] "name" (.collection 1)
  let message := "Property \"name\" does not exist on: \x7b\"title\": \"x\"\x7d"
  let d := missing.diagnoseAt message none (some source) ⟨24, 2, 0⟩
  have parsed : parse source = .ok ⟨48, [n]⟩ := by cbv
  have made : Template.ofSource source {} none = .ok t := by rw [Template.ofSource, parsed]
  have nonempty : source ≠ "" := by decide
  have said : missing.message untitledItems = .ok message := by cbv
  have stopped : t.render untitledItems [] [(.text "items", .collection 0)] =
      .error (missing.report untitledItems (missing.diagnoseAt · none (some source) ⟨24, 2, 0⟩)) :=
    rfl
  have failed : t.render untitledItems [] [(.text "items", .collection 0)] =
      .error (.diagnostic (.ofRender d)) := by rw [stopped, Fault.report, said]
  obtain ⟨s, i, f, -, -, first, -, -, -, -, points, -⟩ :=
    exists_failsFirst_of_render_eq_report made nonempty rfl failed
  exact ⟨t, d, made, failed, rfl, s, i, first, points⟩

end BraceTemplate
