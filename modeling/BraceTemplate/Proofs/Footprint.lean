import Mathlib
import BraceTemplate.Proofs.Descriptions
import BraceTemplate.Proofs.Sameness
import BraceTemplate.Proofs.Speechless
import BraceTemplate.Render.Template

/-!
# What a rendering reads

The paths that a template may read are collected without running it, by a walk over its nodes that
knows which names the loops around a node bind.  This file says that nothing else is read: two
renderings of a template whose data agree on those paths agree.

The invariant is `Sees`.  Two scopes agree on each name that a loop around has bound, and on each
path that the nodes still to be rendered read from outside; a node's own path is then of the one
sort or of the other.  The scopes that a node opens for its children are related by `Enters`, and
`Sees.enter` is the step from a node to them: a path with an inner name becomes one of the first
sort, and no other path looks at the layer that the loop put in front.

The main result `render_agree_of_dependencies` says it for whole templates, with the paths taken
from the dependencies as they are given out, in dotted form.
-/

namespace BraceTemplate

open Sameness

/-! ## The paths of a node and of its children -/

namespace Node

/-- The names bound inside a node, when some names are bound around it. -/
def boundWithin (bound : List String) : Node → List String
  | .loop _ _ _ item _ => item :: bound
  | _ => bound

/-- A node reads its own path, unless that starts with a bound name, and what its children read. -/
lemma mem_outsidePaths {n : Node} {bound path : List String} :
    path ∈ n.outsidePaths bound ↔
      (∃ own, n.reads = some own ∧ path ∈ outsidePath bound own) ∨
        path ∈ outsidePathsAll (n.boundWithin bound) n.children := by
  cases n <;> simp [outsidePaths, reads, boundWithin, children, outsidePathsAll]

end Node

/-- No path from outside starts with a bound name. -/
lemma exists_of_mem_outsidePath {bound own path : List String}
    (h : path ∈ outsidePath bound own) : ∃ first rest, path = first :: rest ∧ first ∉ bound := by
  cases own with
  | nil => cases h
  | cons first rest =>
    rw [outsidePath] at h
    split at h
    · cases h
    · rename_i free
      exact ⟨first, rest, List.mem_singleton.1 h, free⟩

lemma boundWithin_subset (n : Node) (bound : List String) : bound ⊆ n.boundWithin bound := by
  cases n <;> simp [Node.boundWithin]

lemma exists_of_mem_outsidePathsAll {bound path : List String} {nodes : List Node}
    (h : path ∈ outsidePathsAll bound nodes) :
    ∃ first rest, path = first :: rest ∧ first ∉ bound := by
  induction nodes using forest_induction generalizing bound with
  | nil =>
    rw [outsidePathsAll] at h
    cases h
  | cons n rest ihBelow ihRest =>
    rw [outsidePathsAll, List.mem_append, Node.mem_outsidePaths] at h
    obtain (⟨own, -, here⟩ | below) | later := h
    · exact exists_of_mem_outsidePath here
    · obtain ⟨first, rest, same, free⟩ := ihBelow below
      refine ⟨first, rest, same, ?_⟩
      intro inside
      exact free (boundWithin_subset n bound inside)
    · exact ihRest later

/-! ## Walks from two scopes -/

variable {g : Graph} (S : Sameness g)

/-- How a walk from a scope begins. -/
lemma resolve_scope_cons (s : Scope) (first : String) (rest : List String) :
    (Value.scope s).resolve g (first :: rest) =
      match s.valueOf? first with
      | none => .error (.fault (.missingProperty (first :: rest) first (.scope s)))
      | some v =>
        if v.isAbsent g then .error (.fault (.nullProperty (first :: rest) first))
        else rest.foldlM (Value.step g (first :: rest)) v := by
  rw [Value.resolve, List.foldlM_cons, Value.step, Value.member?]
  cases s.valueOf? first with
  | none => rfl
  | some v => cases absent : v.isAbsent g <;> simp [absent]

/-- It makes no difference which value a name is missing on. -/
lemma missing_left {path : List String} {key : String} {v w : Value} {x : Except Failure Value}
    (h : S.SameEnd (.error (.fault (.missingProperty path key v))) x) :
    S.SameEnd (.error (.fault (.missingProperty path key w))) x := by
  cases h with
  | error same =>
    cases same with
    | fault same => exact .error (.fault ⟨same.code, same.subject, same.expression⟩)

lemma missing_right {path : List String} {key : String} {v w : Value} {x : Except Failure Value}
    (h : S.SameEnd x (.error (.fault (.missingProperty path key v)))) :
    S.SameEnd x (.error (.fault (.missingProperty path key w))) := by
  cases h with
  | error same =>
    cases same with
    | fault same => exact .error (.fault ⟨same.code, same.subject, same.expression⟩)

/-- A walk asks its scope for the first name only. -/
lemma sameEnd_of_valueOf? {s₁ s₂ t₁ t₂ : Scope} {first : String} {rest : List String}
    (left : t₁.valueOf? first = s₁.valueOf? first) (right : t₂.valueOf? first = s₂.valueOf? first)
    (h : S.SameEnd ((Value.scope s₁).resolve g (first :: rest))
      ((Value.scope s₂).resolve g (first :: rest))) :
    S.SameEnd ((Value.scope t₁).resolve g (first :: rest))
      ((Value.scope t₂).resolve g (first :: rest)) := by
  rw [resolve_scope_cons, resolve_scope_cons] at h ⊢
  rw [left, right]
  cases here : s₁.valueOf? first <;> cases there : s₂.valueOf? first <;> rw [here, there] at h
  case none.none => exact .error (.fault S.missing_same)
  case none.some v => exact missing_left S h
  case some.none v => exact missing_right S h
  case some.some v w => exact h

/-- Names bound to the same value start walks that end in the same way. -/
lemma resolve_agree_of_bound {S : Sameness g} {F : Failure → Failure → Prop} (c : S.Compares F)
    {s₁ s₂ : Scope} {first : String} {rest : List String} {v w : Value}
    (left : s₁.valueOf? first = some v) (right : s₂.valueOf? first = some w) (same : S.same v w) :
    Agree F S.same ((Value.scope s₁).resolve g (first :: rest))
      ((Value.scope s₂).resolve g (first :: rest)) := by
  rw [resolve_scope_cons, resolve_scope_cons, left, right]
  simp only [S.isAbsent same]
  split
  · exact .error (c.nullProperty (first :: rest) first)
  · exact foldlM_step_agree c same

/-! ## Scopes that agree on what is read -/

/-- Two scopes agree on the bound names, and on some paths. -/
structure Sees (bound : List String) (paths : List (List String)) (s₁ s₂ : Scope) : Prop where
  bound : ∀ name ∈ bound, ∃ v w, s₁.valueOf? name = some v ∧ s₂.valueOf? name = some w ∧ S.same v w
  outside : ∀ path ∈ paths,
    S.SameEnd ((Value.scope s₁).resolve g path) ((Value.scope s₂).resolve g path)

/-- The scopes that a node opens for its children in two runs. -/
inductive Enters (s₁ s₂ : Scope) : Node → Scope → Scope → Prop
  | loop {span : Span} {body target item : String} {children : List Node} {v w : Value} :
      S.same v w →
      Enters s₁ s₂ (.loop span body target item children) (s₁.child item v) (s₂.child item w)
  | conditional {span : Span} {body target : String} {children : List Node} :
      Enters s₁ s₂ (.conditional span body target children) s₁ s₂

namespace Sees

variable {S} {bound : List String} {paths : List (List String)} {s₁ s₂ : Scope}

lemma mono {fewer : List (List String)} (h : Sees S bound paths s₁ s₂) (part : fewer ⊆ paths) :
    Sees S bound fewer s₁ s₂ :=
  ⟨h.bound, fun path there => h.outside path (part there)⟩

/-- The path that a node reads leads both runs to the same end. -/
lemma reads {n : Node} (h : Sees S bound (n.outsidePaths bound) s₁ s₂) {own : List String}
    (reads : n.reads = some own) (nonempty : own ≠ []) :
    S.SameEnd ((Value.scope s₁).resolve g own) ((Value.scope s₂).resolve g own) := by
  match own, nonempty with
  | first :: rest, _ =>
    by_cases inner : first ∈ bound
    · obtain ⟨v, w, left, right, same⟩ := h.bound first inner
      exact resolve_agree_of_bound S.compares_sameFailure left right same
    · have own : first :: rest ∈ outsidePath bound (first :: rest) := by
        rw [outsidePath, if_neg inner]
        exact List.mem_singleton.2 rfl
      exact h.outside _ (Node.mem_outsidePaths.2 (.inl ⟨_, reads, own⟩))

/-- Scopes that agree on what a node and its children read open scopes that agree on what the
children read. -/
lemma enter {n : Node} {t₁ t₂ : Scope} (h : Sees S bound (n.outsidePaths bound) s₁ s₂)
    (opened : Enters S s₁ s₂ n t₁ t₂) :
    Sees S (n.boundWithin bound) (outsidePathsAll (n.boundWithin bound) n.children) t₁ t₂ := by
  have below : ∀ path ∈ outsidePathsAll (n.boundWithin bound) n.children,
      S.SameEnd ((Value.scope s₁).resolve g path) ((Value.scope s₂).resolve g path) := by
    intro path there
    exact h.outside path (Node.mem_outsidePaths.2 (.inr there))
  cases opened with
  | conditional => exact ⟨h.bound, below⟩
  | @loop span body target item children v w same =>
    constructor
    · intro name there
      by_cases inner : name = item
      · subst inner
        exact ⟨v, w, Scope.valueOf?_child_self .., Scope.valueOf?_child_self .., same⟩
      · have outer : name ∈ bound := (List.mem_cons.1 there).resolve_left inner
        obtain ⟨v', w', left, right, same'⟩ := h.bound name outer
        refine ⟨v', w', ?_, ?_, same'⟩
        · rw [Scope.valueOf?_child_of_ne _ _ inner, left]
        · rw [Scope.valueOf?_child_of_ne _ _ inner, right]
    · -- the path starts with no bound name, so the new layer does not answer for it
      intro path there
      obtain ⟨first, rest, rfl, free⟩ := exists_of_mem_outsidePathsAll there
      have other : first ≠ item := by
        intro same
        subst same
        exact free List.mem_cons_self
      have left := Scope.valueOf?_child_of_ne s₁ v other
      have right := Scope.valueOf?_child_of_ne s₂ w other
      exact sameEnd_of_valueOf? S left right (below _ there)

end Sees

/-! ## Renderings that agree -/

/-- Two works write the same and open scopes that are related. -/
structure SameWork (P : Scope → Scope → Prop) (w w' : Work) : Prop where
  text : w.text = w'.text
  scopes : List.Forall₂ P w.scopes w'.scopes

/-- Renderings agree if the works of the nodes do, and open scopes in which the renderings of the
children agree.  `P` says of which forests and scopes this is known. -/
lemma renderAll_agree_of_work {E : Stop → Stop → Prop} {P : List Node → Scope → Scope → Prop}
    {mode : Mode}
    (work : ∀ {n rest s₁ s₂}, P (n :: rest) s₁ s₂ →
      Agree E (SameWork (P n.children)) (n.work g mode s₁) (n.work g mode s₂))
    (later : ∀ {n rest s₁ s₂}, P (n :: rest) s₁ s₂ → P rest s₁ s₂)
    {nodes : List Node} {s₁ s₂ : Scope} (related : P nodes s₁ s₂) :
    Agree E Eq (renderAll g mode s₁ nodes) (renderAll g mode s₂ nodes) := by
  induction nodes using forest_induction generalizing s₁ s₂ with
  | nil => exact .ok rfl
  | cons n rest ihBelow ihRest =>
    have node : Agree E Eq (n.render g mode s₁) (n.render g mode s₂) := by
      rw [Node.render_eq, Node.render_eq]
      apply (work related).bind
      intro w w' same
      have below := Agree.mapM same.scopes fun t t' opened => ihBelow opened
      apply below.bind
      intro texts texts' wrote
      rw [List.forall₂_eq_eq_eq] at wrote
      rw [same.text, wrote]
      exact .ok rfl
    rw [renderAll, renderAll]
    apply node.bind
    intro first first' wrote
    apply (ihRest (later related)).bind
    intro others others' wrote'
    rw [wrote, wrote']
    exact .ok rfl

section

variable {S} {F : Failure → Failure → Prop} (c : S.Compares F)

include c

lemma lookup_agree {s₁ s₂ : Scope} {name : String} (mode : Mode)
    (h : Agree F S.same ((Value.scope s₁).resolve g [name])
      ((Value.scope s₂).resolve g [name])) :
    Agree F S.same (s₁.lookup g mode name) (s₂.lookup g mode name) := by
  apply settle_agree c mode (.ok S.undefined)
  rw [require_eq, require_eq]
  apply h.mapError
  intro e e' _
  exact c.missingVariable name

lemma walk_agree {v w : Value} {path : List String} (mode : Mode)
    (h : Agree F S.same (v.resolve g path) (w.resolve g path)) :
    Agree F S.same (v.walk g mode path) (w.walk g mode path) :=
  settle_agree c mode (.ok S.undefined) h

lemma written_agree {v w : Value} (h : S.same v w) : Agree F Eq (written g v) (written g w) := by
  rw [written, written, S.output h]
  cases w.output g with
  | ok text => exact .ok rfl
  | error fault => exact .error (c.writing fault)

lemma writeReference_agree {v w : Value} (mode : Mode) (reference : Reference) (h : S.same v w) :
    Agree F Eq (writeReference g mode reference v) (writeReference g mode reference w) := by
  have texts := written_agree c h
  apply settle_agree c mode texts
  rw [substitute, substitute, S.isAbsent h, S.kind h]
  split
  · exact .ok rfl
  · split
    · exact texts
    · exact .error (c.unsupportedType h)

lemma loopItems_agree {v w : Value} (mode : Mode) (path : List String) (expression : String)
    (h : S.same v w) :
    Agree F (List.Forall₂ S.same) (loopItems g mode path expression v)
      (loopItems g mode path expression w) := by
  apply settle_agree c mode (.ok .nil)
  have items := S.items h
  cases here : v.items? g <;> cases there : w.items? g <;> rw [here, there] at items <;> cases items
  · exact .error (c.notIterable h)
  · exact .ok ‹_›

/-- What a node does itself agrees if the walks along its own path do, however the failures are
compared when they are stamped. -/
lemma work_agree {E : Stop → Stop → Prop}
    (stamp : ∀ {e e'} site, F e e' → E (e.at site) (e'.at site)) {s₁ s₂ : Scope} (mode : Mode)
    (n : Node) (h : ∀ own, n.reads = some own → own ≠ [] →
      Agree F S.same ((Value.scope s₁).resolve g own) ((Value.scope s₂).resolve g own)) :
    Agree E (SameWork (Enters S s₁ s₂ n)) (n.work g mode s₁) (n.work g mode s₂) := by
  cases n with
  | text span content | comment span body => exact .ok ⟨rfl, .nil⟩
  | «variable» span name =>
    have read := h [name] rfl (List.cons_ne_nil _ _)
    refine Agree.mapError ?_ fun _ _ => stamp span
    apply (lookup_agree c mode read).bind
    intro v w same
    apply (writeReference_agree c mode (.variable name) same).bind
    intro text text' wrote
    exact .ok ⟨wrote, .nil⟩
  | accessor span body =>
    have read := h (splitPath body) rfl (splitPath_ne_nil body)
    refine Agree.mapError ?_ fun _ _ => stamp span
    apply (walk_agree c mode read).bind
    intro v w same
    apply (writeReference_agree c mode (.accessor body) same).bind
    intro text text' wrote
    exact .ok ⟨wrote, .nil⟩
  | loop span body target item children =>
    have read := h (splitPath target) rfl (splitPath_ne_nil target)
    refine Agree.mapError ?_ fun _ _ => stamp span
    apply (walk_agree c mode read).bind
    intro v w same
    apply (loopItems_agree c mode (splitPath target) body same).bind
    intro items items' each
    have scopes : List.Forall₂ (Enters S s₁ s₂ (.loop span body target item children))
        (items.map (s₁.child item)) (items'.map (s₂.child item)) := by
      rw [List.forall₂_map_left_iff, List.forall₂_map_right_iff]
      apply each.imp
      intro v w same
      exact .loop same
    exact .ok ⟨rfl, scopes⟩
  | conditional span body target children =>
    have read := h (splitPath target) rfl (splitPath_ne_nil target)
    have found : Agree E S.same (stamped span _) (stamped span _) :=
      (walk_agree c mode read).mapError fun _ _ => stamp span
    apply found.bind
    intro v w same
    rw [S.truth same]
    cases w.truth g with
    | error n => exact .error (stamp span (c.number n))
    | ok b =>
      cases b with
      | false => exact .ok ⟨rfl, .nil⟩
      | true => exact .ok ⟨rfl, .cons .conditional .nil⟩

end

lemma sameStop_at {e e' : Failure} (site : Span) (h : S.SameFailure e e') :
    S.SameStop (e.at site) (e'.at site) := by
  cases h with
  | fault same => exact .fault site same
  | number n => exact .number n
  | writing w => exact .writing w

/-- **Renderings in two scopes agree if the scopes agree on what the nodes read.** -/
theorem renderAll_agree {bound : List String} {nodes : List Node} {s₁ s₂ : Scope} (mode : Mode)
    (h : Sees S bound (outsidePathsAll bound nodes) s₁ s₂) :
    Agree S.SameStop Eq (renderAll g mode s₁ nodes) (renderAll g mode s₂ nodes) := by
  refine renderAll_agree_of_work
    (P := fun nodes s₁ s₂ => ∃ bound, Sees S bound (outsidePathsAll bound nodes) s₁ s₂) ?_ ?_
    ⟨bound, h⟩
  · rintro n rest s₁ s₂ ⟨bound, sees⟩
    rw [outsidePathsAll] at sees
    have here := sees.mono (List.subset_append_left _ _)
    have work := work_agree S.compares_sameFailure (sameStop_at S) mode n
      fun own reads => here.reads reads
    refine work.imp fun w w' same => ?_
    exact ⟨same.text, same.scopes.imp fun t t' opened => ⟨_, here.enter opened⟩⟩
  · rintro n rest s₁ s₂ ⟨bound, sees⟩
    rw [outsidePathsAll] at sees
    exact ⟨bound, sees.mono (List.subset_append_right _ _)⟩

/-! ## What is raised, and reports -/

/-- The reports are the same but for their messages, which may quote the data. -/
structure SameReport (d e : RenderDiagnostic) : Prop where
  code : d.code = e.code
  subject : S.SameSubject d.subject e.subject
  expression : d.expression = e.expression
  templateName : d.templateName = e.templateName
  line : d.line = e.line
  snippet : d.snippet = e.snippet

/-- The renderings end with the same report, the same number fault or the same writing fault. -/
inductive SameError : TemplateError → TemplateError → Prop
  | report {d e : RenderDiagnostic} : SameReport S d e →
      SameError (.diagnostic (.ofRender d)) (.diagnostic (.ofRender e))
  | number (n : NumberFault) : SameError (.number n) (.number n)
  | writing (w : WritingFault) : SameError (.writing w) (.writing w)

lemma unspoken_fault_iff {f : Fault} {site : Span} {w : WritingFault} :
    (Stop.fault f site).Unspoken g w ↔ f.message g = .error w := by
  simp [Stop.Unspoken]

/-- What is raised for the same fault is the same exactly if there are two messages or the same
reason why there is none. -/
lemma raised_same_iff {e e' : Stop} (h : S.SameStop e e') :
    S.SameStop (e.raised g) (e'.raised g) ↔ ∀ w, e.Unspoken g w ↔ e'.Unspoken g w := by
  cases h with
  | number n => exact iff_of_true (.number n) (by simp [Stop.Unspoken])
  | writing w => exact iff_of_true (.writing w) (by simp [Stop.Unspoken])
  | @fault f f' site same =>
    simp only [unspoken_fault_iff, Stop.raised]
    cases f.message g with
    | ok message =>
      cases f'.message g with
      | ok message' => exact iff_of_true (.fault site same) (by simp)
      | error w => exact iff_of_false (by rintro ⟨⟩) (by simp)
    | error w =>
      cases f'.message g with
      | ok message' => exact iff_of_false (by rintro ⟨⟩) (by simp)
      | error w' =>
        constructor
        · rintro ⟨⟩
          simp
        · intro alike
          have same : w' = w := by simpa using alike w
          rw [same]
          exact .writing w

/-- The reports are the same if what is raised is. -/
lemma report_same_iff {e e' : Stop} (name source : Option String) (h : S.SameStop e e') :
    SameError S (e.report g name source) (e'.report g name source) ↔
      S.SameStop (e.raised g) (e'.raised g) := by
  cases h with
  | number n => exact iff_of_true (.number n) (.number n)
  | writing w => exact iff_of_true (.writing w) (.writing w)
  | @fault f f' site same =>
    simp only [Stop.report, Fault.report, Stop.raised]
    cases f.message g with
    | ok message =>
      cases f'.message g with
      | ok message' =>
        have code := congrArg some same.code
        have expression := congrArg some same.expression
        exact iff_of_true (.report ⟨code, same.subject, expression, rfl, rfl, rfl⟩)
          (.fault site same)
      | error w => exact iff_of_false (by rintro ⟨⟩) (by rintro ⟨⟩)
    | error w =>
      cases f'.message g with
      | ok message' => exact iff_of_false (by rintro ⟨⟩) (by rintro ⟨⟩)
      | error w' =>
        constructor
        · rintro ⟨⟩
          exact .writing w
        · rintro ⟨⟩
          exact .writing w

/-- Where renderings agree up to messages, what is raised for them agrees exactly if they are
without the same messages. -/
lemma raised_agree_iff {x y : Except Stop String} (h : Agree S.SameStop Eq x y) :
    Agree S.SameStop Eq (x.mapError (·.raised g)) (y.mapError (·.raised g)) ↔
      ∀ w, FailsWith (Stop.Unspoken g w) x ↔ FailsWith (Stop.Unspoken g w) y := by
  cases h with
  | ok same => exact iff_of_true (.ok same) (by simp)
  | error same =>
    simp only [failsWith_error_iff, ← raised_same_iff S same]
    constructor
    · rintro (⟨⟩ | ⟨raised⟩)
      assumption
    · exact .error

/-- Calls in scopes that are rendered alike up to messages agree exactly if they are without the
same messages. -/
lemma call_agree_iff (t : Template) {arguments₁ arguments₂ : List Value}
    {bindings₁ bindings₂ : Entries} {s₁ s₂ : Scope}
    (first : Template.scope g arguments₁ bindings₁ = .ok s₁)
    (second : Template.scope g arguments₂ bindings₂ = .ok s₂)
    (h : Agree S.SameStop Eq (renderAll g (t.mode g) s₁ t.document.nodes)
      (renderAll g (t.mode g) s₂ t.document.nodes)) :
    Agree (SameError S) Eq (t.render g arguments₁ bindings₁) (t.render g arguments₂ bindings₂) ↔
      SpeechlessAlike g (t.mode g) s₁ s₂ t.document.nodes := by
  rw [speechlessAlike_iff, Template.render, Template.render, first, second]
  simp only [Except.mapError, ok_bind]
  generalize renderAll g (t.mode g) s₁ t.document.nodes = x,
    renderAll g (t.mode g) s₂ t.document.nodes = y at h ⊢
  cases h with
  | ok same =>
    rw [same]
    exact iff_of_true (.ok rfl) (by simp)
  | error same =>
    simp only [failsWith_error_iff, ← raised_same_iff S same,
      ← report_same_iff S t.name t.source same]
    constructor
    · rintro (⟨⟩ | ⟨reported⟩)
      assumption
    · exact .error

/-- **The dependencies of a template are all that its renderings depend on.**  Data from which the
paths among the dependencies lead to the same ends are rendered to the same text, or to the same
report but for its message, whatever else they hold and in either mode; except that a strict
rendering may be without a message for the one data and not for the other. -/
theorem render_agree_of_dependencies {source : String} {t : Template}
    (accepted : parse source = .ok t.document) {arguments₁ arguments₂ : List Value}
    {bindings₁ bindings₂ : Entries} {s₁ s₂ : Scope}
    (first : Template.scope g arguments₁ bindings₁ = .ok s₁)
    (second : Template.scope g arguments₂ bindings₂ = .ok s₂)
    (agree : ∀ p ∈ t.document.dependencies,
      S.SameEnd ((Value.scope s₁).resolve g (splitPath p))
        ((Value.scope s₂).resolve g (splitPath p))) :
    Agree S.SameStop Eq (renderAll g (t.mode g) s₁ t.document.nodes)
      (renderAll g (t.mode g) s₂ t.document.nodes) ∧
    (Agree (SameError S) Eq (t.render g arguments₁ bindings₁) (t.render g arguments₂ bindings₂) ↔
      SpeechlessAlike g (t.mode g) s₁ s₂ t.document.nodes) := by
  have sees : Sees S [] (outsidePathsAll [] t.document.nodes) s₁ s₂ := by
    constructor
    · intro name none
      cases none
    · intro path there
      obtain ⟨p, dependency, rfl⟩ := (mem_outsidePaths_iff accepted).1 there
      exact agree p dependency
  have texts := renderAll_agree S (t.mode g) sees
  exact ⟨texts, call_agree_iff S t first second texts⟩

/-- Two data with the same items are rendered alike by a loop over these, though what they bind to
the name of an item differs. -/
theorem loop_hides_binding :
    ∃ t, Template.ofSource
        "\x7b\x7b#loop items as a\x7d\x7d\x7b\x7b a \x7d\x7d\x7b\x7b/loop\x7d\x7d" {} none = .ok t ∧
      Agree (SameError (identity ⟨[.list [.int 1]]⟩)) Eq
        (t.render ⟨[.list [.int 1]]⟩ []
          [(.text "items", .collection 0), (.text "a", .text "x")])
        (t.render ⟨[.list [.int 1]]⟩ []
          [(.text "items", .collection 0), (.text "a", .text "y")]) := by
  let n : Node := .loop ⟨⟨0, 1, 0⟩, 36⟩ "#loop items as a" "items" "a"
    [.variable ⟨⟨20, 1, 20⟩, 27⟩ "a"]
  have parsed : parse "\x7b\x7b#loop items as a\x7d\x7d\x7b\x7b a \x7d\x7d\x7b\x7b/loop\x7d\x7d" =
    .ok ⟨36, [n]⟩ := by cbv
  have reads : (Document.mk 36 [n]).dependencies = ["items"] := by cbv
  have written (name : String) (w : WritingFault) :
      ¬ FailsWith (Stop.Unspoken ⟨[.list [.int 1]]⟩ w) (renderAll ⟨[.list [.int 1]]⟩ .strict
        [[(.text "items", .collection 0), (.text "a", .text name)]] [n]) := by
    have text : renderAll ⟨[.list [.int 1]]⟩ .strict
        [[(.text "items", .collection 0), (.text "a", .text name)]] [n] = .ok "1" := by cbv
    rw [text]
    exact not_failsWith_ok _
  refine ⟨_, by rw [Template.ofSource, parsed], ?_⟩
  refine (render_agree_of_dependencies (identity ⟨[.list [.int 1]]⟩) parsed rfl rfl
    fun p dependency => ?_).2.2 ?_
  · rw [reads, List.mem_singleton] at dependency
    subst dependency
    exact .ok rfl
  · exact speechlessAlike_iff.2 fun w => iff_of_false (written "x" w) (written "y" w)

/-- A mapping that holds an integer that cannot be written, and an empty one. -/
def hugeAndEmpty : Graph := ⟨[.map namelessHuge, .map []]⟩

/-- A path that is missing at its first name in two data is reported for the one, but not for the
other, which the message cannot describe. -/
theorem undescribed_data_disagree :
    ∃ t, Template.ofSource "\x7b\x7b a.b \x7d\x7d" {} none = .ok t ∧
      t.document.dependencies = ["a.b"] ∧
      (identity hugeAndEmpty).SameEnd
        ((Value.scope [namelessHuge]).resolve hugeAndEmpty (splitPath "a.b"))
        ((Value.scope [[]]).resolve hugeAndEmpty (splitPath "a.b")) ∧
      ¬ Agree (SameError (identity hugeAndEmpty)) Eq
        (t.render hugeAndEmpty [.collection 0] []) (t.render hugeAndEmpty [.collection 1] []) := by
  have path : splitPath "a.b" = ["a", "b"] := by cbv
  have reads : (Document.mk 9 [asksMember]).dependencies = ["a.b"] := by cbv
  have alike : Agree (identity hugeAndEmpty).SameStop Eq
      (renderAll hugeAndEmpty .strict [namelessHuge] [asksMember])
      (renderAll hugeAndEmpty .strict [[]] [asksMember]) := by
    rw [renderAll_asksMember rfl, renderAll_asksMember rfl]
    exact .error (.fault _ (missing_same _))
  let t : Template := ⟨⟨9, [asksMember]⟩, {}, none, some "\x7b\x7b a.b \x7d\x7d"⟩
  refine ⟨t, by rw [Template.ofSource, parse_asksMember], reads, ?_, ?_⟩
  · rw [path]
    exact .error (.fault (missing_same _))
  · rw [call_agree_iff (identity hugeAndEmpty) t rfl rfl alike]
    intro same
    obtain ⟨w, speechless⟩ := exists_speechless_asksMember hugeAndEmpty
    exact not_speechless_asksMember hugeAndEmpty w ((same rfl w).1 speechless)

end BraceTemplate
