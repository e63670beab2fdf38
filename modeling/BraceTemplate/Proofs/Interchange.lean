import BraceTemplate.Proofs.Copies
import BraceTemplate.Proofs.Footprint

/-!
# Scopes in place of others

Renderings in scopes with the same look-ups agree (`renderAll_agree_of_lookups`), since a template
reads nothing but paths from names.  Only a message may tell the scopes apart, for it describes all
that a scope holds.

Scopes that are described in the same words, and still are when loops have put further layers on
both, can be interchanged (`Interchange`): renderings in them also raise and report the same
(`renderAll_said`).  Here failures are compared with their messages (`Said`).

So a rendering does not depend on the places that collections have in the data: the main result
`copies_render_alike` is about calls with a copy of the data.
-/

namespace BraceTemplate

open Sameness

variable {g : Graph} (S : Sameness g)

/-! ## The same look-ups -/

/-- Two scopes bind the same names, and to the same values. -/
def SameLookups (s₁ s₂ : Scope) : Prop :=
  ∀ name, Option.Rel S.same (s₁.valueOf? name) (s₂.valueOf? name)

/-- Walks that start from the same names end in the same way, if a name that is missing on the one
scope is as good as missing on the other. -/
lemma resolve_agree {S : Sameness g} {F : Failure → Failure → Prop} (c : S.Compares F)
    {s₁ s₂ : Scope} (same : SameLookups S s₁ s₂)
    (missing : ∀ path key, F (.fault (.missingProperty path key (.scope s₁)))
      (.fault (.missingProperty path key (.scope s₂))))
    {path : List String} (nonempty : path ≠ []) :
    Agree F S.same ((Value.scope s₁).resolve g path) ((Value.scope s₂).resolve g path) := by
  obtain ⟨first, rest, rfl⟩ := List.exists_cons_of_ne_nil nonempty
  have found := same first
  cases left : s₁.valueOf? first with
  | none =>
    rw [left] at found
    rw [resolve_scope_cons, resolve_scope_cons, left, eq_none_of_rel_none found]
    exact .error (missing _ first)
  | some v =>
    rw [left] at found
    obtain ⟨w, right, same⟩ := exists_of_rel_some found
    exact resolve_agree_of_bound c left right same

/-- **Renderings in scopes that bind the same agree.** -/
theorem renderAll_agree_of_lookups {s₁ s₂ : Scope} (same : SameLookups S s₁ s₂) (mode : Mode)
    (nodes : List Node) :
    Agree S.SameStop Eq (renderAll g mode s₁ nodes) (renderAll g mode s₂ nodes) := by
  have sees : Sees S [] (outsidePathsAll [] nodes) s₁ s₂ := by
    constructor
    · intro name none
      cases none
    · intro path there
      obtain ⟨first, rest, rfl, -⟩ := exists_of_mem_outsidePathsAll there
      exact resolve_agree S.compares_sameFailure same (fun _ _ => .fault S.missing_same) (by simp)
  exact renderAll_agree S mode sees

/-! ## The same messages -/

/-- The failures are the same, and so are their messages. -/
inductive Said : Failure → Failure → Prop
  | fault {f f' : Fault} :
      S.SameFault f f' → f.message g = f'.message g → Said (.fault f) (.fault f')
  | number (n : NumberFault) : Said (.number n) (.number n)
  | writing (w : WritingFault) : Said (.writing w) (.writing w)

/-- The renderings stopped with the same failure and the same message, at the same directive. -/
inductive SaidStop : Stop → Stop → Prop
  | fault {f f' : Fault} (site : Span) :
      S.SameFault f f' → f.message g = f'.message g → SaidStop (.fault f site) (.fault f' site)
  | number (n : NumberFault) : SaidStop (.number n) (.number n)
  | writing (w : WritingFault) : SaidStop (.writing w) (.writing w)

lemma said_missing {path : List String} {key : String} {v w : Value}
    (described : v.describe g = w.describe g) :
    Said S (.fault (.missingProperty path key v)) (.fault (.missingProperty path key w)) :=
  .fault S.missing_same (by simp only [Fault.message, described])

/-- Failures can be compared with their messages where the same values are described alike. -/
lemma compares_said (described : ∀ {v w}, S.same v w → v.describe g = w.describe g) :
    S.Compares (Said S) where
  missingVariable name := .fault ⟨rfl, .undefinedName name, rfl⟩ rfl
  missingProperty same := said_missing S (described same)
  nullProperty _ key := .fault ⟨rfl, .undefinedName key, rfl⟩ rfl
  unsupportedType same :=
    .fault ⟨rfl, .wrongType same, rfl⟩ (by simp only [Fault.message, S.kind same])
  notIterable same := .fault ⟨rfl, .wrongType same, rfl⟩ rfl
  number := .number
  writing := .writing
  settled := by
    rintro _ _ (⟨same, -⟩ | n | w)
    · exact .inr ⟨_, _, rfl, rfl⟩
    · exact .inl rfl
    · exact .inl rfl

lemma saidStop_at {e e' : Failure} (site : Span) (h : Said S e e') :
    SaidStop S (e.at site) (e'.at site) := by
  cases h with
  | fault same message => exact .fault site same message
  | number n => exact .number n
  | writing w => exact .writing w

lemma eq_of_sameSubject {x y : RenderSubject} (h : (identity g).SameSubject x y) : x = y := by
  cases h with
  | unspecified | undefinedName name => rfl
  | wrongType equal => exact congrArg _ equal

namespace SaidStop

variable {S} {e e' : Stop}

lemma same (h : SaidStop S e e') : S.SameStop e e' := by
  cases h with
  | fault site same => exact .fault site same
  | number n => exact .number n
  | writing w => exact .writing w

/-- The same is raised. -/
lemma raised (h : SaidStop S e e') : S.SameStop (e.raised g) (e'.raised g) := by
  rw [raised_same_iff S h.same]
  intro w
  cases h with
  | fault site same message => rw [unspoken_fault_iff, unspoken_fault_iff, message]
  | number n | writing w => rfl

/-- And the reports are the same. -/
lemma report (h : SaidStop S e e') (name source : Option String) :
    SameError S (e.report g name source) (e'.report g name source) :=
  (report_same_iff S name source h.same).2 h.raised

/-- Where the same values are equal, so are the reports. -/
lemma report_eq (h : SaidStop (identity g) e e') (name source : Option String) :
    e.report g name source = e'.report g name source := by
  cases h with
  | number n | writing w => rfl
  | @fault f f' site same message =>
    simp only [Stop.report, Fault.report, Fault.diagnoseAt, Fault.diagnose, message, same.code,
      eq_of_sameSubject same.subject, same.expression]

end SaidStop

/-! ## Interchange -/

/-- Scopes that bind the same and are described alike, and of which this stays true when loops put
layers on them. -/
structure Interchange (P : Scope → Scope → Prop) : Prop where
  lookups : ∀ {t u}, P t u → SameLookups S t u
  described : ∀ {t u}, P t u → (Value.scope t).describe g = (Value.scope u).describe g
  child : ∀ {t u}, P t u → ∀ item {v w}, S.same v w → P (t.child item v) (u.child item w)

variable {S} {P : Scope → Scope → Prop}

/-- **Renderings in scopes that can be interchanged end in the same words.** -/
theorem renderAll_said (described : ∀ {v w}, S.same v w → v.describe g = w.describe g)
    (i : Interchange S P) {t u : Scope} (related : P t u) (mode : Mode) (nodes : List Node) :
    Agree (SaidStop S) Eq (renderAll g mode t nodes) (renderAll g mode u nodes) := by
  refine renderAll_agree_of_work (P := fun _ => P) ?_ id related
  intro n rest t u related
  have reads : ∀ own, n.reads = some own → own ≠ [] →
      Agree (Said S) S.same ((Value.scope t).resolve g own) ((Value.scope u).resolve g own) :=
    fun own _ nonempty => resolve_agree (compares_said S described) (i.lookups related)
      (fun _ _ => said_missing S (i.described related)) nonempty
  refine (work_agree (compares_said S described) (saidStop_at S) mode n reads).imp ?_
  intro w w' same
  refine ⟨same.text, same.scopes.imp fun t' u' entered => ?_⟩
  cases entered with
  | loop value => exact i.child related _ value
  | conditional => exact related

/-- Nothing that is rendered tells the one scope from the other. -/
structure RenderSame (S : Sameness g) (s₁ s₂ : Scope) : Prop where
  node : ∀ mode (n : Node), Agree S.SameStop Eq (n.evaluate g mode s₁) (n.evaluate g mode s₂)
  forest : ∀ mode nodes, Agree S.SameStop Eq (evaluateAll g mode s₁ nodes)
    (evaluateAll g mode s₂ nodes)
  call : ∀ (t : Template) {arguments₁ arguments₂ : List Value} {bindings₁ bindings₂ : Entries},
    Template.scope g arguments₁ bindings₁ = .ok s₁ →
    Template.scope g arguments₂ bindings₂ = .ok s₂ →
    Agree (SameError S) Eq (t.render g arguments₁ bindings₁) (t.render g arguments₂ bindings₂)

/-- What can be interchanged is rendered the same. -/
lemma renderSame_of_interchange (described : ∀ {v w}, S.same v w → v.describe g = w.describe g)
    (i : Interchange S P) {s₁ s₂ : Scope} (related : P s₁ s₂) : RenderSame S s₁ s₂ := by
  have forest (mode : Mode) (nodes : List Node) :
      Agree S.SameStop Eq (evaluateAll g mode s₁ nodes) (evaluateAll g mode s₂ nodes) :=
    (renderAll_said described i related mode nodes).mapError fun _ _ said => said.raised
  refine ⟨fun mode n => ?_, forest, ?_⟩
  · rw [← evaluateAll_singleton, ← evaluateAll_singleton]
    exact forest mode [n]
  · intro t _ _ _ _ first second
    have texts := renderAll_said described i related (t.mode g) t.document.nodes
    rw [Template.render, Template.render, first, second]
    refine (texts.mapError fun _ _ said => said.report t.name t.source).bind ?_
    rintro text _ rfl
    exact .ok rfl

/-! ## Copies -/

lemma names_copy {R : Nat → Nat → Prop} {es fs : Entries} (h : CopyEntries R es fs) :
    es.names = fs.names := by
  induction h with
  | nil => rfl
  | cons here _ ih =>
    obtain ⟨k, -⟩ := here
    cases k <;> simp [Entries.names] at ih ⊢ <;> exact ih

section

variable {R : Nat → Nat → Prop} (c : Copying g R)

include c

lemma ofValue?_copy {v w : Value} (h : Copy R v w) :
    Option.Rel (List.Forall₂ (CopyEntries R)) (Scope.ofValue? g v) (Scope.ofValue? g w) := by
  have layers := layers_copy c h
  have entries := entries_copy c h
  rw [Scope.ofValue?, Scope.ofValue?]
  generalize v.layers? g = x, w.layers? g = y at layers ⊢
  generalize v.entries? g = x', w.entries? g = y' at entries ⊢
  cases layers with
  | some layers => exact .some layers
  | none =>
    cases entries with
    | some entries => exact .some (.cons entries .nil)
    | none => exact .none

/-- A call with a copy of the data is refused for the same reason, or makes a copy of the scope. -/
lemma scope_copy {data data' : List Value} {k k' : Entries}
    (copied : List.Forall₂ (Copy R) data data') (bound : CopyEntries R k k') :
    Agree Eq (List.Forall₂ (CopyEntries R)) (Template.scope g data k)
      (Template.scope g data' k') := by
  have front {base base' : Scope} (behind : List.Forall₂ (CopyEntries R) base base') :
      List.Forall₂ (CopyEntries R) (if k.isEmpty then base else k :: base)
        (if k'.isEmpty then base' else k' :: base') := by
    cases bound with
    | nil => exact behind
    | cons here later => exact .cons (.cons here later) behind
  rw [Template.scope, Template.scope, names_copy bound]
  split
  · exact .error rfl
  · cases copied with
    | nil => exact .ok (front .nil)
    | @cons v w _ _ copy others =>
      cases others with
      | nil =>
        have made := ofValue?_copy c copy
        simp only
        generalize Scope.ofValue? g v = x, Scope.ofValue? g w = y at made ⊢
        cases made with
        | none => exact .error rfl
        | some base => exact .ok (front base)
      | cons _ more =>
        simp only [List.length_cons, more.length_eq]
        exact .error rfl

/-- Copies of scopes can be interchanged. -/
lemma interchange_copies : Interchange (copies c) (List.Forall₂ (CopyEntries R)) where
  lookups h name := scope_valueOf?_copy name h
  described h := describe_copy c (.scope h)
  child h item v w same := by
    have binding : Keyed (Copy R) (Key.text item, v) (Key.text item, w) := ⟨_, same⟩
    exact .cons (.cons binding .nil) h

/-- **A rendering does not depend on the places of collections in its data.**  A call with a copy of
the data is refused for the same reason, or nothing that is rendered tells the scope that it makes
from that of the data. -/
theorem copies_render_alike {data data' : List Value} {k k' : Entries}
    (copied : List.Forall₂ (Copy R) data data') (bound : CopyEntries R k k') :
    Agree Eq (RenderSame (copies c)) (Template.scope g data k) (Template.scope g data' k') :=
  (scope_copy c copied bound).imp fun _ _ h =>
    renderSame_of_interchange (describe_copy c) (interchange_copies c) h

end

end BraceTemplate
