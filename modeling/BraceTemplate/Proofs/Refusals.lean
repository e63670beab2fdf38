import Mathlib
import BraceTemplate.Proofs.Joins
import BraceTemplate.Proofs.Speechless
import BraceTemplate.Render.Template

/-!
# Renderings that end otherwise than promised

A rendering is to end with a text or, in strict mode, with the report of an undefined name or of a
value of a wrong type.  It does not always.  Some numbers cannot be used where they stand, and some
values cannot be written, and these stop a rendering with something else.

This file says which they are.  `Chokes` describes the directives that meet a number: the path has
an index of too many digits for the sequence it comes to, or a condition comes to a number without a
truth.  `Unwritten` describes those that have to write a value that cannot be written, into the
output or into a message.  The main result `render_documented_iff` says that a rendering ends as it
should exactly if the data make a scope, which `scope_eq_ok_iff` spells out, and no directive that
is come to does either; `huge_condition_undocumented` is a template that an integer stops.
-/

namespace BraceTemplate

/-! ## Numbers without a truth -/

/-- A number that has no truth: an integer outside the floating-point range, or a signaling "not a
number". -/
inductive Value.Truthless : Value → Prop
  | integer {n : Int} : floatBound ≤ n.natAbs → Truthless (.int n)
  | signaling {text : String} {mark : Nat} :
      Exact.isSignalingText text = true → Truthless (.decimal text mark)

lemma truth_eq_error_iff {g : Graph} {v : Value} :
    (∃ k, v.truth g = .error k) ↔ v.Truthless := by
  cases v with
  | int n =>
    by_cases huge : floatBound ≤ n.natAbs
    · simp [Value.truth, huge, Value.Truthless.integer huge]
    · simp only [Value.truth, huge, if_false, reduceCtorEq, exists_false, false_iff]
      rintro ⟨⟩
      contradiction
  | decimal text mark =>
    by_cases signal : Exact.isSignalingText text = true
    · simp [Value.truth, signal, Value.Truthless.signaling signal]
    · simp only [Value.truth, signal, Bool.false_eq_true, if_false, reduceCtorEq, exists_false,
        false_iff]
      rintro ⟨⟩
      contradiction
  | _ =>
    simp only [Value.truth, reduceCtorEq, exists_false, false_iff]
    rintro ⟨⟩

/-! ## Directives that choke -/

/-- A directive that branches on the value it reads. -/
def Node.IsCondition : Node → Prop
  | .conditional .. => True
  | _ => False

/-- A directive meets a number that cannot be used: an index of too many digits on its path, or the
value of a condition. -/
def Chokes (g : Graph) (s : Scope) (n : Node) : Prop :=
  ∃ path, n.reads = some path ∧
    (Overlong g (.scope s) path ∨
      n.IsCondition ∧ ∃ v, (Value.scope s).resolve g path = .ok v ∧ v.Truthless)

/-- A mode lets every failure through that is no fault. -/
lemma settle_passes_iff {α ι : Type} {mode : Mode} {form : ι → Failure}
    {substitute x : Except Failure α} (passes : ∀ i f, form i ≠ .fault f)
    (fine : ¬ ∃ i, substitute = .error (form i)) :
    (∃ i, mode.settle substitute x = .error (form i)) ↔ ∃ i, x = .error (form i) := by
  cases mode with
  | strict => rfl
  | lenient =>
    cases x with
    | ok a => rfl
    | error e =>
      cases e with
      | number k | writing w => rfl
      | fault f =>
        refine iff_of_false fine ?_
        rintro ⟨i, same⟩
        exact passes i f (Except.error.inj same).symm

/-- A name is looked up with no other failure than a fault. -/
lemma lookup_ne_form {ι : Type} {form : ι → Failure} {g : Graph} {mode : Mode} {s : Scope}
    {name : String} (passes : ∀ i f, form i ≠ .fault f) :
    ¬ ∃ i, s.lookup g mode name = .error (form i) := by
  rw [Scope.lookup, settle_passes_iff passes (by simp), require_eq]
  rintro ⟨i, failed⟩
  obtain ⟨e, -, same⟩ := mapError_eq_error_iff.1 failed
  exact passes i _ same.symm

/-- And so are the items of a loop. -/
lemma loopItems_ne_form {ι : Type} {form : ι → Failure} {g : Graph} {mode : Mode}
    {path : List String} {expression : String} {v : Value} (passes : ∀ i f, form i ≠ .fault f) :
    ¬ ∃ i, loopItems g mode path expression v = .error (form i) := by
  rw [loopItems, settle_passes_iff passes (by simp)]
  rintro ⟨i, failed⟩
  cases items : v.items? g <;> rw [items] at failed
  · exact passes i _ (Except.error.inj failed).symm
  · cases failed

lemma stamped_eq_number_iff {α : Type} {site : Span} {x : Except Failure α} :
    (∃ k, stamped site x = .error (.number k)) ↔ ∃ k, x = .error (.number k) := by
  cases x with
  | ok a => simp
  | error e => cases e <;> simp [Failure.at]

lemma walk_eq_number_iff {g : Graph} {mode : Mode} {v : Value} {path : List String} :
    (∃ k, v.walk g mode path = .error (.number k)) ↔ Overlong g v path := by
  rw [Value.walk, settle_passes_iff (by simp) (by simp), resolve_eq_number_iff]

lemma written_ne_number {g : Graph} {v : Value} : ¬ ∃ k, written g v = .error (.number k) := by
  rw [written]
  cases v.output g <;> simp [Except.mapError]

/-- What cannot be written is not refused as a number. -/
lemma writeReference_ne_number {g : Graph} {mode : Mode} {reference : Reference} {v : Value} :
    ¬ ∃ k, writeReference g mode reference v = .error (.number k) := by
  rw [writeReference, settle_passes_iff (by simp) written_ne_number, substitute]
  cases v.isAbsent g with
  | true => simp
  | false =>
    cases (v.kind g).isScalar with
    | true => exact written_ne_number
    | false => simp

/-- A settled walk comes to a value of some sort exactly if the walk does, unless the value that
stands in for a failure is of that sort. -/
lemma exists_walk_iff {g : Graph} {mode : Mode} {v : Value} {path : List String}
    {sort : Value → Prop} (undefined : ¬ sort .undefined) :
    (∃ w, v.walk g mode path = .ok w ∧ sort w) ↔ ∃ w, v.resolve g path = .ok w ∧ sort w := by
  cases mode with
  | strict => rfl
  | lenient =>
    rw [Value.walk]
    cases v.resolve g path with
    | ok w => simp [Mode.settle]
    | error e => cases e <;> simp [Mode.settle, undefined]

/-- **A directive is stopped by a number exactly if it chokes, in either mode.** -/
theorem work_eq_number_iff {g : Graph} {mode : Mode} {s : Scope} {n : Node} :
    (∃ k, n.work g mode s = .error (.number k)) ↔ Chokes g s n := by
  cases n with
  | text span content | comment span body => simp [Node.work, Chokes, Node.reads]
  | «variable» span name =>
    rw [Node.work, stamped_eq_number_iff]
    simp only [Chokes, Node.reads, Node.IsCondition, Option.some.injEq, exists_eq_left', false_and,
      or_false, not_overlong_name, iff_false]
    apply bind_ne_error (lookup_ne_form (by simp))
    intro v
    apply bind_ne_error writeReference_ne_number
    intro text
    exact pure_ne_error
  | accessor span body =>
    rw [Node.work, stamped_eq_number_iff, exists_bind_eq_error_iff, walk_eq_number_iff]
    simp only [Chokes, Node.reads, Node.IsCondition, Option.some.injEq, exists_eq_left', false_and,
      or_false, or_iff_left_iff_imp]
    rintro ⟨v, -, refused⟩
    refine absurd refused (bind_ne_error writeReference_ne_number ?_)
    intro text
    exact pure_ne_error
  | loop span body target item children =>
    rw [Node.work, stamped_eq_number_iff, exists_bind_eq_error_iff, walk_eq_number_iff]
    simp only [Chokes, Node.reads, Node.IsCondition, Option.some.injEq, exists_eq_left', false_and,
      or_false, or_iff_left_iff_imp]
    rintro ⟨v, -, refused⟩
    refine absurd refused (bind_ne_error (loopItems_ne_form (by simp)) ?_)
    intro items
    exact pure_ne_error
  | conditional span body target children =>
    rw [Node.work, exists_bind_eq_error_iff, stamped_eq_number_iff, walk_eq_number_iff]
    simp only [Chokes, Node.reads, Node.IsCondition, Option.some.injEq, exists_eq_left', true_and]
    apply or_congr Iff.rfl
    rw [← @exists_walk_iff g mode _ _ _ (by rintro ⟨⟩)]
    apply exists_congr
    intro v
    rw [stamped_eq_ok_iff]
    apply and_congr_right
    intro _
    rw [exists_bind_eq_error_iff, ← truth_eq_error_iff]
    cases v.truth g <;> simp [Except.mapError, pure, Except.pure]

/-! ## Values that have to be written -/

/-- A directive that writes the value it reads. -/
def Node.IsSubstitution : Node → Prop
  | .variable .. | .accessor .. => True
  | _ => False

/-- A substitution has to write a value that cannot be written.  A strict one takes scalars only. -/
def UnwrittenValue (g : Graph) (mode : Mode) (s : Scope) (n : Node) : Prop :=
  n.IsSubstitution ∧ ∃ path v, n.reads = some path ∧ (Value.scope s).resolve g path = .ok v ∧
    v.Unwritable g ∧ (mode = .strict → (v.kind g).isScalar = true)

/-- A directive walks to a value that lacks the next key and cannot be described. -/
def UnwrittenHolder (g : Graph) (s : Scope) (n : Node) : Prop :=
  ∃ path holder, n.walks = some path ∧ Lacks g (.scope s) path holder ∧ holder.Unwritable g

/-- A directive has to write a value that cannot be written, into the output or, in strict mode,
into a message. -/
def Unwritten (g : Graph) (mode : Mode) (s : Scope) (n : Node) : Prop :=
  UnwrittenValue g mode s n ∨ mode = .strict ∧ UnwrittenHolder g s n

lemma written_eq_writing_iff {g : Graph} {v : Value} :
    (∃ w, written g v = .error (.writing w)) ↔ v.Unwritable g := by
  rw [← Value.output_fails_iff, written]
  cases v.output g <;> simp [Except.mapError]

/-- A scalar cannot be taken for a substitution if it cannot be written, nor in lenient mode any
other value. -/
lemma writeReference_eq_writing_iff {g : Graph} {mode : Mode} {reference : Reference} {v : Value} :
    (∃ w, writeReference g mode reference v = .error (.writing w)) ↔
      v.Unwritable g ∧ (mode = .strict → (v.kind g).isScalar = true) := by
  rw [writeReference, substitute]
  cases absent : v.isAbsent g with
  | true =>
    have written := Value.not_unwritable_of_absent absent
    refine iff_of_false ?_ fun failed => written failed.1
    cases mode <;> simp [Mode.settle]
  | false =>
    cases scalar : (v.kind g).isScalar with
    | true =>
      have settled : mode.settle (written g v) (written g v) = written g v := by
        cases mode with
        | strict => rfl
        | lenient => cases written g v with
          | ok text => rfl
          | error e => cases e <;> rfl
      simp [settled, written_eq_writing_iff]
    | false => cases mode <;> simp [Mode.settle, written_eq_writing_iff]

lemma stamped_eq_writing_iff {α : Type} {site : Span} {x : Except Failure α} :
    (∃ w, stamped site x = .error (.writing w)) ↔ ∃ w, x = .error (.writing w) := by
  cases x with
  | ok a => simp
  | error e => cases e <;> simp [Failure.at]

lemma walk_ne_writing {g : Graph} {mode : Mode} {v : Value} {path : List String} :
    ¬ ∃ w, v.walk g mode path = .error (.writing w) := by
  rw [Value.walk, settle_passes_iff (by simp) (by simp)]
  rintro ⟨w, failed⟩
  exact resolve_ne_writing failed

lemma exists_lookup_iff {g : Graph} {mode : Mode} {s : Scope} {name : String}
    {sort : Value → Prop} (undefined : ¬ sort .undefined) :
    (∃ v, s.lookup g mode name = .ok v ∧ sort v) ↔
      ∃ v, (Value.scope s).resolve g [name] = .ok v ∧ sort v := by
  rw [Scope.lookup, require_eq]
  cases (Value.scope s).resolve g [name] with
  | ok v => cases mode <;> simp [Except.mapError, Mode.settle]
  | error e => cases mode <;> simp [Except.mapError, Mode.settle, undefined]

lemma not_unwritable_undefined {g : Graph} {mode : Mode} :
    ¬ (Value.undefined.Unwritable g ∧
      (mode = .strict → (Value.undefined.kind g).isScalar = true)) :=
  fun unwritten => Value.not_unwritable_of_absent rfl unwritten.1

/-- **A directive comes to something that cannot be written into the output exactly if it is a
substitution of such a value.** -/
theorem work_eq_writing_iff {g : Graph} {mode : Mode} {s : Scope} {n : Node} :
    (∃ w, n.work g mode s = .error (.writing w)) ↔ UnwrittenValue g mode s n := by
  cases n with
  | text span content | comment span body => simp [Node.work, UnwrittenValue, Node.IsSubstitution]
  | «variable» span name =>
    rw [Node.work, stamped_eq_writing_iff, exists_bind_eq_error_iff,
      or_iff_right (lookup_ne_form (by simp))]
    simp only [exists_bind_eq_error_iff, pure_ne_error, and_false, exists_false, or_false,
      writeReference_eq_writing_iff]
    refine (exists_lookup_iff not_unwritable_undefined).trans ?_
    simp [UnwrittenValue, Node.IsSubstitution, Node.reads]
  | accessor span body =>
    rw [Node.work, stamped_eq_writing_iff, exists_bind_eq_error_iff, or_iff_right walk_ne_writing]
    simp only [exists_bind_eq_error_iff, pure_ne_error, and_false, exists_false, or_false,
      writeReference_eq_writing_iff]
    refine (exists_walk_iff not_unwritable_undefined).trans ?_
    simp [UnwrittenValue, Node.IsSubstitution, Node.reads]
  | loop span body target item children =>
    rw [Node.work, stamped_eq_writing_iff]
    refine iff_of_false ?_ (fun substitution => substitution.1)
    apply bind_ne_error walk_ne_writing
    intro v
    apply bind_ne_error (loopItems_ne_form (by simp))
    intro items
    exact pure_ne_error
  | conditional span body target children =>
    rw [Node.work]
    refine iff_of_false ?_ (fun substitution => substitution.1)
    apply bind_ne_error
    · rw [stamped_eq_writing_iff]
      exact walk_ne_writing
    · intro v
      cases v.truth g <;> simp [Except.mapError, pure, Except.pure]

lemma exists_undescribed_iff {g : Graph} {s : Scope} {n : Node} :
    (∃ w, Undescribed g s n w) ↔ UnwrittenHolder g s n := by
  simp only [UnwrittenHolder, ← Value.describe_fails_iff, Undescribed, Fails]
  constructor
  · rintro ⟨w, path, holder, walks, lacks, described⟩
    exact ⟨path, holder, walks, lacks, w, described⟩
  · rintro ⟨path, holder, walks, lacks, w, described⟩
    exact ⟨w, path, holder, walks, lacks, described⟩

/-! ## Renderings that end as they should -/

/-- A rendering stopped in a way that is not reported as a fault. -/
def Stop.Undocumented (g : Graph) (e : Stop) : Prop :=
  (∃ k, e = .number k) ∨ (∃ w, e = .writing w) ∨ ∃ w, e.Unspoken g w

lemma work_undocumented_iff {g : Graph} {mode : Mode} {s : Scope} {n : Node} :
    FailsWith (Stop.Undocumented g) (n.work g mode s) ↔ Chokes g s n ∨ Unwritten g mode s n := by
  have unspoken : FailsWith (fun e => ∃ w, e.Unspoken g w) (n.work g mode s) ↔
      mode = .strict ∧ UnwrittenHolder g s n := by
    cases mode with
    | strict => simp [failsWith_exists_iff, work_unspoken_iff, exists_undescribed_iff]
    | lenient =>
      simp only [reduceCtorEq, false_and, iff_false]
      rintro ⟨_, failed, _, f, site, rfl, -⟩
      exact work_lenient_ne_fault ⟨f, site, failed⟩
  rw [show Stop.Undocumented g = fun e => (∃ k, e = .number k) ∨ (∃ w, e = .writing w) ∨
    ∃ w, e.Unspoken g w from rfl]
  rw [failsWith_or_iff, failsWith_or_iff, failsWith_form_iff, failsWith_form_iff,
    work_eq_number_iff, work_eq_writing_iff, unspoken, Unwritten]

/-- The data make a scope exactly if there is at most one argument, which is a mapping, and the name
of the template itself is not bound. -/
lemma scope_eq_ok_iff {g : Graph} {arguments : List Value} {bindings : Entries} {s : Scope} :
    Template.scope g arguments bindings = .ok s ↔
      Template.ownName ∉ bindings.names ∧
        ∃ base, (arguments = [] ∧ base = [] ∨
            ∃ v, arguments = [v] ∧ Scope.ofValue? g v = some base) ∧
          s = if bindings.isEmpty then base else bindings :: base := by
  rw [Template.scope]
  by_cases own : Template.ownName ∈ bindings.names
  · simp [own]
  · have unbound : bindings.names.contains Template.ownName = false := by simpa using own
    simp only [unbound, Bool.false_eq_true, if_false, own, not_false_eq_true, true_and]
    match arguments with
    | [] =>
      constructor
      · rintro ⟨⟩
        exact ⟨[], .inl ⟨rfl, rfl⟩, rfl⟩
      · rintro ⟨base, ⟨-, rfl⟩ | ⟨v, none, -⟩, rfl⟩
        · rfl
        · cases none
    | [v] =>
      cases mapping : Scope.ofValue? g v with
      | none => simp [mapping]
      | some base => simp [mapping, pure, Except.pure, @eq_comm _ s]
    | v :: w :: others => simp

/-- The ends of a rendering that were promised: a text and, in strict mode, the report of a name
that is undefined or of a value of a wrong type. -/
inductive Documented (mode : Mode) : Except TemplateError String → Prop
  | text (text : String) : Documented mode (.ok text)
  | undefinedName {d : RenderDiagnostic} {name : String} : mode = .strict →
      d.subject = .undefinedName name → Documented mode (.error (.diagnostic (.ofRender d)))
  | wrongType {d : RenderDiagnostic} {v : Value} : mode = .strict →
      d.subject = .wrongType v → Documented mode (.error (.diagnostic (.ofRender d)))

/-- The report of a fault is one of the promised ones. -/
lemma documented_diagnose (name source : Option String) (f : Fault) (message : String)
    (start : Position) : Documented .strict
      (.error (.diagnostic (.ofRender (f.diagnoseAt message name source start)))) := by
  have subject : (f.diagnoseAt message name source start).subject = f.subject := rfl
  cases same : f.subject with
  | unspecified => cases f <;> cases same
  | undefinedName missing => exact .undefinedName rfl (subject.trans same)
  | wrongType v => exact .wrongType rfl (subject.trans same)

/-- A call ends as promised unless the rendering stops otherwise. -/
lemma documented_iff {g : Graph} {t : Template} {arguments : List Value} {bindings : Entries}
    {s : Scope} (data : Template.scope g arguments bindings = .ok s) :
    Documented (t.mode g) (t.render g arguments bindings) ↔
      ¬ FailsWith (Stop.Undocumented g) (renderAll g (t.mode g) s t.document.nodes) := by
  rw [Template.render, data]
  simp only [Except.mapError, ok_bind]
  cases outcome : renderAll g (t.mode g) s t.document.nodes with
  | ok text => exact iff_of_true (.text _) (not_failsWith_ok text)
  | error e =>
    rw [failsWith_error_iff, error_bind]
    cases e with
    | number k => exact iff_of_false (by rintro ⟨⟩) (not_not.2 (.inl ⟨k, rfl⟩))
    | writing w => exact iff_of_false (by rintro ⟨⟩) (not_not.2 (.inr (.inl ⟨w, rfl⟩)))
    | fault f site =>
      cases mode : t.mode g with
      | lenient =>
        rw [mode] at outcome
        exact absurd outcome renderAll_lenient_ne_fault
      | strict =>
        simp only [Stop.report, Fault.report]
        cases message : f.message g with
        | ok text =>
          refine iff_of_true (documented_diagnose t.name t.source f text site.start) ?_
          simp [Stop.Undocumented, Stop.Unspoken, message]
        | error w =>
          refine iff_of_false (by rintro ⟨⟩) (not_not.2 (.inr (.inr ⟨w, f, site, rfl, message⟩)))

/-- **A rendering ends as promised exactly if the data make a scope and no directive that it comes
to chokes on a number or has to write what cannot be written.** -/
theorem render_documented_iff (g : Graph) (t : Template) (arguments : List Value)
    (bindings : Entries) :
    Documented (t.mode g) (t.render g arguments bindings) ↔
      ∃ s, Template.scope g arguments bindings = .ok s ∧
        ∀ u n, Reaches g (t.mode g) s t.document.nodes u n →
          ¬ Chokes g u n ∧ ¬ Unwritten g (t.mode g) u n := by
  have ends (s : Scope) : ¬ FailsWith (Stop.Undocumented g)
        (renderAll g (t.mode g) s t.document.nodes) ↔
      ∀ u n, Reaches g (t.mode g) s t.document.nodes u n →
        ¬ Chokes g u n ∧ ¬ Unwritten g (t.mode g) u n := by
    simp only [renderAll_failsWith_iff, work_undocumented_iff, not_exists, not_and, not_or]
  constructor
  · intro documented
    cases data : Template.scope g arguments bindings with
    | error e =>
      rw [Template.render, data] at documented
      cases documented
    | ok s => exact ⟨s, rfl, (ends s).1 ((documented_iff data).1 documented)⟩
  · rintro ⟨s, data, fine⟩
    exact (documented_iff data).2 ((ends s).2 fine)

/-! ## A condition on a number beyond the floating-point range -/

/-- Data that bind one name, to the least number beyond the range. -/
def beyondFloats : Entries := [(.text "n", .int floatBound)]

/-- Whichever the mode, a template that asks whether that number is true is stopped by it. -/
lemma beyondFloats_undocumented (strict : Bool) :
    ∃ t, Template.ofSource "\x7b\x7b#if n\x7d\x7dx\x7b\x7b/if\x7d\x7d"
        { strict := .bool strict } none = .ok t ∧
      ¬ Documented (t.mode ⟨[.map beyondFloats]⟩)
        (t.render ⟨[.map beyondFloats]⟩ [.collection 0] []) := by
  let g : Graph := ⟨[.map beyondFloats]⟩
  let n : Node := .conditional ⟨⟨0, 1, 0⟩, 17⟩ "#if n" "n" [.text ⟨⟨9, 1, 9⟩, 10⟩ "x"]
  have parsed : parse "\x7b\x7b#if n\x7d\x7dx\x7b\x7b/if\x7d\x7d" = .ok ⟨17, [n]⟩ := by cbv
  have reads : n.reads = some ["n"] := by cbv
  have found : (Value.scope [beyondFloats]).resolve g ["n"] = .ok (.int floatBound) := rfl
  have huge : Value.Truthless (.int floatBound) := .integer (Int.natAbs_natCast floatBound).ge
  have chokes : Chokes g [beyondFloats] n := ⟨["n"], reads, .inr ⟨trivial, _, found, huge⟩⟩
  refine ⟨_, by rw [Template.ofSource, parsed], fun documented => ?_⟩
  apply (documented_iff (s := [beyondFloats]) rfl).1 documented
  rw [renderAll_failsWith_iff]
  exact ⟨_, n, .head, work_undocumented_iff.2 (.inl chokes)⟩

/-- A condition on a huge number ends a rendering as nothing promises, in strict and in lenient
mode. -/
theorem huge_condition_undocumented :
    (∃ t, Template.ofSource "\x7b\x7b#if n\x7d\x7dx\x7b\x7b/if\x7d\x7d" {} none = .ok t ∧
      ¬ Documented (t.mode ⟨[.map beyondFloats]⟩)
        (t.render ⟨[.map beyondFloats]⟩ [.collection 0] [])) ∧
    ∃ t, Template.ofSource "\x7b\x7b#if n\x7d\x7dx\x7b\x7b/if\x7d\x7d"
        { strict := .bool false } none = .ok t ∧
      ¬ Documented (t.mode ⟨[.map beyondFloats]⟩)
        (t.render ⟨[.map beyondFloats]⟩ [.collection 0] []) :=
  ⟨beyondFloats_undocumented true, beyondFloats_undocumented false⟩

end BraceTemplate
