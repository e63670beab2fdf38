import BraceTemplate.Proofs.Descriptions
import BraceTemplate.Proofs.Modes

/-!
# Faults without a message

The message for a missing property describes the value that lacks it.  Where that value cannot be
described there is no message, and what is raised is not the fault but this failure.  So a rendering
may stop with a fault that is never reported as one.

`Speechless` says which renderings these are, without the rendering: the directives come to are
those of a strict rendering, and one of them walks to a value that lacks the next key and has no
description.  `renderAll_speechless_iff` says that a strict rendering has a fault without a message
exactly there.  A lenient rendering has no faults, so nothing of this concerns it.
-/

namespace BraceTemplate

variable {g : Graph}

/-! ## Walks to a value that lacks a key -/

/-- A walk comes to a value that has no member under the next key. -/
inductive Lacks (g : Graph) : Value → List String → Value → Prop
  | here {v : Value} {key : String} {rest : List String} :
      v.member? g key = .ok none → Lacks g v (key :: rest) v
  | later {v m holder : Value} {key : String} {rest : List String} :
      v.member? g key = .ok (some m) → m.isAbsent g = false → Lacks g m rest holder →
      Lacks g v (key :: rest) holder

/-- The failure is that a value lacks a member. -/
def Failure.IsMissingOn (holder : Value) (e : Failure) : Prop :=
  ∃ path key, e = .fault (.missingProperty path key holder)

lemma step_failsWith_missing_iff {path : List String} {v holder : Value} {key : String} :
    FailsWith (Failure.IsMissingOn holder) (v.step g path key) ↔
      v.member? g key = .ok none ∧ holder = v := by
  unfold Value.step
  cases v.member? g key with
  | error n => simp [Failure.IsMissingOn]
  | ok member =>
    cases member with
    | none => simp [Failure.IsMissingOn, eq_comm]
    | some m => cases absent : m.isAbsent g <;> simp [absent, Failure.IsMissingOn]

lemma foldlM_step_failsWith_missing_iff {path keys : List String} {v holder : Value} :
    FailsWith (Failure.IsMissingOn holder) (keys.foldlM (Value.step g path) v) ↔
      Lacks g v keys holder := by
  induction keys generalizing v with
  | nil =>
    refine iff_of_false (not_failsWith_ok v) ?_
    rintro ⟨⟩
  | cons key keys ih =>
    rw [List.foldlM_cons, failsWith_bind_iff, step_failsWith_missing_iff]
    simp only [ih, step_eq_ok_iff]
    constructor
    · rintro (⟨missing, rfl⟩ | ⟨m, ⟨found, present⟩, later⟩)
      · exact .here missing
      · exact .later found present later
    · rintro (missing | ⟨found, present, later⟩)
      · exact .inl ⟨missing, rfl⟩
      · exact .inr ⟨_, ⟨found, present⟩, later⟩

/-! ## Faults without a message -/

/-- Only the message for a missing property can fail, where its holder cannot be described. -/
lemma message_eq_error_iff {f : Fault} {w : WritingFault} :
    f.message g = .error w ↔
      ∃ path key holder, f = .missingProperty path key holder ∧ holder.describe g = .error w := by
  cases f with
  | missingProperty path key holder =>
    simp only [Fault.message, Fault.missingProperty.injEq]
    cases described : holder.describe g <;> simp [described, pure, Except.pure]
  | _ => simp [Fault.message]

/-- The failure is a fault that has no message. -/
def Failure.Unspoken (g : Graph) (w : WritingFault) (e : Failure) : Prop :=
  ∃ f, e = .fault f ∧ f.message g = .error w

/-- The rendering stopped with a fault that has no message. -/
def Stop.Unspoken (g : Graph) (w : WritingFault) (e : Stop) : Prop :=
  ∃ f site, e = .fault f site ∧ f.message g = .error w

lemma failure_unspoken_iff {w : WritingFault} {e : Failure} :
    e.Unspoken g w ↔ ∃ holder, e.IsMissingOn holder ∧ holder.describe g = .error w := by
  simp only [Failure.Unspoken, Failure.IsMissingOn, message_eq_error_iff]
  constructor
  · rintro ⟨_, rfl, path, key, holder, rfl, described⟩
    exact ⟨holder, ⟨path, key, rfl⟩, described⟩
  · rintro ⟨holder, ⟨path, key, rfl⟩, described⟩
    exact ⟨_, rfl, path, key, holder, rfl, described⟩

lemma resolve_failsWith_missing_iff {v holder : Value} {path : List String} :
    FailsWith (Failure.IsMissingOn holder) (v.resolve g path) ↔ Lacks g v path holder :=
  foldlM_step_failsWith_missing_iff

/-- A walk has a fault without a message exactly if it comes to a value that lacks the next key and
has no description. -/
lemma resolve_unspoken_iff {v : Value} {path : List String} {w : WritingFault} :
    FailsWith (Failure.Unspoken g w) (v.resolve g path) ↔
      ∃ holder, Lacks g v path holder ∧ holder.describe g = .error w := by
  simp only [← resolve_failsWith_missing_iff, FailsWith, failure_unspoken_iff]
  constructor
  · rintro ⟨e, failed, holder, missing, described⟩
    exact ⟨holder, ⟨e, failed, missing⟩, described⟩
  · rintro ⟨holder, ⟨e, failed, missing⟩, described⟩
    exact ⟨e, failed, holder, missing, described⟩

/-! ## Directives that fail without a message -/

/-- The path that a directive walks; a variable is looked up by its name alone. -/
def Node.walks : Node → Option (List String)
  | .text _ _ | .comment _ _ | .variable _ _ => none
  | .accessor _ body => some (splitPath body)
  | .loop _ _ target _ _ | .conditional _ _ target _ => some (splitPath target)

/-- A directive walks to a value that lacks the next key and has no description. -/
def Undescribed (g : Graph) (s : Scope) (n : Node) (w : WritingFault) : Prop :=
  ∃ path holder, n.walks = some path ∧ Lacks g (.scope s) path holder ∧
    holder.describe g = .error w

variable {s : Scope} {w : WritingFault}

lemma stamped_unspoken_iff {α : Type} {site : Span} {x : Except Failure α} :
    FailsWith (Stop.Unspoken g w) (stamped site x) ↔ FailsWith (Failure.Unspoken g w) x := by
  rw [stamped, failsWith_mapError_iff]
  cases x with
  | ok a => simp
  | error e => cases e <;> simp [Stop.Unspoken, Failure.Unspoken, Failure.at]

lemma written_spoken {v : Value} : ¬ FailsWith (Failure.Unspoken g w) (written g v) := by
  rw [written, failsWith_mapError_iff]
  cases v.output g <;> simp [Failure.Unspoken]

lemma lookup_spoken {name : String} :
    ¬ FailsWith (Failure.Unspoken g w) (s.lookup g .strict name) := by
  rw [Scope.lookup, settle_strict, require_eq, failsWith_mapError_iff]
  cases (Value.scope s).resolve g [name] <;> simp [Failure.Unspoken, Fault.message]

lemma writeReference_spoken {reference : Reference} {v : Value} :
    ¬ FailsWith (Failure.Unspoken g w) (writeReference g .strict reference v) := by
  rw [writeReference, settle_strict, substitute]
  cases v.isAbsent g with
  | true => simp
  | false =>
    cases (v.kind g).isScalar with
    | true => simpa using written_spoken
    | false => simp [Failure.Unspoken, Fault.message]

lemma loopItems_spoken {path : List String} {expression : String} {v : Value} :
    ¬ FailsWith (Failure.Unspoken g w) (loopItems g .strict path expression v) := by
  rw [loopItems, settle_strict]
  cases v.items? g <;> simp [Failure.Unspoken, Fault.message]

/-- A strict directive has a fault without a message exactly if it walks to such a value. -/
lemma work_unspoken_iff {n : Node} :
    FailsWith (Stop.Unspoken g w) (n.work g .strict s) ↔ Undescribed g s n w := by
  cases n with
  | text span content | comment span body => simp [Node.work, Undescribed, Node.walks]
  | «variable» span name =>
    simp only [Node.work, Undescribed, Node.walks, reduceCtorEq, false_and, exists_false, iff_false,
      stamped_unspoken_iff]
    apply not_failsWith_bind lookup_spoken
    intro v
    apply not_failsWith_bind writeReference_spoken
    intro text
    exact not_failsWith_ok _
  | accessor span body =>
    rw [Node.work, stamped_unspoken_iff, failsWith_bind_iff, Value.walk, settle_strict,
      resolve_unspoken_iff]
    simp only [Undescribed, Node.walks, Option.some.injEq, exists_eq_left', or_iff_left_iff_imp,
      exists_and_left]
    rintro ⟨v, -, failed⟩
    refine absurd failed (not_failsWith_bind writeReference_spoken ?_)
    intro text
    exact not_failsWith_ok _
  | loop span body target item children =>
    rw [Node.work, stamped_unspoken_iff, failsWith_bind_iff, Value.walk, settle_strict,
      resolve_unspoken_iff]
    simp only [Undescribed, Node.walks, Option.some.injEq, exists_eq_left', or_iff_left_iff_imp,
      exists_and_left]
    rintro ⟨v, -, failed⟩
    refine absurd failed (not_failsWith_bind loopItems_spoken ?_)
    intro items
    exact not_failsWith_ok _
  | conditional span body target children =>
    rw [Node.work, failsWith_bind_iff, stamped_unspoken_iff, Value.walk, settle_strict,
      resolve_unspoken_iff]
    simp only [Undescribed, Node.walks, Option.some.injEq, exists_eq_left', or_iff_left_iff_imp,
      exists_and_left]
    rintro ⟨v, -, failed⟩
    cases truth : v.truth g <;>
      simp [truth, Except.mapError, pure, Except.pure, Stop.Unspoken] at failed

/-! ## Renderings that stop without a message -/

/-- A strict rendering comes to a directive that walks to a value that lacks the next key and has no
description. -/
def Speechless (g : Graph) (s : Scope) (nodes : List Node) (w : WritingFault) : Prop :=
  ∃ t m, Reaches g .strict s nodes t m ∧ Undescribed g t m w

/-- **A strict rendering has a fault without a message exactly if it comes to such a directive.** -/
theorem renderAll_speechless_iff {nodes : List Node} :
    FailsWith (Stop.Unspoken g w) (renderAll g .strict s nodes) ↔ Speechless g s nodes w := by
  rw [renderAll_failsWith_iff]
  simp only [work_unspoken_iff, Speechless]

/-- A lenient rendering has no fault, and so none without a message. -/
lemma renderAll_lenient_spoken {nodes : List Node} :
    ¬ FailsWith (Stop.Unspoken g w) (renderAll g .lenient s nodes) := by
  rintro ⟨_, failed, f, site, rfl, -⟩
  exact renderAll_lenient_ne_fault failed

/-! ## Two scopes side by side -/

/-- Strict renderings in two scopes are without the same messages. -/
def SpeechlessAlike (g : Graph) (mode : Mode) (s₁ s₂ : Scope) (nodes : List Node) : Prop :=
  mode = .strict → ∀ w, Speechless g s₁ nodes w ↔ Speechless g s₂ nodes w

lemma speechlessAlike_iff {mode : Mode} {s₁ s₂ : Scope} {nodes : List Node} :
    SpeechlessAlike g mode s₁ s₂ nodes ↔
      ∀ w, FailsWith (Stop.Unspoken g w) (renderAll g mode s₁ nodes) ↔
        FailsWith (Stop.Unspoken g w) (renderAll g mode s₂ nodes) := by
  cases mode with
  | strict => simp only [SpeechlessAlike, forall_const, renderAll_speechless_iff]
  | lenient =>
    refine iff_of_true nofun fun w => ?_
    exact iff_of_false renderAll_lenient_spoken renderAll_lenient_spoken

/-! ## A path on data without a description -/

/-- Data that bind no name, and hold an integer that cannot be written. -/
def namelessHuge : Entries := [(.int 7, .int leastOverlarge)]

/-- The directive in a template that asks for a member of a name. -/
def asksMember : Node := .accessor ⟨⟨0, 1, 0⟩, 9⟩ "a.b"

lemma parse_asksMember : parse "\x7b\x7b a.b \x7d\x7d" = .ok ⟨9, [asksMember]⟩ := by cbv

/-- Where the name is not bound, the directive reports it as missing on all that is bound. -/
lemma renderAll_asksMember {s : Scope} (unbound : s.valueOf? "a" = none) :
    renderAll g .strict s [asksMember] =
      .error (.fault (.missingProperty ["a", "b"] "a" (.scope s)) asksMember.span) := by
  have path : splitPath "a.b" = ["a", "b"] := by cbv
  refine renderAll_eq_error_iff.2 ⟨s, asksMember, .head, ?_⟩
  have first : (Value.scope s).step g ["a", "b"] "a" =
      .error (.fault (.missingProperty ["a", "b"] "a" (.scope s))) := by
    rw [Value.step, Value.member?, unbound]
  rw [asksMember, Node.work, path, Value.walk, settle_strict, Value.resolve, List.foldlM_cons,
    first]
  rfl

lemma exists_describe_namelessHuge (g : Graph) :
    ∃ w, (Value.scope [namelessHuge]).describe g = .error w := by
  have entries : (Value.scope [namelessHuge]).entries? g = some namelessHuge := rfl
  have fails : Fails ((Value.scope [namelessHuge]).describe g) := by
    rw [Value.describe_fails_iff, Value.unwritable_iff_of_entries entries]
    exact ⟨_, List.mem_singleton_self _, .inr (Value.unwritable_int_iff.2 overlarge_leastOverlarge)⟩
  exact fails

/-- On these data the directive has no name to report, for they cannot be described. -/
lemma exists_speechless_asksMember (g : Graph) :
    ∃ w, Speechless g [namelessHuge] [asksMember] w := by
  obtain ⟨w, undescribed⟩ := exists_describe_namelessHuge g
  refine ⟨w, renderAll_speechless_iff.1 ⟨_, renderAll_asksMember rfl, ?_⟩⟩
  exact ⟨_, _, rfl, message_eq_error_iff.2 ⟨_, _, _, rfl, undescribed⟩⟩

/-- On no data at all it has. -/
lemma not_speechless_asksMember (g : Graph) (w : WritingFault) :
    ¬ Speechless g [[]] [asksMember] w := by
  have described : (Value.scope [[]]).describe g = .ok "\x7b\x7d" := by cbv
  rw [← renderAll_speechless_iff, renderAll_asksMember rfl, failsWith_error_iff]
  rintro ⟨f, site, ⟨⟩, silent⟩
  obtain ⟨_, _, holder, ⟨⟩, undescribed⟩ := message_eq_error_iff.1 silent
  rw [described] at undescribed
  cases undescribed

end BraceTemplate
