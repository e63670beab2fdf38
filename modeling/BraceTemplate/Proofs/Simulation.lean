import BraceTemplate.Proofs.Speechless

/-!
# Strict and lenient rendering side by side

Lenient rendering repeats whatever strict rendering gives apart from faults, and strict rendering
has a fault exactly if lenient rendering comes to a directive that it degrades.  What is raised
shows this, unless there is no message for the fault: then a strict rendering raises that failure
instead, and the lenient one goes on.

`Follows` is what holds of every rendering, `Simulates` what is promised of it.  The main result
`modes_simulate` says that they differ exactly on renderings that are `Speechless`;
`huge_number_parts_modes` is such a rendering.
-/

namespace BraceTemplate

variable {g : Graph} {s : Scope} {nodes : List Node} {run : Mode → Except Stop String}

/-- Strict and lenient rendering of a forest in a scope simulate each other. -/
structure Simulates (g : Graph) (s : Scope) (nodes : List Node) (run : Mode → Except Stop String) :
    Prop where
  text : ∀ text, run .strict = .ok text → run .lenient = .ok text
  other : ∀ e, ¬ e.IsFault → run .strict = .error e → run .lenient = .error e
  fault : FailsWith Stop.IsFault (run .strict) ↔
    ∃ t m, Reaches g .lenient s nodes t m ∧ Degrades g t m

/-- The same, but for faults without a message. -/
structure Follows (g : Graph) (s : Scope) (nodes : List Node) (run : Mode → Except Stop String) :
    Prop where
  text : ∀ text, run .strict = .ok text → run .lenient = .ok text
  other : ∀ e, ¬ e.IsFault → run .strict = .error e →
    run .lenient = .error e ∨ ∃ w, e = .writing w ∧ Speechless g s nodes w
  fault : FailsWith Stop.IsFault (run .strict) ↔
    (∃ t m, Reaches g .lenient s nodes t m ∧ Degrades g t m) ∧ ¬ ∃ w, Speechless g s nodes w

/-- A rendering that is speechless stopped with a fault. -/
lemma Speechless.degrades {w : WritingFault} (h : Speechless g s nodes w) :
    ∃ t m, Reaches g .lenient s nodes t m ∧ Degrades g t m := by
  obtain ⟨_, failed, f, site, rfl, -⟩ := renderAll_speechless_iff.2 h
  exact renderAll_strict_eq_fault_iff.1 ⟨f, site, failed⟩

/-- What follows simulates unless it is speechless. -/
lemma Follows.simulates_iff (h : Follows g s nodes run) :
    Simulates g s nodes run ↔ ¬ ∃ w, Speechless g s nodes w := by
  constructor
  · rintro simulates ⟨w, speechless⟩
    have fault := simulates.fault.2 speechless.degrades
    exact (h.fault.1 fault).2 ⟨w, speechless⟩
  · intro spoken
    refine ⟨h.text, fun e other failed => ?_, ?_⟩
    · obtain same | ⟨w, -, speechless⟩ := h.other e other failed
      · exact same
      · exact absurd ⟨w, speechless⟩ spoken
    · rw [h.fault, and_iff_left spoken]

/-! ## What is raised -/

lemma raised_isFault_iff {e : Stop} :
    (e.raised g).IsFault ↔ e.IsFault ∧ ¬ ∃ w, e.Unspoken g w := by
  cases e with
  | fault f site =>
    simp only [Stop.raised, Stop.IsFault, Stop.Unspoken]
    cases silent : f.message g <;> simp [silent]
  | number n | writing w => simp [Stop.raised, Stop.IsFault]

lemma raised_of_not_isFault {e : Stop} (other : ¬ e.IsFault) : e.raised g = e := by
  cases e with
  | fault f site => exact absurd ⟨f, site, rfl⟩ other
  | number n | writing w => rfl

lemma raised_of_unspoken {e : Stop} {w : WritingFault} (h : e.Unspoken g w) :
    e.raised g = .writing w := by
  obtain ⟨f, site, rfl, silent⟩ := h
  rw [Stop.raised, silent]

/-- Lenient rendering raises what it comes to. -/
lemma evaluateAll_lenient : evaluateAll g .lenient s nodes = renderAll g .lenient s nodes := by
  rw [evaluateAll]
  cases outcome : renderAll g .lenient s nodes with
  | ok text => rfl
  | error e =>
    have other : ¬ e.IsFault := by
      rintro ⟨f, site, rfl⟩
      exact renderAll_lenient_ne_fault outcome
    rw [Except.mapError, raised_of_not_isFault other]

/-! ## Main result -/

lemma evaluateAll_follows (g : Graph) (s : Scope) (nodes : List Node) :
    Follows g s nodes fun mode => evaluateAll g mode s nodes := by
  have related := renderAll_tolerates g s nodes
  refine ⟨fun text done => ?_, fun e other raised => ?_, ?_⟩
  · rw [evaluateAll_lenient]
    exact related.ok_of_ok (mapError_eq_ok_iff.1 done)
  · obtain ⟨e, failed, rfl⟩ := mapError_eq_error_iff.1 raised
    by_cases fault : e.IsFault
    · -- a fault that is not raised as one has no message
      obtain ⟨w, unspoken⟩ : ∃ w, e.Unspoken g w := by
        by_contra spoken
        exact other (raised_isFault_iff.2 ⟨fault, spoken⟩)
      exact .inr ⟨w, raised_of_unspoken unspoken, renderAll_speechless_iff.1 ⟨e, failed, unspoken⟩⟩
    · left
      obtain same | ⟨e', fault', failed'⟩ := related
      · rw [evaluateAll_lenient, ← same, failed, raised_of_not_isFault fault]
      · cases failed.symm.trans failed'
        exact absurd fault' fault
  · have faults : FailsWith Stop.IsFault (renderAll g .strict s nodes) ↔
        ∃ t m, Reaches g .lenient s nodes t m ∧ Degrades g t m := by
      rw [← renderAll_strict_eq_fault_iff]
      simp [FailsWith, Stop.IsFault]
    simp only [evaluateAll, failsWith_mapError_iff, raised_isFault_iff, ← faults,
      ← renderAll_speechless_iff]
    cases renderAll g .strict s nodes <;> simp

/-- **Strict and lenient rendering simulate each other,** on whole templates and on every node of
them, in every scope, unless the strict rendering is speechless. -/
theorem modes_simulate (g : Graph) (s : Scope) :
    (∀ nodes, Follows g s nodes (fun mode => evaluateAll g mode s nodes) ∧
      (Simulates g s nodes (fun mode => evaluateAll g mode s nodes) ↔
        ¬ ∃ w, Speechless g s nodes w)) ∧
    ∀ n : Node, Follows g s [n] (fun mode => n.evaluate g mode s) ∧
      (Simulates g s [n] (fun mode => n.evaluate g mode s) ↔ ¬ ∃ w, Speechless g s [n] w) := by
  have node : ∀ n : Node, Follows g s [n] fun mode => n.evaluate g mode s := by
    intro n
    have single : (fun mode => n.evaluate g mode s) = fun mode => evaluateAll g mode s [n] := by
      funext mode
      rw [evaluateAll_singleton]
    rw [single]
    exact evaluateAll_follows g s [n]
  refine ⟨fun nodes => ?_, fun n => ?_⟩
  · have follows := evaluateAll_follows g s nodes
    exact ⟨follows, follows.simulates_iff⟩
  · exact ⟨node n, (node n).simulates_iff⟩

/-- Where an integer keeps the data from being described, strict rendering raises that, and lenient
rendering goes on. -/
theorem huge_number_parts_modes :
    ∃ document, parse "\x7b\x7b a.b \x7d\x7d" = .ok document ∧
      ¬ Simulates ⟨[]⟩ [namelessHuge] document.nodes
        fun mode => evaluateAll ⟨[]⟩ mode [namelessHuge] document.nodes := by
  refine ⟨_, parse_asksMember, ?_⟩
  rw [(evaluateAll_follows _ _ _).simulates_iff, not_not]
  exact exists_speechless_asksMember ⟨[]⟩

end BraceTemplate
