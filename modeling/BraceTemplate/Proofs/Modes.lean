import BraceTemplate.Proofs.Evaluation
import BraceTemplate.Proofs.Segments
import BraceTemplate.Proofs.Walks

/-!
# Strict and lenient rendering

The mode of a rendering is asked for at every look-up, at every substitution and at every loop.
This file says what comes of it for a whole rendering.

The two modes go through the same steps up to the first fault.  `Tolerates` is that relation
between two outcomes, and it passes from the single look-up through sequences of steps to the
rendering (`renderAll_tolerates`).  Where a strict rendering has a fault is said without the strict
rendering: `Degrades` describes the directives that have nothing fit to work with, by the path they
read and the value they find, and `work_strict_eq_fault_iff` says that these have a fault of their
own.

The main result `renderAll_strict_eq_fault_iff` says that strict rendering has a fault exactly if
lenient rendering comes to a directive that it degrades.
-/

namespace BraceTemplate

/-! ## Tolerated errors -/

/-- The second outcome is the first, unless the first is an error that the second tolerates. -/
def Tolerates {ε α : Type} (tolerated : ε → Prop) (x y : Except ε α) : Prop :=
  x = y ∨ ∃ e, tolerated e ∧ x = .error e

namespace Tolerates

variable {ε α β : Type} {tolerated : ε → Prop}

lemma refl (x : Except ε α) : Tolerates tolerated x x := .inl rfl

/-- Steps in sequence tolerate what each of them does. -/
lemma bind {x y : Except ε α} {f f' : α → Except ε β} (first : Tolerates tolerated x y)
    (next : ∀ a, Tolerates tolerated (f a) (f' a)) : Tolerates tolerated (x >>= f) (y >>= f') := by
  obtain rfl | ⟨e, fine, rfl⟩ := first
  · cases x with
    | error e => exact .refl _
    | ok a => exact next a
  · exact .inr ⟨e, fine, rfl⟩

lemma mapM {f f' : α → Except ε β} (each : ∀ a, Tolerates tolerated (f a) (f' a))
    (as : List α) : Tolerates tolerated (as.mapM f) (as.mapM f') := by
  induction as with
  | nil => exact .refl _
  | cons a as ih =>
    rw [List.mapM_cons, List.mapM_cons]
    apply (each a).bind
    intro b
    apply ih.bind
    intro bs
    exact .refl _

end Tolerates

/-- A failure that is a misfit of template and data. -/
def Failure.IsFault (e : Failure) : Prop := ∃ f, e = .fault f

/-- An end of a rendering that is a misfit of template and data. -/
def Stop.IsFault (e : Stop) : Prop := ∃ f site, e = .fault f site

@[simp] lemma settle_strict {α : Type} (substitute outcome : Except Failure α) :
    Mode.strict.settle substitute outcome = outcome := rfl

lemma settle_tolerates {α : Type} (substitute outcome : Except Failure α) :
    Tolerates Failure.IsFault (Mode.strict.settle substitute outcome)
      (Mode.lenient.settle substitute outcome) := by
  cases outcome with
  | ok a => exact .refl _
  | error e =>
    cases e with
    | number n | writing w => exact .refl _
    | fault f => exact .inr ⟨_, ⟨f, rfl⟩, rfl⟩

lemma stamped_tolerates {α : Type} (site : Span) {x y : Except Failure α}
    (h : Tolerates Failure.IsFault x y) :
    Tolerates Stop.IsFault (stamped site x) (stamped site y) := by
  obtain rfl | ⟨_, ⟨f, rfl⟩, rfl⟩ := h
  · exact .refl _
  · exact .inr ⟨_, ⟨f, site, rfl⟩, rfl⟩

lemma lookup_tolerates (g : Graph) (s : Scope) (name : String) :
    Tolerates Failure.IsFault (s.lookup g .strict name) (s.lookup g .lenient name) :=
  settle_tolerates _ _

lemma walk_tolerates (g : Graph) (v : Value) (path : List String) :
    Tolerates Failure.IsFault (v.walk g .strict path) (v.walk g .lenient path) :=
  settle_tolerates _ _

lemma writeReference_tolerates (g : Graph) (reference : Reference) (v : Value) :
    Tolerates Failure.IsFault (writeReference g .strict reference v)
      (writeReference g .lenient reference v) :=
  settle_tolerates _ _

lemma loopItems_tolerates (g : Graph) (path : List String) (expression : String) (v : Value) :
    Tolerates Failure.IsFault (loopItems g .strict path expression v)
      (loopItems g .lenient path expression v) :=
  settle_tolerates _ _

/-- What a node does itself, it does in both modes unless it has a fault. -/
lemma work_tolerates (g : Graph) (s : Scope) (n : Node) :
    Tolerates Stop.IsFault (n.work g .strict s) (n.work g .lenient s) := by
  cases n with
  | text span content | comment span body => exact .refl _
  | «variable» span name =>
    apply stamped_tolerates span
    apply (lookup_tolerates g s name).bind
    intro v
    apply (writeReference_tolerates g (.variable name) v).bind
    intro text
    exact .refl _
  | accessor span body =>
    apply stamped_tolerates span
    apply (walk_tolerates g (.scope s) (splitPath body)).bind
    intro v
    apply (writeReference_tolerates g (.accessor body) v).bind
    intro text
    exact .refl _
  | loop span body target item children =>
    apply stamped_tolerates span
    apply (walk_tolerates g (.scope s) (splitPath target)).bind
    intro v
    apply (loopItems_tolerates g (splitPath target) body v).bind
    intro items
    exact .refl _
  | conditional span body target children =>
    -- the truth of a value does not depend on the mode
    have found := stamped_tolerates span (walk_tolerates g (.scope s) (splitPath target))
    apply found.bind
    intro v
    exact .refl _

/-- **Lenient rendering repeats strict rendering, faults apart.** -/
theorem renderAll_tolerates (g : Graph) (s : Scope) (nodes : List Node) :
    Tolerates Stop.IsFault (renderAll g .strict s nodes) (renderAll g .lenient s nodes) := by
  induction nodes using forest_induction generalizing s with
  | nil => exact .refl _
  | cons n rest ihBelow ihRest =>
    have here : Tolerates Stop.IsFault (n.render g .strict s) (n.render g .lenient s) := by
      rw [Node.render_eq, Node.render_eq]
      apply (work_tolerates g s n).bind
      intro w
      have below := Tolerates.mapM ihBelow w.scopes
      apply below.bind
      intro texts
      exact .refl _
    rw [renderAll, renderAll]
    apply here.bind
    intro first
    apply (ihRest s).bind
    intro others
    exact .refl _

/-! ## Directives that degrade -/

namespace Node

/-- The path that a directive reads from its scope. -/
def reads : Node → Option (List String)
  | .text _ _ | .comment _ _ => none
  | .variable _ name => some [name]
  | .accessor _ body => some (splitPath body)
  | .loop _ _ target _ _ | .conditional _ _ target _ => some (splitPath target)

/-- The values that a directive is made for: scalars for a substitution, sequences for a loop, and
any value for a condition. -/
def Fits (g : Graph) : Node → Value → Prop
  | .variable _ _, v | .accessor _ _, v => (v.kind g).isScalar = true
  | .loop .., v => v.kind g = .sequence
  | _, _ => True

end Node

/-- A directive has nothing fit to work with: its path finds nothing, or a value of a wrong kind. -/
def Degrades (g : Graph) (s : Scope) (n : Node) : Prop :=
  ∃ path, n.reads = some path ∧
    (Breaks g (.scope s) path ∨ ∃ v, (Value.scope s).resolve g path = .ok v ∧ ¬ n.Fits g v)

lemma stamped_eq_fault_iff {α : Type} {site : Span} {x : Except Failure α} :
    (∃ f at', stamped site x = .error (.fault f at')) ↔ ∃ f, x = .error (.fault f) := by
  cases x with
  | ok a => simp
  | error e => cases e <;> simp [Failure.at]

/-- What cannot be written is no misfit of template and data. -/
lemma written_ne_fault {g : Graph} {v : Value} : ¬ ∃ f, written g v = .error (.fault f) := by
  rw [written]
  cases v.output g <;> simp [Except.mapError]

/-- A value that is there is taken exactly if it is a scalar. -/
lemma writeReference_eq_fault_iff {g : Graph} {reference : Reference} {v : Value}
    (present : v.isAbsent g = false) :
    (∃ f, writeReference g .strict reference v = .error (.fault f)) ↔
      ¬ (v.kind g).isScalar = true := by
  rw [writeReference, settle_strict, substitute, present]
  cases (v.kind g).isScalar
  · simp
  · simp [written_ne_fault]

lemma loopItems_eq_fault_iff {g : Graph} {path : List String} {expression : String} {v : Value} :
    (∃ f, loopItems g .strict path expression v = .error (.fault f)) ↔ ¬ v.kind g = .sequence := by
  rw [loopItems, settle_strict, Value.kind_eq_sequence_iff]
  cases v.items? g <;> simp

lemma lookup_eq_fault_iff {g : Graph} {s : Scope} {name : String} :
    (∃ f, s.lookup g .strict name = .error (.fault f)) ↔ Breaks g (.scope s) [name] := by
  rw [← resolve_eq_fault_iff, Scope.lookup, settle_strict, require_eq]
  cases outcome : (Value.scope s).resolve g [name] with
  | ok v => simp [Except.mapError]
  | error e =>
    cases e with
    | fault f => simp [Except.mapError]
    | number n => exact absurd (resolve_eq_number_iff.1 ⟨n, outcome⟩) not_overlong_name
    | writing w => exact absurd outcome resolve_ne_writing

lemma lookup_eq_ok_iff {g : Graph} {s : Scope} {name : String} {v : Value} :
    s.lookup g .strict name = .ok v ↔ (Value.scope s).resolve g [name] = .ok v := by
  rw [Scope.lookup, settle_strict, require_eq]
  cases (Value.scope s).resolve g [name] <;> simp [Except.mapError]

/-- A strict directive has a fault exactly if it has nothing fit to work with. -/
lemma work_strict_eq_fault_iff {g : Graph} {s : Scope} {n : Node} :
    (∃ f site, n.work g .strict s = .error (.fault f site)) ↔ Degrades g s n := by
  cases n with
  | text span content | comment span body => simp [Node.work, Degrades, Node.reads]
  | «variable» span name =>
    rw [Node.work, stamped_eq_fault_iff, exists_bind_eq_error_iff, lookup_eq_fault_iff]
    simp only [Degrades, Node.reads, Node.Fits, Option.some.injEq, exists_eq_left',
      lookup_eq_ok_iff]
    apply or_congr Iff.rfl
    apply exists_congr
    intro v
    apply and_congr_right
    intro found
    have present := isAbsent_of_resolve (List.cons_ne_nil _ _) found
    rw [exists_bind_eq_error_iff, writeReference_eq_fault_iff present]
    simp [pure, Except.pure]
  | accessor span body =>
    rw [Node.work, stamped_eq_fault_iff, exists_bind_eq_error_iff]
    simp only [Degrades, Node.reads, Node.Fits, Option.some.injEq, exists_eq_left', Value.walk,
      settle_strict, resolve_eq_fault_iff]
    apply or_congr Iff.rfl
    apply exists_congr
    intro v
    apply and_congr_right
    intro found
    have present := isAbsent_of_resolve (splitPath_ne_nil body) found
    rw [exists_bind_eq_error_iff, writeReference_eq_fault_iff present]
    simp [pure, Except.pure]
  | loop span body target item children =>
    rw [Node.work, stamped_eq_fault_iff, exists_bind_eq_error_iff]
    simp only [Degrades, Node.reads, Node.Fits, Option.some.injEq, exists_eq_left', Value.walk,
      settle_strict, resolve_eq_fault_iff]
    apply or_congr Iff.rfl
    apply exists_congr
    intro v
    apply and_congr_right
    intro found
    rw [exists_bind_eq_error_iff, loopItems_eq_fault_iff]
    simp [pure, Except.pure]
  | conditional span body target children =>
    -- a condition has a fault only where its path has one: any value will do
    simp only [Degrades, Node.reads, Node.Fits, Option.some.injEq, exists_eq_left',
      not_true_eq_false, and_false, exists_false, or_false, ← resolve_eq_fault_iff]
    rw [Node.work, Value.walk, settle_strict]
    cases (Value.scope s).resolve g (splitPath target) with
    | error e => cases e <;> simp [Failure.at]
    | ok v => cases truth : v.truth g <;> simp [truth, Except.mapError, pure, Except.pure]

/-! ## Lenient rendering has no faults -/

lemma settle_lenient_ne_fault {α : Type} {substitute x : Except Failure α}
    (fine : ¬ ∃ f, substitute = .error (.fault f)) :
    ¬ ∃ f, Mode.lenient.settle substitute x = .error (.fault f) := by
  cases x with
  | ok a => simp [Mode.settle]
  | error e =>
    cases e with
    | fault f => exact fine
    | number n | writing w => simp [Mode.settle]

lemma walk_lenient_ne_fault {g : Graph} {v : Value} {path : List String} :
    ¬ ∃ f, v.walk g .lenient path = .error (.fault f) :=
  settle_lenient_ne_fault (by simp)

lemma work_lenient_ne_fault {g : Graph} {s : Scope} {n : Node} :
    ¬ ∃ f site, n.work g .lenient s = .error (.fault f site) := by
  cases n with
  | text span content | comment span body => simp [Node.work]
  | «variable» span name | accessor span body =>
    rw [Node.work, stamped_eq_fault_iff]
    apply bind_ne_error (settle_lenient_ne_fault (by simp))
    intro v
    apply bind_ne_error (settle_lenient_ne_fault written_ne_fault)
    intro text
    exact pure_ne_error
  | loop span body target item children =>
    rw [Node.work, stamped_eq_fault_iff]
    apply bind_ne_error walk_lenient_ne_fault
    intro v
    apply bind_ne_error (settle_lenient_ne_fault (by simp))
    intro items
    exact pure_ne_error
  | conditional span body target children =>
    rintro ⟨f, site, failed⟩
    obtain here | ⟨v, -, later⟩ := bind_eq_error_iff.1 failed
    · exact walk_lenient_ne_fault (stamped_eq_fault_iff.1 ⟨f, site, here⟩)
    · cases truth : v.truth g <;> simp [truth, Except.mapError, pure, Except.pure] at later

lemma renderAll_lenient_ne_fault {g : Graph} {s : Scope} {nodes : List Node} {f : Fault}
    {site : Span} : renderAll g .lenient s nodes ≠ .error (.fault f site) := by
  intro failed
  obtain ⟨t, n, -, own⟩ := renderAll_eq_error_iff.1 failed
  have none : ¬ ∃ f site, n.work g .lenient t = .error (.fault f site) := work_lenient_ne_fault
  exact none ⟨f, site, own⟩

/-! ## The two modes side by side -/

lemma render_tolerates (g : Graph) (s : Scope) (n : Node) :
    Tolerates Stop.IsFault (n.render g .strict s) (n.render g .lenient s) := by
  rw [← renderAll_singleton, ← renderAll_singleton]
  exact renderAll_tolerates g s [n]

namespace Tolerates

variable {ε α : Type} {tolerated : ε → Prop}

lemma ok_of_ok {x y : Except ε α} {a : α} (h : Tolerates tolerated x y) (done : x = .ok a) :
    y = .ok a := by
  obtain rfl | ⟨e, -, failed⟩ := h
  · exact done
  · rw [done] at failed
    cases failed

/-- Where the tolerant side succeeds, the other side does the same or has an error that was
tolerated. -/
lemma ok_or_of_ok {x y : Except ε α} {a : α} (h : Tolerates tolerated x y) (done : y = .ok a) :
    x = .ok a ∨ ∃ e, tolerated e ∧ x = .error e := by
  obtain rfl | failed := h
  · exact .inl done
  · exact .inr failed

end Tolerates

/-- What a strict rendering comes to, a lenient one comes to as well. -/
lemma Reaches.lenient {g : Graph} {s t : Scope} {nodes : List Node} {m : Node}
    (h : Reaches g .strict s nodes t m) : Reaches g .lenient s nodes t m := by
  induction h with
  | head => exact .head
  | @next s _ n _ _ text here _ ih =>
    have first : n.render g .lenient s = .ok text := (render_tolerates g s n).ok_of_ok here
    exact .next first ih
  | @inside s _ u n _ _ w before after done shape fine _ ih =>
    have own : n.work g .lenient s = .ok w := (work_tolerates g s n).ok_of_ok done
    have earlier : ∀ v ∈ before, ∃ text, renderAll g .lenient v n.children = .ok text := by
      intro v there
      obtain ⟨text, here⟩ := fine v there
      exact ⟨text, (renderAll_tolerates g v n.children).ok_of_ok here⟩
    exact .inside own shape earlier ih

/-- Steps that succeed or have a tolerated error, up to one that has such an error, end with one. -/
lemma exists_mapM_eq_error {ε α β : Type} {tolerated : ε → Prop} {f : α → Except ε β}
    {before : List α} {a : α} (after : List α)
    (fine : ∀ a' ∈ before, (∃ b, f a' = .ok b) ∨ ∃ e, tolerated e ∧ f a' = .error e)
    (failed : ∃ e, tolerated e ∧ f a = .error e) :
    ∃ e, tolerated e ∧ (before ++ a :: after).mapM f = .error e := by
  induction before with
  | nil =>
    obtain ⟨e, isTolerated, here⟩ := failed
    refine ⟨e, isTolerated, ?_⟩
    rw [List.nil_append, List.mapM_cons, here, error_bind]
  | cons a' before ih =>
    rw [List.cons_append, List.mapM_cons]
    obtain ⟨b, here⟩ | ⟨e, isTolerated, here⟩ := fine a' List.mem_cons_self
    · obtain ⟨e, isTolerated, there⟩ := ih fun c later => fine c (List.mem_cons_of_mem _ later)
      exact ⟨e, isTolerated, by rw [here, ok_bind, there, error_bind]⟩
    · exact ⟨e, isTolerated, by rw [here, error_bind]⟩

/-- Where a lenient rendering comes to a directive that it degrades, a strict one has stopped with a
fault, there or before. -/
lemma Reaches.exists_fault {g : Graph} {s t : Scope} {nodes : List Node} {m : Node}
    (h : Reaches g .lenient s nodes t m) (degrades : Degrades g t m) :
    ∃ e, Stop.IsFault e ∧ renderAll g .strict s nodes = .error e := by
  induction h with
  | @head s n rest =>
    obtain ⟨f, site, own⟩ := work_strict_eq_fault_iff.2 degrades
    have failed : n.render g .strict s = .error (.fault f site) := render_eq_error_iff.2 (.inl own)
    exact ⟨_, ⟨f, site, rfl⟩, renderAll_cons_eq_error_iff.2 (.inl failed)⟩
  | @next s _ n _ _ text here _ ih =>
    obtain ⟨e, isFault, later⟩ := ih degrades
    obtain fine | ⟨e', isFault', earlier⟩ := (render_tolerates g s n).ok_or_of_ok here
    · exact ⟨e, isFault, renderAll_cons_eq_error_iff.2 (.inr ⟨⟨text, fine⟩, later⟩)⟩
    · exact ⟨e', isFault', renderAll_cons_eq_error_iff.2 (.inl earlier)⟩
  | @inside s _ u n _ _ w before after done shape fine _ ih =>
    -- the node's own work has a fault, or its children do in one of the scopes up to `u`
    obtain own | ⟨e, isFault, own⟩ := (work_tolerates g s n).ok_or_of_ok done
    · have strictly : ∀ v ∈ before, (∃ text, renderAll g .strict v n.children = .ok text) ∨
          ∃ e, Stop.IsFault e ∧ renderAll g .strict v n.children = .error e := by
        intro v earlier
        obtain ⟨text, here⟩ := fine v earlier
        obtain same | failed := (renderAll_tolerates g v n.children).ok_or_of_ok here
        · exact .inl ⟨text, same⟩
        · exact .inr failed
      obtain ⟨e, isFault, below⟩ := exists_mapM_eq_error after strictly (ih degrades)
      have failed : n.render g .strict s = .error e := by
        rw [Node.render_eq, own, ok_bind, shape, below, error_bind]
      exact ⟨e, isFault, renderAll_cons_eq_error_iff.2 (.inl failed)⟩
    · have failed : n.render g .strict s = .error e := render_eq_error_iff.2 (.inl own)
      exact ⟨e, isFault, renderAll_cons_eq_error_iff.2 (.inl failed)⟩

/-- Strict rendering has a fault exactly if lenient rendering comes to a directive that it
degrades. -/
lemma renderAll_strict_eq_fault_iff {g : Graph} {s : Scope} {nodes : List Node} :
    (∃ f site, renderAll g .strict s nodes = .error (.fault f site)) ↔
      ∃ t m, Reaches g .lenient s nodes t m ∧ Degrades g t m := by
  constructor
  · rintro ⟨f, site, failed⟩
    obtain ⟨t, m, reached, own⟩ := renderAll_eq_error_iff.1 failed
    exact ⟨t, m, reached.lenient, work_strict_eq_fault_iff.1 ⟨f, site, own⟩⟩
  · rintro ⟨t, m, reached, degrades⟩
    obtain ⟨_, ⟨f, site, rfl⟩, failed⟩ := reached.exists_fault degrades
    exact ⟨f, site, failed⟩

end BraceTemplate
