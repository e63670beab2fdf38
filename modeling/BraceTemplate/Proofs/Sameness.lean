import BraceTemplate.Data.Output
import BraceTemplate.Proofs.Walks

/-!
# Two runs side by side

Statements about what a rendering depends on compare two runs on data that have something in common.
Two outcomes `Agree` if both are results, or both errors, that are related; agreement passes through
steps in sequence, so a proof about two runs follows the run.  Both runs look into one graph, which
holds the data of both.

What it means that two values are the same is a parameter.  A `Sameness` is a relation that holds
between values only if nothing a template does with the one tells it from the other: their kind,
their truth and what they write, and again their items and their members.  Equality is one,
`Sameness.identity`; that one value is a copy of the other is another.

How failures are compared is a parameter too (`Compares`).  Mostly they are compared without their
messages (`SameFailure`), for those may quote data that the run did not depend on.
-/

namespace BraceTemplate

/-! ## Outcomes -/

/-- Both outcomes are results related by `R`, or both are errors related by `E`. -/
inductive Agree {ε α β : Type} (E : ε → ε → Prop) (R : α → β → Prop) :
    Except ε α → Except ε β → Prop
  | ok {a : α} {b : β} : R a b → Agree E R (.ok a) (.ok b)
  | error {e e' : ε} : E e e' → Agree E R (.error e) (.error e')

namespace Agree

variable {ε ε' α α' β β' : Type} {E : ε → ε → Prop} {R : α → α' → Prop} {Q : β → β' → Prop}

lemma imp {Q : α → α' → Prop} {x : Except ε α} {y : Except ε α'} (h : Agree E R x y)
    (each : ∀ a a', R a a' → Q a a') : Agree E Q x y := by
  cases h with
  | ok same => exact .ok (each _ _ same)
  | error same => exact .error same

/-- Steps in sequence agree if each of them does. -/
lemma bind {x : Except ε α} {y : Except ε α'} {f : α → Except ε β} {f' : α' → Except ε β'}
    (first : Agree E R x y) (next : ∀ a a', R a a' → Agree E Q (f a) (f' a')) :
    Agree E Q (x >>= f) (y >>= f') := by
  cases first with
  | ok same => exact next _ _ same
  | error same => exact .error same

lemma mapM {f : α → Except ε β} {f' : α' → Except ε β'} {as : List α} {as' : List α'}
    (same : List.Forall₂ R as as') (each : ∀ a a', R a a' → Agree E Q (f a) (f' a')) :
    Agree E (List.Forall₂ Q) (as.mapM f) (as'.mapM f') := by
  induction same with
  | nil => exact .ok .nil
  | cons here _ ih =>
    rw [List.mapM_cons, List.mapM_cons]
    apply (each _ _ here).bind
    intro b b' first
    apply ih.bind
    intro bs bs' others
    exact .ok (.cons first others)

lemma mapError {E' : ε' → ε' → Prop} {f f' : ε → ε'} {x : Except ε α} {y : Except ε α'}
    (h : Agree E R x y) (each : ∀ e e', E e e' → E' (f e) (f' e')) :
    Agree E' R (x.mapError f) (y.mapError f') := by
  cases h with
  | ok same => exact .ok same
  | error same => exact .error (each _ _ same)

end Agree

/-! ## Optional values side by side -/

lemma exists_of_rel_some {α : Type} {P : α → α → Prop} {a : α} {y : Option α}
    (h : Option.Rel P (some a) y) : ∃ b, y = some b ∧ P a b := by
  cases h with
  | some same => exact ⟨_, rfl, same⟩

lemma eq_none_of_rel_none {α : Type} {P : α → α → Prop} {y : Option α}
    (h : Option.Rel P none y) : y = none := by
  cases h
  rfl

/-! ## Values -/

/-- A notion of sameness that no template can see through. -/
structure Sameness (g : Graph) where
  same : Value → Value → Prop
  undefined : same .undefined .undefined
  kind : ∀ {v w}, same v w → v.kind g = w.kind g
  truth : ∀ {v w}, same v w → v.truth g = w.truth g
  output : ∀ {v w}, same v w → v.output g = w.output g
  items : ∀ {v w}, same v w → Option.Rel (List.Forall₂ same) (v.items? g) (w.items? g)
  member : ∀ {v w}, same v w → ∀ name,
    Agree Eq (Option.Rel same) (v.member? g name) (w.member? g name)

namespace Sameness

variable {g : Graph}

/-- Equality of values: the same numbers and texts, and the same collections in the same places. -/
def identity (g : Graph) : Sameness g where
  same := Eq
  undefined := rfl
  kind := by
    rintro v _ rfl
    rfl
  truth := by
    rintro v _ rfl
    rfl
  output := by
    rintro v _ rfl
    rfl
  items := by
    rintro v _ rfl
    cases v.items? g with
    | none => exact .none
    | some items => exact .some (List.forall₂_refl items)
  member := by
    rintro v _ rfl name
    cases v.member? g name with
    | error n => exact .error rfl
    | ok found =>
      cases found with
      | none => exact .ok .none
      | some m => exact .ok (.some rfl)

variable (S : Sameness g)

lemma isAbsent {v w : Value} (h : S.same v w) : v.isAbsent g = w.isAbsent g := by
  rw [Value.isAbsent, Value.isAbsent, S.kind h]

/-! ## Faults -/

/-- What two renderings failed on is the same name, or the same value. -/
inductive SameSubject : RenderSubject → RenderSubject → Prop
  | unspecified : SameSubject .unspecified .unspecified
  | undefinedName (name : String) : SameSubject (.undefinedName name) (.undefinedName name)
  | wrongType {v w : Value} : S.same v w → SameSubject (.wrongType v) (.wrongType w)

/-- The faults are the same but for their messages. -/
structure SameFault (f f' : Fault) : Prop where
  code : f.code = f'.code
  subject : S.SameSubject f.subject f'.subject
  expression : f.expression = f'.expression

/-- The failures are the same fault, the same number fault or the same writing fault. -/
inductive SameFailure : Failure → Failure → Prop
  | fault {f f' : Fault} : S.SameFault f f' → SameFailure (.fault f) (.fault f')
  | number (n : NumberFault) : SameFailure (.number n) (.number n)
  | writing (w : WritingFault) : SameFailure (.writing w) (.writing w)

/-- The renderings stopped with the same failure, at the same directive. -/
inductive SameStop : Stop → Stop → Prop
  | fault {f f' : Fault} (site : Span) :
      S.SameFault f f' → SameStop (.fault f site) (.fault f' site)
  | number (n : NumberFault) : SameStop (.number n) (.number n)
  | writing (w : WritingFault) : SameStop (.writing w) (.writing w)

lemma missing_same {path : List String} {key : String} {v w : Value} :
    S.SameFault (.missingProperty path key v) (.missingProperty path key w) :=
  ⟨rfl, .undefinedName key, rfl⟩

/-- A comparison of failures, fine or coarse: steps that work on the same values fail alike, and no
fault is like a failure of another sort. -/
structure Compares (F : Failure → Failure → Prop) : Prop where
  missingVariable : ∀ name, F (.fault (.missingVariable name)) (.fault (.missingVariable name))
  missingProperty : ∀ {path key v w}, S.same v w →
    F (.fault (.missingProperty path key v)) (.fault (.missingProperty path key w))
  nullProperty : ∀ path key,
    F (.fault (.nullProperty path key)) (.fault (.nullProperty path key))
  unsupportedType : ∀ {reference v w}, S.same v w →
    F (.fault (.unsupportedType reference v)) (.fault (.unsupportedType reference w))
  notIterable : ∀ {path expression v w}, S.same v w →
    F (.fault (.notIterable path expression v)) (.fault (.notIterable path expression w))
  number : ∀ n, F (.number n) (.number n)
  writing : ∀ w, F (.writing w) (.writing w)
  settled : ∀ {e e'}, F e e' → e = e' ∨ ∃ f f', e = .fault f ∧ e' = .fault f'

lemma compares_sameFailure : S.Compares S.SameFailure where
  missingVariable name := .fault ⟨rfl, .undefinedName name, rfl⟩
  missingProperty _ := .fault S.missing_same
  nullProperty _ key := .fault ⟨rfl, .undefinedName key, rfl⟩
  unsupportedType same := .fault ⟨rfl, .wrongType same, rfl⟩
  notIterable same := .fault ⟨rfl, .wrongType same, rfl⟩
  number := .number
  writing := .writing
  settled := by
    rintro _ _ (same | n | w)
    · exact .inr ⟨_, _, rfl, rfl⟩
    · exact .inl rfl
    · exact .inl rfl

/-! ## Walks -/

/-- Two walks end in the same way: at the same value, or with the same failure. -/
abbrev SameEnd : Except Failure Value → Except Failure Value → Prop := Agree S.SameFailure S.same

variable {S} {F : Failure → Failure → Prop}

lemma step_agree (c : S.Compares F) {path : List String} {v w : Value} (key : String)
    (h : S.same v w) : Agree F S.same (v.step g path key) (w.step g path key) := by
  have found := S.member h key
  unfold Value.step
  cases here : v.member? g key <;> cases there : w.member? g key <;> rw [here, there] at found
  case error.error n n' =>
    cases found with
    | error same => exact same ▸ .error (c.number n)
  case ok.ok m m' =>
    cases found with
    | ok same =>
      cases same with
      | none => exact .error (c.missingProperty h)
      | @some m m' same =>
        simp only [S.isAbsent same]
        split
        · exact .error (c.nullProperty path key)
        · exact .ok same
  all_goals cases found

lemma foldlM_step_agree (c : S.Compares F) {path keys : List String} {v w : Value}
    (h : S.same v w) :
    Agree F S.same (keys.foldlM (Value.step g path) v) (keys.foldlM (Value.step g path) w) := by
  induction keys generalizing v w with
  | nil => exact .ok h
  | cons key keys ih =>
    rw [List.foldlM_cons, List.foldlM_cons]
    apply (step_agree c key h).bind
    intro m m' same
    exact ih same

/-- In a mode, what failed in the same way goes on in the same way. -/
lemma settle_agree (c : S.Compares F) {α β : Type} {R : α → β → Prop} {a x : Except Failure α}
    {b y : Except Failure β} (mode : Mode) (instead : Agree F R a b) (h : Agree F R x y) :
    Agree F R (mode.settle a x) (mode.settle b y) := by
  cases mode with
  | strict => exact h
  | lenient =>
    cases h with
    | ok same => exact .ok same
    | error same =>
      obtain rfl | ⟨f, f', rfl, rfl⟩ := c.settled same
      · rename_i e
        cases e with
        | fault f => exact instead
        | number n => exact .error (c.number n)
        | writing w => exact .error (c.writing w)
      · exact instead

end Sameness

end BraceTemplate
