import BraceTemplate.Proofs.Outcome
import BraceTemplate.Render.Resolve

/-!
# How walks end

A walk along a path ends in one of three ways: at the value it was asked for, at a step that finds
nothing to go on with, or at an index that has too many digits to be read.  The last two are said
here without the walk: `Breaks` by the members that the values on the way have, and `Overlong` by
the first index that meets a sequence.  `resolve_eq_fault_iff` and `resolve_eq_number_iff` say that
these are the failures of a walk.
-/

namespace BraceTemplate

/-- Some value on the way has no member under the next key, or an absent one. -/
inductive Breaks (g : Graph) : Value → List String → Prop
  | missing {v : Value} {key : String} {rest : List String} :
      v.member? g key = .ok none → Breaks g v (key :: rest)
  | null {v m : Value} {key : String} {rest : List String} :
      v.member? g key = .ok (some m) → m.isAbsent g = true → Breaks g v (key :: rest)
  | later {v m : Value} {key : String} {rest : List String} :
      v.member? g key = .ok (some m) → m.isAbsent g = false → Breaks g m rest →
      Breaks g v (key :: rest)

/-- A name that is a row of digits, and of too many. -/
def OverlongIndex (name : String) : Prop :=
  name.toList.all Text.isDigit = true ∧ digitLimit < name.toList.length

/-- Some value on the way is a sequence, and the next key an index of too many digits. -/
inductive Overlong (g : Graph) : Value → List String → Prop
  | here {v : Value} {key : String} {rest : List String} :
      v.kind g = .sequence → OverlongIndex key → Overlong g v (key :: rest)
  | later {v m : Value} {key : String} {rest : List String} :
      v.member? g key = .ok (some m) → m.isAbsent g = false → Overlong g m rest →
      Overlong g v (key :: rest)

/-! ## Single steps -/

lemma index?_eq_error_iff {name : String} {n : NumberFault} :
    index? name = .error n ↔ OverlongIndex name ∧ n = .indexTooLong name.toList.length := by
  simp only [index?, OverlongIndex]
  split
  · rename_i unfit
    constructor
    · rintro ⟨⟩
    · rintro ⟨⟨digits, long⟩, -⟩
      rw [Bool.or_eq_true, List.isEmpty_iff, digits] at unfit
      obtain none | none := unfit
      · rw [none] at long
        simp at long
      · simp at none
  · rename_i fit
    rw [Bool.or_eq_true, not_or, Bool.not_eq_true, Bool.not_eq_true, Bool.not_eq_false'] at fit
    split
    · rename_i long
      constructor
      · rintro ⟨⟩
        exact ⟨⟨fit.2, long⟩, rfl⟩
      · rintro ⟨-, rfl⟩
        rfl
    · rename_i short
      constructor
      · rintro ⟨⟩
      · rintro ⟨⟨-, long⟩, -⟩
        exact absurd long short

/-- Only sequences refuse a name, and only for its length. -/
lemma member?_eq_error_iff {g : Graph} {v : Value} {key : String} {n : NumberFault} :
    v.member? g key = .error n ↔
      v.kind g = .sequence ∧ OverlongIndex key ∧ n = .indexTooLong key.toList.length := by
  have sequence : ∀ items : List Value,
      (do return (← index? key).bind (items[·]?) : Except NumberFault (Option Value)) = .error n ↔
        index? key = .error n := by
    intro items
    rw [bind_eq_error_iff]
    exact ⟨fun h => h.elim id fun ⟨_, _, same⟩ => (by cases same), .inl⟩
  cases v with
  | collection place =>
    simp only [Value.member?, Value.kind]
    cases g.at? place with
    | none => simp
    | some c =>
      cases c with
      | map es | scope layers => simp
      | list items | tuple items => simp only [sequence, index?_eq_error_iff, true_and]
  | _ => simp [Value.member?, Value.kind]

/-- The three ends of a step. -/
lemma step_of_member? {g : Graph} {path : List String} {v m : Value} {key : String}
    (found : v.member? g key = .ok (some m)) (present : m.isAbsent g = false) :
    v.step g path key = .ok m := by
  simp [Value.step, found, present]

lemma step_eq_ok_iff {g : Graph} {path : List String} {v m : Value} {key : String} :
    v.step g path key = .ok m ↔ v.member? g key = .ok (some m) ∧ m.isAbsent g = false := by
  constructor
  · intro h
    unfold Value.step at h
    split at h
    · cases h
    · cases h
    · rename_i m' found
      split at h
      · cases h
      · rename_i present
        cases h
        exact ⟨found, Bool.eq_false_iff.2 present⟩
  · rintro ⟨found, present⟩
    exact step_of_member? found present

lemma step_eq_fault_iff {g : Graph} {path : List String} {v : Value} {key : String} :
    (∃ f, v.step g path key = .error (.fault f)) ↔
      v.member? g key = .ok none ∨ ∃ m, v.member? g key = .ok (some m) ∧ m.isAbsent g = true := by
  unfold Value.step
  cases found : v.member? g key with
  | error n => simp
  | ok member =>
    cases member with
    | none => simp
    | some m => cases absent : m.isAbsent g <;> simp [absent]

lemma step_eq_number_iff {g : Graph} {path : List String} {v : Value} {key : String} :
    (∃ n, v.step g path key = .error (.number n)) ↔ v.kind g = .sequence ∧ OverlongIndex key := by
  have refused : (∃ n, v.member? g key = .error n) ↔ v.kind g = .sequence ∧ OverlongIndex key := by
    simp [member?_eq_error_iff]
  rw [← refused]
  unfold Value.step
  cases v.member? g key with
  | error n => simp
  | ok member =>
    cases member with
    | none => simp
    | some m => cases absent : m.isAbsent g <;> simp [absent]

/-- A step writes nothing. -/
lemma step_ne_writing {g : Graph} {path : List String} {v : Value} {key : String}
    {w : WritingFault} : v.step g path key ≠ .error (.writing w) := by
  unfold Value.step
  cases v.member? g key with
  | error n => simp
  | ok member =>
    cases member with
    | none => simp
    | some m => cases absent : m.isAbsent g <;> simp [absent]

/-! ## Walks

The faults of a walk name the whole path, and the steps left get shorter.  So each statement is
first proved for the steps that are left of some path. -/

lemma foldlM_step_eq_fault_iff {g : Graph} {path keys : List String} {v : Value} :
    (∃ f, keys.foldlM (Value.step g path) v = .error (.fault f)) ↔ Breaks g v keys := by
  induction keys generalizing v with
  | nil =>
    constructor
    · rintro ⟨f, ⟨⟩⟩
    · rintro ⟨⟩
  | cons key keys ih =>
    rw [List.foldlM_cons]
    constructor
    · rintro ⟨f, failed⟩
      obtain here | ⟨m, done, later⟩ := bind_eq_error_iff.1 failed
      · obtain missing | ⟨m, found, absent⟩ := step_eq_fault_iff.1 ⟨f, here⟩
        · exact .missing missing
        · exact .null found absent
      · obtain ⟨found, present⟩ := step_eq_ok_iff.1 done
        exact .later found present (ih.1 ⟨f, later⟩)
    · rintro (missing | ⟨found, absent⟩ | ⟨found, present, later⟩)
      · obtain ⟨f, here⟩ := step_eq_fault_iff.2 (.inl missing)
        exact ⟨f, bind_eq_error_iff.2 (.inl here)⟩
      · obtain ⟨f, here⟩ := step_eq_fault_iff.2 (.inr ⟨_, found, absent⟩)
        exact ⟨f, bind_eq_error_iff.2 (.inl here)⟩
      · obtain ⟨f, there⟩ := ih.2 later
        exact ⟨f, bind_eq_error_iff.2 (.inr ⟨_, step_of_member? found present, there⟩)⟩

lemma foldlM_step_eq_number_iff {g : Graph} {path keys : List String} {v : Value} :
    (∃ n, keys.foldlM (Value.step g path) v = .error (.number n)) ↔ Overlong g v keys := by
  induction keys generalizing v with
  | nil =>
    constructor
    · rintro ⟨n, ⟨⟩⟩
    · rintro ⟨⟩
  | cons key keys ih =>
    rw [List.foldlM_cons]
    constructor
    · rintro ⟨n, failed⟩
      obtain here | ⟨m, done, later⟩ := bind_eq_error_iff.1 failed
      · obtain ⟨sequence, long⟩ := step_eq_number_iff.1 ⟨n, here⟩
        exact .here sequence long
      · obtain ⟨found, present⟩ := step_eq_ok_iff.1 done
        exact .later found present (ih.1 ⟨n, later⟩)
    · rintro (⟨sequence, long⟩ | ⟨found, present, later⟩)
      · obtain ⟨n, here⟩ := step_eq_number_iff.2 ⟨sequence, long⟩
        exact ⟨n, bind_eq_error_iff.2 (.inl here)⟩
      · obtain ⟨n, there⟩ := ih.2 later
        exact ⟨n, bind_eq_error_iff.2 (.inr ⟨_, step_of_member? found present, there⟩)⟩

/-- A walk has a fault exactly if it breaks off. -/
lemma resolve_eq_fault_iff {g : Graph} {v : Value} {path : List String} :
    (∃ f, v.resolve g path = .error (.fault f)) ↔ Breaks g v path :=
  foldlM_step_eq_fault_iff

/-- A walk is refused a number exactly if it meets an index that is too long. -/
lemma resolve_eq_number_iff {g : Graph} {v : Value} {path : List String} :
    (∃ n, v.resolve g path = .error (.number n)) ↔ Overlong g v path :=
  foldlM_step_eq_number_iff

lemma resolve_ne_writing {g : Graph} {v : Value} {path : List String} {w : WritingFault} :
    v.resolve g path ≠ .error (.writing w) := by
  intro failed
  obtain ⟨-, key, -, u, -, -, step⟩ := foldlM_eq_error_iff.1 failed
  exact step_ne_writing step

/-- The end of a walk is never absent. -/
lemma isAbsent_of_resolve {g : Graph} {v w : Value} {path : List String} (nonempty : path ≠ [])
    (h : v.resolve g path = .ok w) : w.isAbsent g = false := by
  obtain ⟨keys, key, rfl⟩ := (List.eq_nil_or_concat path).resolve_left nonempty
  rw [List.concat_eq_append] at h
  rw [Value.resolve, List.foldlM_append, bind_eq_ok_iff] at h
  obtain ⟨u, -, last⟩ := h
  rw [List.foldlM_cons, bind_eq_ok_iff] at last
  obtain ⟨w', done, same⟩ := last
  cases same
  exact (step_eq_ok_iff.1 done).2

/-! ## Names in scopes -/

/-- A scope is asked for a variable as for a path of one name, except for the report. -/
lemma require_eq (g : Graph) (s : Scope) (name : String) :
    s.require g name =
      ((Value.scope s).resolve g [name]).mapError fun _ => .fault (.missingVariable name) := by
  rw [Value.resolve, List.foldlM_cons]
  simp only [Scope.require, Value.step, Value.member?]
  cases s.valueOf? name with
  | none => rfl
  | some v => cases absent : v.isAbsent g <;> simp [absent] <;> rfl

/-- A scope refuses no name. -/
lemma not_overlong_name {g : Graph} {s : Scope} {name : String} :
    ¬ Overlong g (.scope s) [name] := by
  rintro (⟨sequence, -⟩ | ⟨-, -, later⟩)
  · cases sequence
  · cases later

end BraceTemplate
