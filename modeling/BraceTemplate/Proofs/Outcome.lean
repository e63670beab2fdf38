import Mathlib.Data.List.Forall2

/-!
# Outcomes in sequence

Parsing and rendering are sequences of steps in `Except`, each of which may end the whole.  These
lemmas take a sequence apart: it succeeds when every step does, and it fails where the first step
fails.  Everything said about parsers and renderers goes through them, so that no later proof has to
unfold the monad.
-/

namespace BraceTemplate

variable {ε α β : Type}

@[simp] lemma ok_bind (a : α) (f : α → Except ε β) : (Except.ok a >>= f) = f a := rfl

@[simp] lemma error_bind (e : ε) (f : α → Except ε β) : (Except.error e >>= f) = .error e := rfl

lemma bind_eq_ok_iff {x : Except ε α} {f : α → Except ε β} {b : β} :
    (x >>= f) = .ok b ↔ ∃ a, x = .ok a ∧ f a = .ok b := by
  cases x with
  | ok a =>
    constructor
    · intro h
      exact ⟨a, rfl, h⟩
    · rintro ⟨_, same, h⟩
      cases same
      exact h
  | error e =>
    constructor
    · rintro ⟨⟩
    · rintro ⟨_, ⟨⟩, _⟩

lemma bind_eq_error_iff {x : Except ε α} {f : α → Except ε β} {e : ε} :
    (x >>= f) = .error e ↔ x = .error e ∨ ∃ a, x = .ok a ∧ f a = .error e := by
  cases x with
  | ok a =>
    constructor
    · intro h
      exact .inr ⟨a, rfl, h⟩
    · rintro (⟨⟨⟩⟩ | ⟨_, same, h⟩)
      cases same
      exact h
  | error e' =>
    constructor
    · rintro ⟨⟩
      exact .inl rfl
    · rintro (⟨⟨⟩⟩ | ⟨_, ⟨⟩, _⟩)
      rfl

/-- Two steps have an error of some form exactly if one of them has. -/
lemma exists_bind_eq_error_iff {ι : Type} {form : ι → ε} {x : Except ε α} {f : α → Except ε β} :
    (∃ i, (x >>= f) = .error (form i)) ↔
      (∃ i, x = .error (form i)) ∨ ∃ a, x = .ok a ∧ ∃ i, f a = .error (form i) := by
  simp only [bind_eq_error_iff, exists_or]
  apply or_congr Iff.rfl
  constructor
  · rintro ⟨i, a, done, failed⟩
    exact ⟨a, done, i, failed⟩
  · rintro ⟨a, done, i, failed⟩
    exact ⟨i, a, done, failed⟩

/-- Two steps never have an error of some form if neither of them has. -/
lemma bind_ne_error {ι : Type} {form : ι → ε} {x : Except ε α} {f : α → Except ε β}
    (first : ¬ ∃ i, x = .error (form i)) (next : ∀ a, ¬ ∃ i, f a = .error (form i)) :
    ¬ ∃ i, (x >>= f) = .error (form i) := by
  rw [exists_bind_eq_error_iff]
  rintro (here | ⟨a, -, later⟩)
  · exact first here
  · exact next a later

/-- Reworded, an outcome succeeds where it did. -/
lemma map_eq_ok_iff {f : α → β} {x : Except ε α} {b : β} :
    f <$> x = .ok b ↔ ∃ a, x = .ok a ∧ f a = b := by
  rw [map_eq_pure_bind, bind_eq_ok_iff]
  simp only [pure, Except.pure, Except.ok.injEq]

lemma pure_ne_error {ι : Type} {form : ι → ε} {a : α} :
    ¬ ∃ i, (pure a : Except ε α) = .error (form i) := by
  rintro ⟨i, ⟨⟩⟩

/-- Reworded, an outcome fails as it did. -/
lemma map_eq_error_iff {f : α → β} {x : Except ε α} {e : ε} :
    f <$> x = .error e ↔ x = .error e := by
  cases x <;> simp

/-! ## Errors put in other words -/

lemma mapError_ok {ε' : Type} (h : ε → ε') (a : α) :
    (Except.ok a : Except ε α).mapError h = .ok a := rfl

lemma mapError_eq_ok_iff {ε' : Type} {h : ε → ε'} {x : Except ε α} {a : α} :
    x.mapError h = .ok a ↔ x = .ok a := by
  cases x <;> simp [Except.mapError]

lemma mapError_eq_error_iff {ε' : Type} {h : ε → ε'} {x : Except ε α} {e' : ε'} :
    x.mapError h = .error e' ↔ ∃ e, x = .error e ∧ h e = e' := by
  cases x <;> simp [Except.mapError]

lemma mapError_bind {ε' : Type} (h : ε → ε') (x : Except ε α) (f : α → Except ε β) :
    (x >>= f).mapError h = x.mapError h >>= fun a => (f a).mapError h := by
  cases x <;> rfl

lemma mapError_mapM {ε' : Type} (h : ε → ε') (f : α → Except ε β) (as : List α) :
    (as.mapM f).mapError h = as.mapM fun a => (f a).mapError h := by
  induction as with
  | nil => rfl
  | cons a as ih =>
    simp only [List.mapM_cons, mapError_bind, ih]
    rfl

/-! ## Steps over a list -/

/-- Steps that all succeed give their results in order. -/
lemma mapM_eq_ok_iff {f : α → Except ε β} {as : List α} {bs : List β} :
    as.mapM f = .ok bs ↔ List.Forall₂ (fun a b => f a = .ok b) as bs := by
  induction as generalizing bs with
  | nil =>
    rw [List.mapM_nil, List.forall₂_nil_left_iff]
    constructor
    · intro h
      cases h
      rfl
    · intro h
      rw [h]
      rfl
  | cons a as ih =>
    rw [List.mapM_cons, List.forall₂_cons_left_iff, bind_eq_ok_iff]
    constructor
    · rintro ⟨b, here, rest⟩
      obtain ⟨bs', there, same⟩ := bind_eq_ok_iff.1 rest
      cases same
      exact ⟨b, bs', here, ih.1 there, rfl⟩
    · rintro ⟨b, bs', here, there, rfl⟩
      exact ⟨b, here, bind_eq_ok_iff.2 ⟨bs', ih.2 there, rfl⟩⟩

/-- Steps fail at the first of them that does. -/
lemma mapM_eq_error_iff {f : α → Except ε β} {as : List α} {e : ε} :
    as.mapM f = .error e ↔
      ∃ before a after, as = before ++ a :: after ∧ (∀ a' ∈ before, ∃ b, f a' = .ok b) ∧
        f a = .error e := by
  induction as with
  | nil =>
    rw [List.mapM_nil]
    constructor
    · rintro ⟨⟩
    · rintro ⟨before, a, after, shape, -⟩
      simp at shape
  | cons a as ih =>
    rw [List.mapM_cons, bind_eq_error_iff]
    constructor
    · rintro (here | ⟨b, here, rest⟩)
      · exact ⟨[], a, as, rfl, by simp, here⟩
      · obtain there | ⟨bs, -, same⟩ := bind_eq_error_iff.1 rest
        · obtain ⟨before, a', after, rfl, fine, failed⟩ := ih.1 there
          refine ⟨a :: before, a', after, rfl, ?_, failed⟩
          rintro a'' (_ | ⟨_, earlier⟩)
          · exact ⟨b, here⟩
          · exact fine a'' earlier
        · cases same
    · rintro ⟨before, a', after, shape, fine, failed⟩
      cases before with
      | nil =>
        obtain ⟨rfl, rfl⟩ := List.cons_eq_cons.1 shape
        exact .inl failed
      | cons a'' before =>
        obtain ⟨rfl, rfl⟩ := List.cons_eq_cons.1 shape
        rw [List.forall_mem_cons] at fine
        obtain ⟨⟨b, here⟩, others⟩ := fine
        have there := ih.2 ⟨before, a', after, rfl, others, failed⟩
        exact .inr ⟨b, here, bind_eq_error_iff.2 (.inl there)⟩

/-- Steps that do the same for each item do the same. -/
lemma mapM_congr {f f' : α → Except ε β} {as : List α} (each : ∀ a ∈ as, f a = f' a) :
    as.mapM f = as.mapM f' := by
  induction as with
  | nil => rfl
  | cons a as ih =>
    rw [List.mapM_cons, List.mapM_cons, each a List.mem_cons_self,
      ih fun b later => each b (List.mem_cons_of_mem a later)]

/-- Steps may know that their items stand in the list. -/
lemma mapM_attach (f : α → Except ε β) (as : List α) :
    (as.attach.mapM fun a => f a.1) = as.mapM f := by
  rw [List.mapM_subtype (g := f) fun _ _ => rfl, List.unattach_attach]

/-! ## Outcomes that are errors -/

/-- The outcome is an error. -/
def Fails (x : Except ε α) : Prop := ∃ e, x = .error e

@[simp] lemma not_fails_ok (a : α) : ¬ Fails (.ok a : Except ε α) := by rintro ⟨e, ⟨⟩⟩

@[simp] lemma fails_error (e : ε) : Fails (.error e : Except ε α) := ⟨e, rfl⟩

lemma fails_bind_iff {x : Except ε α} {f : α → Except ε β} :
    Fails (x >>= f) ↔ Fails x ∨ ∃ a, x = .ok a ∧ Fails (f a) := by
  cases x <;> simp

@[simp] lemma fails_map_iff {f : α → β} {x : Except ε α} : Fails (f <$> x) ↔ Fails x := by
  cases x <;> simp

@[simp] lemma fails_mapError_iff {ε' : Type} {h : ε → ε'} {x : Except ε α} :
    Fails (x.mapError h) ↔ Fails x := by
  cases x <;> simp [Except.mapError]

/-- Steps over a list fail if one of them does. -/
lemma fails_mapM_iff {f : α → Except ε β} {as : List α} :
    Fails (as.mapM f) ↔ ∃ a ∈ as, Fails (f a) := by
  induction as with
  | nil =>
    rw [List.mapM_nil]
    exact iff_of_false (not_fails_ok []) (by simp)
  | cons a as ih =>
    rw [List.mapM_cons, fails_bind_iff, List.exists_mem_cons_iff, ← ih]
    cases here : f a with
    | error e => simp
    | ok b => simp [fails_bind_iff, pure, Except.pure]

/-- The outcome is an error of some sort. -/
def FailsWith (sort : ε → Prop) (x : Except ε α) : Prop := ∃ e, x = .error e ∧ sort e

section

variable {sort : ε → Prop}

@[simp] lemma not_failsWith_ok (a : α) : ¬ FailsWith sort (.ok a : Except ε α) := by
  rintro ⟨e, ⟨⟩, -⟩

@[simp] lemma failsWith_error_iff {e : ε} :
    FailsWith sort (.error e : Except ε α) ↔ sort e := by
  constructor
  · rintro ⟨_, ⟨⟩, isSort⟩
    exact isSort
  · exact fun isSort => ⟨e, rfl, isSort⟩

lemma failsWith_or_iff {sort' : ε → Prop} {x : Except ε α} :
    FailsWith (fun e => sort e ∨ sort' e) x ↔ FailsWith sort x ∨ FailsWith sort' x := by
  cases x <;> simp

lemma failsWith_exists_iff {ι : Type} {sorts : ι → ε → Prop} {x : Except ε α} :
    FailsWith (fun e => ∃ i, sorts i e) x ↔ ∃ i, FailsWith (sorts i) x := by
  cases x <;> simp

lemma failsWith_form_iff {ι : Type} {form : ι → ε} {x : Except ε α} :
    FailsWith (fun e => ∃ i, e = form i) x ↔ ∃ i, x = .error (form i) := by
  cases x <;> simp

lemma failsWith_bind_iff {x : Except ε α} {f : α → Except ε β} :
    FailsWith sort (x >>= f) ↔ FailsWith sort x ∨ ∃ a, x = .ok a ∧ FailsWith sort (f a) := by
  cases x <;> simp

lemma failsWith_mapError_iff {ε' : Type} {sort : ε' → Prop} {h : ε → ε'} {x : Except ε α} :
    FailsWith sort (x.mapError h) ↔ FailsWith (fun e => sort (h e)) x := by
  cases x <;> simp [Except.mapError]

/-- Two steps have no error of some sort if neither of them has. -/
lemma not_failsWith_bind {x : Except ε α} {f : α → Except ε β} (first : ¬ FailsWith sort x)
    (next : ∀ a, ¬ FailsWith sort (f a)) : ¬ FailsWith sort (x >>= f) := by
  rw [failsWith_bind_iff]
  rintro (here | ⟨a, -, later⟩)
  · exact first here
  · exact next a later

end

/-- Steps that pass on a state fail at the first of them that does. -/
lemma foldlM_eq_error_iff {σ : Type} {f : σ → α → Except ε σ} {s : σ} {as : List α} {e : ε} :
    as.foldlM f s = .error e ↔
      ∃ before a after t, as = before ++ a :: after ∧ before.foldlM f s = .ok t ∧
        f t a = .error e := by
  constructor
  · intro failed
    induction as generalizing s with
    | nil => cases failed
    | cons a as ih =>
      rw [List.foldlM_cons, bind_eq_error_iff] at failed
      obtain here | ⟨next, here, later⟩ := failed
      · exact ⟨[], a, as, s, rfl, rfl, here⟩
      · obtain ⟨before, a', after, t, rfl, run, step⟩ := ih later
        refine ⟨a :: before, a', after, t, rfl, ?_, step⟩
        rw [List.foldlM_cons, here, ok_bind, run]
  · rintro ⟨before, a, after, t, rfl, run, step⟩
    rw [List.foldlM_append, run, ok_bind, List.foldlM_cons, step, error_bind]

end BraceTemplate
