import BraceTemplate.Data.Scope
import Mathlib.Data.List.Basic

/-!
# Look-ups in mappings and scopes

What a name is bound to in a mapping that others are put on: in an updated mapping
(`valueOf?_update`), in layers put together, and in the single mapping that a scope is merged into
(`valueOf?_merged`).

Merging leaves out what is bound further in already.  It may be done from the outside, layer by
layer, since what is the same key as a key known is known itself: sameness of keys is transitive
(`Key.same_trans`), and so outer layers may be merged first (`merged_append_merged`).
-/

namespace BraceTemplate

/-! ## Keys -/

namespace Key

/-- Only a text is the same key as a text. -/
lemma same_text_iff {k : Key} {s : String} : k.same (.text s) = true ↔ k = .text s := by
  cases k <;> simp [same, identical, exactValue?]

lemma eq_of_identical {k l : Key} (h : k.identical l = true) : k = l := by
  cases k <;> cases l <;> simp_all [identical]

/-- Both keys are the same real or complex number, none of whose parts is "not a number". -/
def SameNumber (k l : Key) : Prop :=
  ∃ v, k.exactValue? = some v ∧ l.exactValue? = some v ∧ v.1 ≠ .nan ∧ v.2 ≠ .nan

lemma SameNumber.trans {k l m : Key} (first : k.SameNumber l) (second : l.SameNumber m) :
    k.SameNumber m := by
  obtain ⟨v, left, middle, number⟩ := first
  obtain ⟨w, middle', right, -⟩ := second
  obtain rfl : v = w := Option.some.inj (middle.symm.trans middle')
  exact ⟨v, left, right, number⟩

lemma same_of_sameNumber {k l : Key} (h : k.SameNumber l) : k.same l = true := by
  obtain ⟨⟨re, im⟩, left, right, number⟩ := h
  cases k <;> cases left <;> cases l <;> simp_all [same, exactValue?, Exact.same]

/-- Keys are the same if they are equal, the same number, or rows of the same keys. -/
lemma cases_of_same {k l : Key} (h : k.same l = true) :
    k = l ∨ k.SameNumber l ∨ ∃ ks ls, k = .tuple ks ∧ l = .tuple ls ∧ sameAll ks ls = true := by
  unfold same at h
  split at h
  case h_1 | h_2 => exact .inl rfl
  case h_3 | h_4 => exact .inl (congrArg _ (beq_iff_eq.1 h))
  case h_5 ks ls => exact .inr (.inr ⟨ks, ls, rfl, rfl, h⟩)
  case h_6 =>
    obtain identical | numbers := Bool.or_eq_true_iff.1 h
    · exact .inl (eq_of_identical identical)
    · split at numbers
      case h_1 re im re' im' left right =>
        simp only [Exact.same, Bool.and_eq_true, bne_iff_ne, beq_iff_eq] at numbers
        obtain ⟨⟨real, rfl⟩, imaginary, rfl⟩ := numbers
        exact .inr (.inl ⟨(re, im), left, right, real, imaginary⟩)
      case h_2 => cases numbers

mutual
/-- What is the same key as a key that is the same as a third one, is the same as the third. -/
lemma same_trans {k l m : Key} (first : k.same l = true) (second : l.same m = true) :
    k.same m = true := by
  obtain rfl | number | ⟨ks, ls, rfl, rfl, rows⟩ := cases_of_same first
  · exact second
  · obtain rfl | number' | ⟨ks, ls, rfl, -⟩ := cases_of_same second
    · exact first
    · exact same_of_sameNumber (number.trans number')
    · obtain ⟨v, -, none, -⟩ := number
      cases none
  · obtain rfl | ⟨v, none, -⟩ | ⟨_, ms, same, rfl, rows'⟩ := cases_of_same second
    · exact first
    · cases none
    · cases same
      rw [same]
      exact sameAll_trans rows rows'

lemma sameAll_trans {ks ls ms : List Key} (first : sameAll ks ls = true)
    (second : sameAll ls ms = true) : sameAll ks ms = true := by
  match ks, ls, ms with
  | [], [], ms => exact second
  | k :: ks, l :: ls, m :: ms =>
    rw [sameAll, Bool.and_eq_true] at first second ⊢
    exact ⟨same_trans first.1 second.1, sameAll_trans first.2 second.2⟩
end

end Key

/-! ## Look-ups -/

namespace Entries

variable {name : String}

lemma valueOf?_cons_self (v : Value) (es : Entries) :
    valueOf? name ((.text name, v) :: es) = some v := by
  rw [valueOf?, if_pos rfl]

lemma valueOf?_cons_of_ne {e : Key × Value} (es : Entries) (other : e.1 ≠ .text name) :
    valueOf? name (e :: es) = valueOf? name es := by
  obtain ⟨k, v⟩ := e
  cases k with
  | text s =>
    have differ : s ≠ name := by
      rintro rfl
      exact other rfl
    rw [valueOf?, if_neg differ]
  | _ => rw [valueOf?]; simp

lemma valueOf?_append (es more : Entries) :
    valueOf? name (es ++ more) = (valueOf? name es).or (valueOf? name more) := by
  induction es with
  | nil => rfl
  | cons e es ih =>
    by_cases here : e.1 = .text name
    · obtain ⟨_, v⟩ := e
      subst here
      rw [List.cons_append, valueOf?_cons_self, valueOf?_cons_self, Option.some_or]
    · rw [List.cons_append, valueOf?_cons_of_ne _ here, valueOf?_cons_of_ne _ here, ih]

/-- Binding a key changes no name but that one. -/
lemma valueOf?_insert_of_ne {k : Key} (es : Entries) (v : Value) (other : k ≠ .text name) :
    (es.insert k v).valueOf? name = es.valueOf? name := by
  unfold insert
  by_cases bound : es.any (k.same ·.1) = true
  · -- the entries stay in place, and only those of the key get the value
    rw [if_pos bound]
    clear bound
    induction es with
    | nil => rfl
    | cons e es ih =>
      rw [List.map_cons]
      by_cases here : e.1 = .text name
      · have kept : k.same e.1 ≠ true := by
          rw [here, ne_eq, Key.same_text_iff]
          exact other
        obtain ⟨_, w⟩ := e
        subst here
        rw [if_neg kept, valueOf?_cons_self, valueOf?_cons_self]
      · have there : (if k.same e.1 = true then (e.1, v) else e).1 ≠ .text name := by
          split <;> exact here
        rw [valueOf?_cons_of_ne _ there, valueOf?_cons_of_ne _ here, ih]
  · rw [if_neg bound, valueOf?_append, valueOf?_cons_of_ne [] other]
    exact Option.or_none

lemma valueOf?_eq_none {es : Entries} (unbound : name ∉ es.names) : es.valueOf? name = none := by
  rw [← Option.not_isSome_iff_eq_none, valueOf?_isSome_iff]
  exact unbound

/-- The entries of a mapping updated with others: what these bind replaces what was bound. -/
def update (es more : Entries) : Entries := more.foldl (fun es e => es.insert e.1 e.2) es

lemma valueOf?_update (es : Entries) {more : Entries} (distinct : more.names.Nodup) :
    (es.update more).valueOf? name = (more.valueOf? name).or (es.valueOf? name) := by
  induction more generalizing es with
  | nil => rfl
  | cons e more ih =>
    have later : (names more).Nodup := by
      have front : (names [e] ++ names more).Nodup := by
        rwa [names, names, ← List.filterMap_append]
      exact (List.nodup_append.1 front).2.1
    rw [update, List.foldl_cons, ← update, ih _ later]
    -- what comes later does not bind the name again
    by_cases here : e.1 = .text name
    · obtain ⟨_, v⟩ := e
      subst here
      have unbound : name ∉ names more := (List.nodup_cons.1 distinct).1
      rw [valueOf?_eq_none unbound, valueOf?_insert_self, valueOf?_cons_self]
      rfl
    · rw [valueOf?_insert_of_ne _ _ here, valueOf?_cons_of_ne _ here]

end Entries

namespace Scope

variable {name : String}

/-- Layers answer as one row of entries. -/
lemma valueOf?_flatten (s : Scope) : Entries.valueOf? name s.flatten = s.valueOf? name := by
  induction s with
  | nil => rfl
  | cons layer s ih => rw [List.flatten_cons, Entries.valueOf?_append, ih, valueOf?_cons]

/-- Of entries with one key the first answers, so the later ones may be left out. -/
lemma valueOf?_firstBindings {seen : List Key} {es : Entries} (unseen : .text name ∉ seen) :
    (firstBindings seen es).valueOf? name = es.valueOf? name := by
  fun_induction firstBindings seen es with
  | case1 seen => rfl
  | case2 seen e rest known ih =>
    have other : e.1 ≠ .text name := by
      intro here
      obtain ⟨k, there, same⟩ := List.any_eq_true.1 known
      rw [here, Key.text_same_iff] at same
      exact unseen (same ▸ there)
    rw [ih unseen, Entries.valueOf?_cons_of_ne _ other]
  | case3 seen e rest unknown ih =>
    by_cases here : e.1 = .text name
    · obtain ⟨_, v⟩ := e
      subst here
      rw [Entries.valueOf?_cons_self, Entries.valueOf?_cons_self]
    · have unseen' : .text name ∉ e.1 :: seen := by
        rw [List.mem_cons, not_or]
        exact ⟨fun same => here same.symm, unseen⟩
      rw [Entries.valueOf?_cons_of_ne _ here, Entries.valueOf?_cons_of_ne _ here, ih unseen']

/-- **A scope answers as the mapping that it is merged into.** -/
theorem valueOf?_merged (s : Scope) : s.merged.valueOf? name = s.valueOf? name := by
  rw [merged, valueOf?_firstBindings List.not_mem_nil, valueOf?_flatten]

/-- Entries of which the later ones with a key were left out are as good as all of them, if what was
known then is known now. -/
lemma firstBindings_firstBindings {known seen : List Key} (es : Entries)
    (still : ∀ k : Key, known.any k.same = true → seen.any k.same = true) :
    firstBindings seen (firstBindings known es) = firstBindings seen es := by
  induction es generalizing known seen with
  | nil => rfl
  | cons e es ih =>
    by_cases left : known.any e.1.same = true
    · rw [firstBindings, if_pos left, ih still, firstBindings, if_pos (still e.1 left)]
    · rw [firstBindings, if_neg left, firstBindings, firstBindings]
      split
      · -- the key was new among the entries, but is known from elsewhere
        rename_i old
        apply ih
        intro k new
        rw [List.any_cons, Bool.or_eq_true_iff] at new
        obtain same | before := new
        · obtain ⟨l, there, same'⟩ := List.any_eq_true.1 old
          exact List.any_eq_true.2 ⟨l, there, Key.same_trans same same'⟩
        · exact still k before
      · congr 1
        apply ih
        intro k new
        rw [List.any_cons, Bool.or_eq_true_iff] at new ⊢
        exact new.imp_right (still k)

lemma firstBindings_append_firstBindings (seen : List Key) (front es : Entries) :
    firstBindings seen (front ++ firstBindings [] es) = firstBindings seen (front ++ es) := by
  induction front generalizing seen with
  | nil => exact firstBindings_firstBindings es fun _ none => by cases none
  | cons e front ih =>
    rw [List.cons_append, List.cons_append, firstBindings, firstBindings, ih, ih]

/-- The outer layers of a scope may be merged first. -/
lemma merged_append_merged (front s : Scope) :
    Scope.merged (front ++ [s.merged]) = Scope.merged (front ++ s) := by
  have flat : List.flatten (front ++ [s.merged]) = List.flatten front ++ s.merged := by
    rw [List.flatten_append, List.flatten_singleton]
  rw [merged, flat, merged, firstBindings_append_firstBindings, ← List.flatten_append, merged]

end Scope

end BraceTemplate
