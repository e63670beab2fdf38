import Mathlib
import BraceTemplate.Data.Description
import BraceTemplate.Proofs.Controls
import BraceTemplate.Proofs.Unwritable

/-!
# Descriptions on one line

A description is the JSON form of a value, or its literal where there is none, cut to eighty
characters.  There is one exactly for the values that can be displayed (`describe_fails_iff`): what
JSON cannot write for want of digits or of an end, the literal cannot write either.

JSON escapes every line feed, so the JSON form stands on one line
(`Value.lineFeed_not_mem_jsonInside`).  A literal escapes those of texts and bytes, but shows an
object as the object wants to be displayed: `Value.Shows` are the texts that the walk of the literal
comes to and writes as they are, and the literal holds a line feed exactly if one of them does
(`Value.lineFeed_mem_literalInside_iff`).

So a description may break its line only where the value has no JSON form.  `Value.Refused` follows
the walk of JSON to a key that JSON cannot write, or back to a collection that the walk is inside
of.  `Value.describe_fits_line` puts this together.
-/

namespace BraceTemplate

/-! ## Line feeds in brackets -/

lemma lineFeed_mem_append {s t : String} :
    '\n' ∈ (s ++ t).toList ↔ '\n' ∈ s.toList ∨ '\n' ∈ t.toList := by
  rw [String.toList_append, List.mem_append]

/-- What encloses a text on one line adds no line feed. -/
lemma lineFeed_mem_enclosed {opening closing : String} (front : '\n' ∉ opening.toList)
    (back : '\n' ∉ closing.toList) (s : String) :
    '\n' ∈ (opening ++ s ++ closing).toList ↔ '\n' ∈ s.toList := by
  rw [lineFeed_mem_append, lineFeed_mem_append, or_iff_left back, or_iff_right front]

lemma lineFeed_mem_commas (items : List String) :
    '\n' ∈ (", ".intercalate items).toList ↔ ∃ item ∈ items, '\n' ∈ item.toList := by
  have comma : '\n' ∉ (", " : String).toList := by decide
  induction items with
  | nil => simp
  | cons item items ih =>
    cases items with
    | nil => simp
    | cons next items =>
      rw [String.intercalate_cons_cons, lineFeed_mem_append, lineFeed_mem_append,
        or_iff_left comma, or_congr_right ih]
      simp only [List.mem_cons, exists_eq_or_imp]

lemma lineFeed_mem_squareBrackets (items : List String) :
    '\n' ∈ (squareBrackets items).toList ↔ ∃ item ∈ items, '\n' ∈ item.toList := by
  rw [squareBrackets, lineFeed_mem_enclosed (by decide) (by decide), lineFeed_mem_commas]

lemma lineFeed_mem_curlyBrackets (items : List String) :
    '\n' ∈ (curlyBrackets items).toList ↔ ∃ item ∈ items, '\n' ∈ item.toList := by
  rw [curlyBrackets, lineFeed_mem_enclosed (by decide) (by decide), lineFeed_mem_commas]

lemma lineFeed_mem_roundBrackets (items : List String) :
    '\n' ∈ (Key.roundBrackets items).toList ↔ ∃ item ∈ items, '\n' ∈ item.toList := by
  unfold Key.roundBrackets
  split
  · rw [lineFeed_mem_enclosed (by decide) (by decide)]
    simp
  · rw [lineFeed_mem_enclosed (by decide) (by decide), lineFeed_mem_commas]

/-! ## Rows that are written -/

/-- What holds of some text of a row holds of some item that the row is written from. -/
lemma exists_written_iff {ε α : Type} {f : α → Except ε String} {xs : List α} {ys : List String}
    {P : String → Prop} {Q : α → Prop} (all : xs.mapM f = .ok ys)
    (each : ∀ x ∈ xs, ∀ y, f x = .ok y → (P y ↔ Q x)) : (∃ y ∈ ys, P y) ↔ ∃ x ∈ xs, Q x := by
  have rows := mapM_eq_ok_iff.1 all
  clear all
  induction rows with
  | nil => simp
  | cons here _ ih =>
    have rest := ih fun x later => each x (List.mem_cons_of_mem _ later)
    rw [List.exists_mem_cons_iff, List.exists_mem_cons_iff, each _ List.mem_cons_self _ here]
    exact or_congr_right rest

lemma bindingLiteral_eq_ok_iff {key value : Except WritingFault String} {t : String} :
    bindingLiteral key value = .ok t ↔
      ∃ k v, key = .ok k ∧ value = .ok v ∧ t = k ++ ": " ++ v := by
  cases key <;> cases value <;> simp [bindingLiteral, pure, Except.pure, eq_comm]

lemma eq_toString_of_integerText {n : Int} {t : String} (written : integerText n = .ok t) :
    t = toString n := by
  unfold integerText at written
  split at written <;> cases written
  rfl

/-! ## Texts that a literal shows as they are -/

/-- A key shows a text as it is: an object what displays it, a decimal number its own text, and a
tuple what its items show. -/
inductive Key.Shows : Key → String → Prop
  | object (mark : Nat) (display : String) : Shows (.object mark display) display
  | decimal (text : String) (mark : Nat) : Shows (.decimal text mark) text
  | item {ks : List Key} {k : Key} {s : String} : k ∈ ks → Shows k s → Shows (.tuple ks) s

lemma lineFeed_mem_decimalLiteral (s : String) :
    '\n' ∈ (Text.decimalLiteral s).toList ↔ '\n' ∈ s.toList :=
  lineFeed_mem_enclosed (by decide) (by decide) s

/-- What is written without control characters, for something that shows no text as it is. -/
lemma lineFeed_iff_of_plain {t : String} {shows : String → Prop} (nothing : ∀ s, ¬ shows s)
    (free : Text.NoControl t.toList) :
    '\n' ∈ t.toList ↔ ∃ s, shows s ∧ '\n' ∈ s.toList :=
  iff_of_false (free.not_mem (by decide)) fun ⟨s, shown, _⟩ => nothing s shown

/-- A line feed in what some parts show is one in what some part shows. -/
lemma exists_shown_iff {α : Type} {xs : List α} {shows : α → String → Prop} :
    (∃ x ∈ xs, ∃ s, shows x s ∧ '\n' ∈ s.toList) ↔
      ∃ s, (∃ x ∈ xs, shows x s) ∧ '\n' ∈ s.toList := by
  constructor
  · rintro ⟨x, there, s, shown, feed⟩
    exact ⟨s, ⟨x, there, shown⟩, feed⟩
  · rintro ⟨s, ⟨x, there, shown⟩, feed⟩
    exact ⟨x, there, s, shown, feed⟩

/-- The literal of a key holds a line feed only within what the key shows as it is. -/
lemma Key.lineFeed_mem_literal_iff (k : Key) {t : String} (written : k.literal = .ok t) :
    '\n' ∈ t.toList ↔ ∃ s, k.Shows s ∧ '\n' ∈ s.toList := by
  cases k with
  | object mark display =>
    cases written
    refine ⟨fun feed => ⟨_, .object mark _, feed⟩, ?_⟩
    rintro ⟨_, ⟨⟩, feed⟩
    exact feed
  | decimal text mark =>
    cases written
    rw [lineFeed_mem_decimalLiteral]
    refine ⟨fun feed => ⟨text, .decimal text mark, feed⟩, ?_⟩
    rintro ⟨_, ⟨⟩, feed⟩
    exact feed
  | tuple ks =>
    have each : ∀ k ∈ ks, ∀ t, k.literal = .ok t →
        ('\n' ∈ t.toList ↔ ∃ s, k.Shows s ∧ '\n' ∈ s.toList) :=
      fun k there _ => lineFeed_mem_literal_iff k
    rw [Key.literal, Key.literals_eq] at written
    obtain ⟨items, all, same⟩ := bind_eq_ok_iff.1 written
    cases same
    rw [lineFeed_mem_roundBrackets, exists_written_iff all each, exists_shown_iff]
    refine exists_congr fun s => and_congr_left fun _ => ?_
    constructor
    · rintro ⟨k, there, shown⟩
      exact .item there shown
    · rintro ⟨⟩
      exact ⟨_, ‹_›, ‹_›⟩
  | int n =>
    rw [eq_toString_of_integerText written]
    exact lineFeed_iff_of_plain (by rintro _ ⟨⟩) (Text.noControl_toString n)
  | null | undefined =>
    cases written
    exact lineFeed_iff_of_plain (by rintro _ ⟨⟩) (by decide)
  | bool b =>
    cases written
    exact lineFeed_iff_of_plain (by rintro _ ⟨⟩) (by cases b <;> decide)
  | float x =>
    cases written
    exact lineFeed_iff_of_plain (by rintro _ ⟨⟩) (Binary64.noControl_written .float x)
  | complex re im =>
    cases written
    exact lineFeed_iff_of_plain (by rintro _ ⟨⟩) (Binary64.noControl_complexLiteral re im)
  | text s =>
    cases written
    exact lineFeed_iff_of_plain (by rintro _ ⟨⟩) (Text.noControl_literalQuote s)
  | bytes bs =>
    cases written
    exact lineFeed_iff_of_plain (by rintro _ ⟨⟩) (Text.noControl_bytesLiteral bs)
termination_by sizeOf k
decreasing_by
  have smaller := List.sizeOf_lt_of_mem there
  subst_vars
  simp only [Key.tuple.sizeOf_spec]
  omega

/-- The bindings that a walk shows for a value, and the collections that it is inside of there. -/
def Value.bindings? (g : Graph) (inside : List Nat) : Value → Option (Entries × List Nat)
  | .scope layers => some (Scope.merged layers, inside)
  | .collection place =>
    match g.enter? inside place with
    | some (.map es) => some (es, place :: inside)
    | some (.scope layers) => some (Scope.merged layers, inside)
    | _ => none
  | _ => none

/-- A value shows a text as it is, on a walk that is inside of some collections: an object what
displays it, a decimal number its own text, and a scope or a collection what its keys and the values
in it show. -/
inductive Value.Shows (g : Graph) : List Nat → Value → String → Prop
  | object {inside : List Nat} (mark : Nat) (display : String)
      (attributes lent : List (String × Value)) :
      Shows g inside (.object mark display attributes lent) display
  | decimal {inside : List Nat} (text : String) (mark : Nat) :
      Shows g inside (.decimal text mark) text
  | key {inside within : List Nat} {v : Value} {es : Entries} {e : Key × Value} {s : String} :
      v.bindings? g inside = some (es, within) → e ∈ es → e.1.Shows s → Shows g inside v s
  | bound {inside within : List Nat} {v : Value} {es : Entries} {e : Key × Value} {s : String} :
      v.bindings? g inside = some (es, within) → e ∈ es → Shows g within e.2 s → Shows g inside v s
  | item {inside : List Nat} {place : Nat} {vs : List Value} {v : Value} {s : String} :
      g.enter? inside place = some (.list vs) ∨ g.enter? inside place = some (.tuple vs) →
      v ∈ vs → Shows g (place :: inside) v s → Shows g inside (.collection place) s

namespace Value

variable {g : Graph} {inside : List Nat}

lemma shows_bindings_iff {v : Value} {es : Entries} {within : List Nat} {s : String}
    (bindings : v.bindings? g inside = some (es, within)) :
    v.Shows g inside s ↔ ∃ e ∈ es, e.1.Shows s ∨ e.2.Shows g within s := by
  constructor
  · intro shown
    cases shown with
    | object | decimal => simp [bindings?] at bindings
    | key other there shown =>
      cases bindings.symm.trans other
      exact ⟨_, there, .inl shown⟩
    | bound other there shown =>
      cases bindings.symm.trans other
      exact ⟨_, there, .inr shown⟩
    | item entered =>
      rcases entered with entered | entered <;> simp [bindings?, entered] at bindings
  · rintro ⟨e, there, shown | shown⟩
    · exact .key bindings there shown
    · exact .bound bindings there shown

lemma shows_items_iff {place : Nat} {vs : List Value} {s : String}
    (entered : g.enter? inside place = some (.list vs) ∨
      g.enter? inside place = some (.tuple vs)) :
    (Value.collection place).Shows g inside s ↔ ∃ v ∈ vs, v.Shows g (place :: inside) s := by
  constructor
  · intro shown
    cases shown with
    | key bindings | bound bindings =>
      rcases entered with entered | entered <;> simp [bindings?, entered] at bindings
    | item other there shown =>
      rcases entered with entered | entered <;> rcases other with other | other <;>
        cases entered.symm.trans other <;> exact ⟨_, there, shown⟩
  · rintro ⟨v, there, shown⟩
    exact .item entered there shown

/-- What is no collection, and holds no bindings, shows its own text or none. -/
lemma shows_plain_iff {v : Value} {s : String} (plain : v.bindings? g inside = none)
    (other : ∀ place, v ≠ .collection place) :
    v.Shows g inside s ↔
      (∃ mark attributes lent, v = .object mark s attributes lent) ∨
        ∃ mark, v = .decimal s mark := by
  constructor
  · intro shown
    cases shown with
    | object => exact .inl ⟨_, _, _, rfl⟩
    | decimal => exact .inr ⟨_, rfl⟩
    | key bindings | bound bindings => simp [plain] at bindings
    | item => exact absurd rfl (other _)
  · rintro (⟨mark, attributes, lent, rfl⟩ | ⟨mark, rfl⟩)
    · exact .object mark s attributes lent
    · exact .decimal s mark

lemma not_shows_of_plain {v : Value} (plain : v.bindings? g inside = none)
    (other : (∀ place, v ≠ .collection place) ∧ (∀ text mark, v ≠ .decimal text mark) ∧
      ∀ mark display attributes lent, v ≠ .object mark display attributes lent) (s : String) :
    ¬ v.Shows g inside s := by
  obtain ⟨collection, decimal, object⟩ := other
  rw [shows_plain_iff plain collection]
  rintro (⟨mark, attributes, lent, rfl⟩ | ⟨mark, rfl⟩)
  · exact object _ _ _ _ rfl
  · exact decimal _ _ rfl

lemma not_shows_of_left {place : Nat} (left : g.enter? inside place = none) (s : String) :
    ¬ (Value.collection place).Shows g inside s := by
  intro shown
  cases shown with
  | key bindings | bound bindings => simp [bindings?, left] at bindings
  | item entered => simp [left] at entered

end Value

lemma lineFeed_mem_entry {k v : String} :
    '\n' ∈ (k ++ ": " ++ v).toList ↔ '\n' ∈ k.toList ∨ '\n' ∈ v.toList := by
  have colon : '\n' ∉ (": " : String).toList := by decide
  rw [lineFeed_mem_append, lineFeed_mem_append, or_iff_left colon]

/-- Bindings are written with a line feed if some key or value shows one, where that is so of what
is written for each value. -/
lemma lineFeed_mem_bindings {es : Entries} {written : Value → Except WritingFault String}
    {shows : Value → String → Prop} {items : List String}
    (all : (es.mapM fun e => bindingLiteral e.1.literal (written e.2)) = .ok items)
    (each : ∀ e ∈ es, ∀ t, written e.2 = .ok t →
      ('\n' ∈ t.toList ↔ ∃ s, shows e.2 s ∧ '\n' ∈ s.toList)) :
    '\n' ∈ (curlyBrackets items).toList ↔
      ∃ s, (∃ e ∈ es, e.1.Shows s ∨ shows e.2 s) ∧ '\n' ∈ s.toList := by
  rw [lineFeed_mem_curlyBrackets, ← exists_shown_iff]
  refine exists_written_iff all fun e there t shown => ?_
  obtain ⟨k, v, key, value, rfl⟩ := bindingLiteral_eq_ok_iff.1 shown
  rw [lineFeed_mem_entry, Key.lineFeed_mem_literal_iff _ key, each e there v value]
  simp only [← exists_or, ← or_and_right]

lemma noControl_ellipsis (c : Collection) : Text.NoControl c.ellipsis.toList := by
  have list : Text.NoControl ("[...]" : String).toList := by decide
  have tuple : Text.NoControl ("(...)" : String).toList := by decide
  have map : Text.NoControl ("\x7b...\x7d" : String).toList := by decide
  cases c
  · exact list
  · exact tuple
  · exact map
  · exact map

/-- **The literal of a value holds a line feed only within what the value shows as it is.** -/
theorem Value.lineFeed_mem_literalInside_iff (g : Graph) (inside opened : List Nat) (v : Value)
    {t : String} (written : v.literalInside g inside opened = .ok t) :
    '\n' ∈ t.toList ↔ ∃ s, v.Shows g inside s ∧ '\n' ∈ s.toList := by
  fun_induction Value.literalInside g inside opened v generalizing t with
  | case11 inside opened layers ih =>
    have shape : (Value.scope layers).literalInside g inside opened = .ok t := by
      rw [Value.literalInside]
      exact written
    rw [literalInside_scope] at shape
    obtain ⟨items, all, rfl⟩ := map_eq_ok_iff.1 shape
    rw [scopeBrackets, lineFeed_mem_enclosed (by decide) (by decide),
      lineFeed_mem_bindings all fun e there _ => ih e there]
    simp only [shows_bindings_iff (v := .scope layers) rfl]
  | case12 inside opened place vs entered ih =>
    obtain ⟨items, all, rfl⟩ := map_eq_ok_iff.1 written
    rw [lineFeed_mem_squareBrackets, exists_written_iff all fun v _ _ => ih v, exists_shown_iff]
    simp only [shows_items_iff (.inl entered)]
  | case13 inside opened place vs entered ih =>
    obtain ⟨items, all, rfl⟩ := map_eq_ok_iff.1 written
    rw [lineFeed_mem_roundBrackets, exists_written_iff all fun v _ _ => ih v, exists_shown_iff]
    simp only [shows_items_iff (.inr entered)]
  | case14 inside opened place es entered ih =>
    have bindings : (Value.collection place).bindings? g inside = some (es, place :: inside) := by
      simp [bindings?, entered]
    obtain ⟨items, all, rfl⟩ := map_eq_ok_iff.1 written
    rw [lineFeed_mem_bindings all fun e _ _ => ih e]
    simp only [shows_bindings_iff bindings]
  | case15 => cases written
  | case16 inside opened place layers entered fresh ih =>
    have bindings : (Value.collection place).bindings? g inside =
        some (Scope.merged layers, inside) := by simp [bindings?, entered]
    obtain ⟨items, all, rfl⟩ := map_eq_ok_iff.1 written
    rw [scopeBrackets, lineFeed_mem_enclosed (by decide) (by decide),
      lineFeed_mem_bindings all fun e _ _ => ih e]
    simp only [shows_bindings_iff bindings]
  | case17 inside opened place left =>
    cases written
    refine lineFeed_iff_of_plain (not_shows_of_left left) ?_
    cases g.at? place with
    | none => decide
    | some c => exact noControl_ellipsis c
  | case4 inside opened n =>
    rw [eq_toString_of_integerText written]
    exact lineFeed_iff_of_plain (not_shows_of_plain rfl (by simp)) (Text.noControl_toString n)
  | case6 inside opened text mark =>
    cases written
    rw [lineFeed_mem_decimalLiteral]
    refine ⟨fun feed => ⟨text, .decimal text mark, feed⟩, ?_⟩
    rintro ⟨s, shown, feed⟩
    obtain ⟨_, _, _, same⟩ | ⟨_, same⟩ := (shows_plain_iff rfl (by simp)).1 shown <;> cases same
    exact feed
  | case10 inside opened mark display attributes lent =>
    cases written
    refine ⟨fun feed => ⟨_, .object mark _ attributes lent, feed⟩, ?_⟩
    rintro ⟨s, shown, feed⟩
    obtain ⟨_, _, _, same⟩ | ⟨_, same⟩ := (shows_plain_iff rfl (by simp)).1 shown <;> cases same
    exact feed
  | case1 | case2 =>
    cases written
    exact lineFeed_iff_of_plain (not_shows_of_plain rfl (by simp)) (by decide)
  | case3 inside opened b =>
    cases written
    exact lineFeed_iff_of_plain (not_shows_of_plain rfl (by simp)) (by cases b <;> decide)
  | case5 inside opened x =>
    cases written
    exact lineFeed_iff_of_plain (not_shows_of_plain rfl (by simp))
      (Binary64.noControl_written .float x)
  | case7 inside opened re im =>
    cases written
    exact lineFeed_iff_of_plain (not_shows_of_plain rfl (by simp))
      (Binary64.noControl_complexLiteral re im)
  | case8 inside opened s =>
    cases written
    exact lineFeed_iff_of_plain (not_shows_of_plain rfl (by simp))
      (Text.noControl_literalQuote s)
  | case9 inside opened bs =>
    cases written
    exact lineFeed_iff_of_plain (not_shows_of_plain rfl (by simp))
      (Text.noControl_bytesLiteral bs)

/-! ## Values without a JSON form -/

/-- A value has no JSON form, on a walk that is inside of some collections: the walk comes to a
collection that it is inside of, or to a key that JSON cannot write. -/
inductive Value.Refused (g : Graph) : List Nat → Value → Prop
  | again {inside : List Nat} {place : Nat} :
      place ∈ inside → (g.at? place).isSome → Refused g inside (.collection place)
  | key {inside : List Nat} {place : Nat} {es : Entries} {e : Key × Value} :
      g.enter? inside place = some (.map es) → e ∈ es → e.1.json? = none →
      Refused g inside (.collection place)
  | bound {inside : List Nat} {place : Nat} {es : Entries} {e : Key × Value} :
      g.enter? inside place = some (.map es) → e ∈ es → Refused g (place :: inside) e.2 →
      Refused g inside (.collection place)
  | item {inside : List Nat} {place : Nat} {vs : List Value} {v : Value} :
      g.enter? inside place = some (.list vs) ∨ g.enter? inside place = some (.tuple vs) →
      v ∈ vs → Refused g (place :: inside) v → Refused g inside (.collection place)

namespace Value

variable {g : Graph} {inside : List Nat}

lemma refused_map_iff {place : Nat} {es : Entries}
    (entered : g.enter? inside place = some (.map es)) :
    (Value.collection place).Refused g inside ↔
      ∃ e ∈ es, e.1.json? = none ∨ e.2.Refused g (place :: inside) := by
  constructor
  · intro refused
    cases refused with
    | again joining => simp [Graph.enter?, joining] at entered
    | key other there none =>
      cases entered.symm.trans other
      exact ⟨_, there, .inl none⟩
    | bound other there refused =>
      cases entered.symm.trans other
      exact ⟨_, there, .inr refused⟩
    | item other => simp [entered] at other
  · rintro ⟨e, there, none | refused⟩
    · exact .key entered there none
    · exact .bound entered there refused

lemma refused_items_iff {place : Nat} {vs : List Value}
    (entered : g.enter? inside place = some (.list vs) ∨
      g.enter? inside place = some (.tuple vs)) :
    (Value.collection place).Refused g inside ↔ ∃ v ∈ vs, v.Refused g (place :: inside) := by
  constructor
  · intro refused
    cases refused with
    | again joining =>
      rcases entered with entered | entered <;> simp [Graph.enter?, joining] at entered
    | key other | bound other => rcases entered with entered | entered <;> simp [entered] at other
    | item other there refused =>
      rcases entered with entered | entered <;> rcases other with other | other <;>
        cases entered.symm.trans other <;> exact ⟨_, there, refused⟩
  · rintro ⟨v, there, refused⟩
    exact .item entered there refused

lemma not_refused_scope {place : Nat} {layers : Scope}
    (entered : g.enter? inside place = some (.scope layers)) :
    ¬ (Value.collection place).Refused g inside := by
  intro refused
  cases refused with
  | again joining => simp [Graph.enter?, joining] at entered
  | key other | bound other | item other => simp [entered] at other

lemma refused_left_iff {place : Nat} (left : g.enter? inside place = none) :
    (Value.collection place).Refused g inside ↔ (g.at? place).isSome := by
  constructor
  · intro refused
    cases refused with
    | again joining there => exact there
    | key entered | bound entered | item entered => simp [left] at entered
  · intro there
    have joining : place ∈ inside := by
      by_contra fresh
      rw [Graph.enter?, if_neg fresh] at left
      rw [left] at there
      cases there
    exact .again joining there

end Value

/-! ## The JSON form -/

lemma Key.json?_eq_none_of_hasInt {k : Key} {n : Int} (has : k.HasInt n) (large : Overlarge n) :
    k.json? = none := by
  cases has with
  | int n => simp [Key.json?, integerText_eq_error_iff.2 ⟨large, rfl⟩, Except.toOption]
  | item => rfl

lemma jsonBinding_fails_iff {key? : Option String} {value : Except JsonFault String} :
    Fails (jsonBinding key? value) ↔ key? = none ∨ Fails value := by
  cases key? <;> cases value <;> simp [jsonBinding, pure, Except.pure]

lemma jsonBinding_eq_ok_iff {key? : Option String} {value : Except JsonFault String} {t : String} :
    jsonBinding key? value = .ok t ↔
      ∃ k v, key? = some k ∧ value = .ok v ∧ t = Text.jsonQuote k ++ ": " ++ v := by
  cases key? <;> cases value <;> simp [jsonBinding, pure, Except.pure, eq_comm]

lemma lineFeed_not_mem_jsonBinding {key? : Option String} {value : Except JsonFault String}
    {t : String} (written : jsonBinding key? value = .ok t)
    (single : ∀ text, value = .ok text → '\n' ∉ text.toList) : '\n' ∉ t.toList := by
  obtain ⟨key, text, -, given, rfl⟩ := jsonBinding_eq_ok_iff.1 written
  rw [lineFeed_mem_entry, not_or]
  exact ⟨(Text.noControl_jsonQuote key).not_mem (by decide), single text given⟩

lemma jsonBinding_eq_endless {key? : Option String} {value : Except JsonFault String}
    (h : jsonBinding key? value = .error .endless) : value = .error .endless := by
  cases key? <;> cases value <;> simp_all [jsonBinding, pure, Except.pure]

namespace Value

variable {g : Graph} {inside : List Nat}

lemma not_refused_of_plain {v : Value} (other : ∀ place, v ≠ .collection place) :
    ¬ v.Refused g inside := by
  intro refused
  cases refused <;> exact other _ rfl

/-- Bindings have no JSON form if their mapping cannot be displayed, or if JSON cannot write a key
or refuses a value. -/
lemma json_bindings_fail_iff {v : Value} {es : Entries}
    {written : Value → Except JsonFault String} {refused : Value → Prop}
    (mapping : v.entries? g = some es)
    (each : ∀ e ∈ es, Fails (written e.2) ↔ e.2.Unwritable g ∨ refused e.2) :
    Fails (es.mapM fun e => jsonBinding e.1.json? (written e.2)) ↔
      v.Unwritable g ∨ ∃ e ∈ es, e.1.json? = none ∨ refused e.2 := by
  simp only [fails_mapM_iff, jsonBinding_fails_iff, unwritable_iff_of_entries mapping]
  constructor
  · rintro ⟨e, there, none | fails⟩
    · exact .inr ⟨e, there, .inl none⟩
    · obtain unwritable | refused := (each e there).1 fails
      · exact .inl ⟨e, there, .inr unwritable⟩
      · exact .inr ⟨e, there, .inr refused⟩
  · rintro (⟨e, there, ⟨n, has, large⟩ | unwritable⟩ | ⟨e, there, none | refused⟩)
    · exact ⟨e, there, .inl (Key.json?_eq_none_of_hasInt has large)⟩
    · exact ⟨e, there, .inr ((each e there).2 (.inl unwritable))⟩
    · exact ⟨e, there, .inl none⟩
    · exact ⟨e, there, .inr ((each e there).2 (.inr refused))⟩

/-- A value has no JSON form exactly if it cannot be displayed or the walk through it is refused. -/
lemma jsonInside_fails_iff (inside : List Nat) (v : Value) :
    Fails (v.jsonInside g inside) ↔ v.Unwritable g ∨ v.Refused g inside := by
  fun_induction Value.jsonInside g inside v with
  | case3 inside n =>
    rw [fails_mapError_iff, integerText_fails_iff, unwritable_int_iff,
      or_iff_left (not_refused_of_plain (by simp))]
  | case6 inside place vs entered ih =>
    have found := (Graph.enter?_eq_some_iff.1 entered).2
    have items : (Value.collection place).items? g = some vs := by simp [items?, found]
    rw [fails_map_iff, fails_mapM_iff, unwritable_iff_of_items items,
      refused_items_iff (.inl entered)]
    simp only [ih, and_or_left, exists_or]
  | case7 inside place vs entered ih =>
    have found := (Graph.enter?_eq_some_iff.1 entered).2
    have items : (Value.collection place).items? g = some vs := by simp [items?, found]
    rw [fails_map_iff, fails_mapM_iff, unwritable_iff_of_items items,
      refused_items_iff (.inr entered)]
    simp only [ih, and_or_left, exists_or]
  | case8 inside place es entered ih =>
    have found := (Graph.enter?_eq_some_iff.1 entered).2
    have entries : (Value.collection place).entries? g = some es := by simp [entries?, found]
    rw [fails_map_iff, json_bindings_fail_iff entries fun e _ => ih e, refused_map_iff entered]
  | case9 inside place layers entered =>
    rw [fails_map_iff, fails_mapError_iff, literal_fails_iff,
      or_iff_left (not_refused_scope entered)]
  | case10 inside place left there =>
    exact iff_of_true (fails_error _) (.inr ((refused_left_iff left).2 there))
  | case11 inside place left missing =>
    have nothing : g.at? place = none := by simpa using missing
    refine iff_of_false (not_fails_ok _) ?_
    rintro (unwritable | refused)
    · refine not_unwritable_of_plain ?_ ?_ ?_ (by simp) unwritable <;>
        simp [items?, entries?, layers?, nothing]
    · exact missing ((refused_left_iff left).1 refused)
  | case12 inside v _ _ _ _ _ other =>
    rw [fails_map_iff, fails_mapError_iff, literal_fails_iff,
      or_iff_left (not_refused_of_plain other)]
  | _ =>
    refine iff_of_false (not_fails_ok _) ?_
    rintro (unwritable | refused)
    · exact not_unwritable_of_plain rfl rfl rfl (by simp) unwritable
    · exact not_refused_of_plain (by simp) refused

/-- The walk of JSON ends in an endless literal only of what cannot be displayed. -/
lemma unwritable_of_json_endless (inside : List Nat) (v : Value)
    (endless : v.jsonInside g inside = .error .endless) : v.Unwritable g := by
  fun_induction Value.jsonInside g inside v with
  | case3 inside n =>
    have fails : Fails ((integerText n).mapError JsonFault.ofWriting) := ⟨_, endless⟩
    rwa [fails_mapError_iff, integerText_fails_iff, ← unwritable_int_iff] at fails
  | case6 inside place vs entered ih | case7 inside place vs entered ih =>
    have found := (Graph.enter?_eq_some_iff.1 entered).2
    have items : (Value.collection place).items? g = some vs := by simp [items?, found]
    obtain ⟨before, u, after, rfl, -, failed⟩ := mapM_eq_error_iff.1 (map_eq_error_iff.1 endless)
    exact .of_part (.item items (by simp)) (ih u failed)
  | case8 inside place es entered ih =>
    have found := (Graph.enter?_eq_some_iff.1 entered).2
    have entries : (Value.collection place).entries? g = some es := by simp [entries?, found]
    obtain ⟨before, e, after, rfl, -, failed⟩ := mapM_eq_error_iff.1 (map_eq_error_iff.1 endless)
    exact .of_part (.bound entries (by simp)) (ih e (jsonBinding_eq_endless failed))
  | case9 inside place layers entered =>
    have fails : Fails (((Value.collection place).literal g).mapError JsonFault.ofWriting) :=
      ⟨_, map_eq_error_iff.1 endless⟩
    rwa [fails_mapError_iff, literal_fails_iff] at fails
  | case12 inside v =>
    have fails : Fails ((v.literal g).mapError JsonFault.ofWriting) :=
      ⟨_, map_eq_error_iff.1 endless⟩
    rwa [fails_mapError_iff, literal_fails_iff] at fails
  | _ => cases endless

/-- **The JSON form of a value stands on one line.** -/
theorem lineFeed_not_mem_jsonInside (inside : List Nat) (v : Value) {t : String}
    (written : v.jsonInside g inside = .ok t) : '\n' ∉ t.toList := by
  fun_induction Value.jsonInside g inside v generalizing t with
  | case6 inside place vs entered ih | case7 inside place vs entered ih =>
    obtain ⟨items, all, rfl⟩ := map_eq_ok_iff.1 written
    rw [lineFeed_mem_squareBrackets,
      exists_written_iff all fun v _ _ json => iff_of_false (ih v json) not_false]
    simp
  | case8 inside place es entered ih =>
    obtain ⟨items, all, rfl⟩ := map_eq_ok_iff.1 written
    rw [lineFeed_mem_curlyBrackets, exists_written_iff all fun e _ _ json =>
      iff_of_false (lineFeed_not_mem_jsonBinding json fun _ => ih e) not_false]
    simp
  | case3 inside n =>
    cases text : integerText n with
    | error w => simp [text, Except.mapError] at written
    | ok digits =>
      rw [text] at written
      cases written
      rw [eq_toString_of_integerText text]
      exact (Text.noControl_toString n).not_mem (by decide)
  | case9 | case12 =>
    obtain ⟨literal, -, rfl⟩ := map_eq_ok_iff.1 written
    exact (Text.noControl_jsonQuote _).not_mem (by decide)
  | case10 => cases written
  | case1 | case11 =>
    cases written
    decide
  | case2 inside b =>
    cases written
    cases b <;> decide
  | case4 inside x =>
    cases written
    exact (Binary64.noControl_json x).not_mem (by decide)
  | case5 inside s =>
    cases written
    exact (Text.noControl_jsonQuote s).not_mem (by decide)

end Value

/-! ## Bindings as a mapping -/

namespace Entries

variable {g : Graph} {v : Value} {es : Entries}

lemma literal_fails_iff (mapping : v.entries? g = some es) :
    Fails (es.literal g) ↔ v.Unwritable g := by
  rw [Entries.literal, fails_map_iff, Value.bindings_fail_iff,
    Value.unwritable_iff_of_entries mapping]
  simp only [Value.literal_fails_iff]

lemma json_fails_iff (mapping : v.entries? g = some es) :
    Fails (es.json g) ↔ v.Unwritable g ∨ ∃ e ∈ es, e.1.json? = none ∨ e.2.Refused g [] := by
  rw [Entries.json, fails_map_iff]
  exact Value.json_bindings_fail_iff mapping fun e _ => e.2.jsonInside_fails_iff []

lemma unwritable_of_json_endless (mapping : v.entries? g = some es)
    (endless : es.json g = .error .endless) : v.Unwritable g := by
  obtain ⟨before, e, after, rfl, -, failed⟩ := mapM_eq_error_iff.1 (map_eq_error_iff.1 endless)
  have inner := Value.unwritable_of_json_endless [] e.2 (jsonBinding_eq_endless failed)
  exact .of_part (.bound mapping (by simp)) inner

lemma lineFeed_not_mem_json {t : String} (written : es.json g = .ok t) : '\n' ∉ t.toList := by
  obtain ⟨items, all, rfl⟩ := map_eq_ok_iff.1 written
  have single : ∀ e ∈ es, ∀ t, jsonBinding e.1.json? (e.2.jsonInside g []) = .ok t →
      '\n' ∉ t.toList := by
    intro e _ t json
    exact lineFeed_not_mem_jsonBinding json fun _ => e.2.lineFeed_not_mem_jsonInside []
  rw [lineFeed_mem_curlyBrackets,
    exists_written_iff all fun e there t json => iff_of_false (single e there t json) not_false]
  simp

lemma lineFeed_mem_literal_iff {t : String} (written : es.literal g = .ok t) :
    '\n' ∈ t.toList ↔ ∃ s, (∃ e ∈ es, e.1.Shows s ∨ e.2.Shows g [] s) ∧ '\n' ∈ s.toList := by
  obtain ⟨items, all, rfl⟩ := map_eq_ok_iff.1 written
  exact lineFeed_mem_bindings all fun e _ _ => e.2.lineFeed_mem_literalInside_iff g [] []

end Entries

/-! ## Descriptions -/

lemma jsonOrLiteral_fails_iff {json : Except JsonFault String}
    {literal : Except WritingFault String} {unwritable : Prop}
    (endless : json = .error .endless → unwritable) (shown : Fails literal ↔ unwritable)
    (refused : unwritable → Fails json) :
    Fails (jsonOrLiteral json literal) ↔ unwritable := by
  cases json with
  | ok form =>
    refine iff_of_false (not_fails_ok form) fun unwritable => ?_
    exact not_fails_ok form (refused unwritable)
  | error e =>
    cases e with
    | refused => exact shown
    | endless => exact iff_of_true (fails_error _) (endless rfl)

lemma lineFeed_mem_jsonOrLiteral {json : Except JsonFault String}
    {literal : Except WritingFault String} {t : String} {shown : Prop}
    (written : jsonOrLiteral json literal = .ok t)
    (single : ∀ t, json = .ok t → '\n' ∉ t.toList)
    (feed : ∀ t, literal = .ok t → ('\n' ∈ t.toList ↔ shown)) :
    '\n' ∈ t.toList ↔ Fails json ∧ shown := by
  cases json with
  | ok form =>
    cases written
    exact iff_of_false (single _ rfl) fun ⟨fails, _⟩ => not_fails_ok _ fails
  | error e =>
    cases e with
    | refused => rw [feed t written, and_iff_right (fails_error _)]
    | endless => cases written

namespace Value

variable {g : Graph} {v : Value}

/-- A value has no JSON form as a whole; a scope counts as the mapping of its bindings. -/
def WithoutJson (g : Graph) (v : Value) : Prop :=
  match v.layers? g with
  | some layers => ∃ e ∈ Scope.merged layers, e.1.json? = none ∨ e.2.Refused g []
  | none => v.Refused g []

/-- **A value has no description exactly if there is an obstacle in it.** -/
theorem describe_fails_iff : Fails (v.describe g) ↔ v.Unwritable g := by
  rw [describe, fails_map_iff, fullDescription]
  cases scope : v.layers? g with
  | some layers =>
    have entries := entries?_of_layers? scope
    exact jsonOrLiteral_fails_iff (Entries.unwritable_of_json_endless entries)
      (Entries.literal_fails_iff entries) fun unwritable =>
        (Entries.json_fails_iff entries).2 (.inl unwritable)
  | none =>
    exact jsonOrLiteral_fails_iff (v.unwritable_of_json_endless []) literal_fails_iff
      fun unwritable => (v.jsonInside_fails_iff []).2 (.inl unwritable)

lemma bindings?_of_layers? {layers : Scope} (scope : v.layers? g = some layers) :
    v.bindings? g [] = some (Scope.merged layers, []) := by
  cases v with
  | scope =>
    cases scope
    rfl
  | collection place =>
    cases found : g.at? place with
    | none => simp [layers?, found] at scope
    | some c => cases c <;> simp_all [layers?, bindings?, Graph.enter?]
  | _ => cases scope

/-- **The full description of a value breaks its line exactly if the value has no JSON form and
shows a text with a line feed.** -/
theorem lineFeed_mem_fullDescription_iff {full : String}
    (written : v.fullDescription g = .ok full) :
    '\n' ∈ full.toList ↔ v.WithoutJson g ∧ ∃ s, v.Shows g [] s ∧ '\n' ∈ s.toList := by
  have writable : ¬ v.Unwritable g := by
    rw [← describe_fails_iff, describe, written]
    exact not_fails_ok _
  rw [fullDescription] at written
  rw [WithoutJson]
  cases scope : v.layers? g with
  | some layers =>
    rw [scope] at written
    rw [lineFeed_mem_jsonOrLiteral written (fun _ => Entries.lineFeed_not_mem_json)
      (fun _ => Entries.lineFeed_mem_literal_iff),
      Entries.json_fails_iff (entries?_of_layers? scope), or_iff_right writable]
    simp only [shows_bindings_iff (bindings?_of_layers? scope)]
  | none =>
    rw [scope] at written
    rw [lineFeed_mem_jsonOrLiteral written (fun _ => v.lineFeed_not_mem_jsonInside [])
      (fun _ => v.lineFeed_mem_literalInside_iff g [] []), jsonInside_fails_iff,
      or_iff_right writable]

end Value

lemma length_clip_le {limit : Nat} (room : 3 ≤ limit) (s : String) :
    (clip limit s).length ≤ limit := by
  unfold clip
  split
  · rename_i long
    have cut : (s.toList.take (limit - 3)).length ≤ limit - 3 := List.length_take_le _ _
    have dots : ("..." : String).length = 3 := by decide
    rw [String.length_append, String.length_ofList, dots]
    omega
  · omega

lemma clip_eq (limit : Nat) (s : String) :
    s.length ≤ limit ∧ clip limit s = s ∨
      limit < s.length ∧ (clip limit s).toList = s.toList.take (limit - 3) ++ ['.', '.', '.'] := by
  unfold clip
  split
  · rename_i long
    exact .inr ⟨long, by rw [String.toList_append, String.toList_ofList]; rfl⟩
  · rename_i short
    exact .inl ⟨Nat.not_lt.1 short, rfl⟩

lemma lineFeed_mem_of_mem_clip {limit : Nat} {s : String} (feed : '\n' ∈ (clip limit s).toList) :
    '\n' ∈ s.toList := by
  obtain ⟨-, same⟩ | ⟨-, cut⟩ := clip_eq limit s
  · rwa [same] at feed
  · rw [cut, List.mem_append, or_iff_left (by decide)] at feed
    exact List.mem_of_mem_take feed

namespace Value

variable {g : Graph}

/-- **A value is described exactly if there is no obstacle in it.  Its description has at most
eighty characters, and stands on one line unless the value has no JSON form and shows a text with a
line feed.**  It is the full description, or the first 77 characters of that and three dots. -/
theorem describe_fits_line (g : Graph) (v : Value) :
    (Fails (v.describe g) ↔ v.Unwritable g) ∧
    ∀ t, v.describe g = .ok t → t.length ≤ 80 ∧
      ∃ full, v.fullDescription g = .ok full ∧
        (full.length ≤ 80 ∧ t = full ∨
          80 < full.length ∧ t.toList = full.toList.take 77 ++ ['.', '.', '.']) ∧
        ('\n' ∈ full.toList ↔ v.WithoutJson g ∧ ∃ s, v.Shows g [] s ∧ '\n' ∈ s.toList) ∧
        ('\n' ∈ t.toList → v.WithoutJson g ∧ ∃ s, v.Shows g [] s ∧ '\n' ∈ s.toList) := by
  refine ⟨describe_fails_iff, fun t described => ?_⟩
  obtain ⟨full, written, rfl⟩ := map_eq_ok_iff.1 described
  have broken := lineFeed_mem_fullDescription_iff written
  exact ⟨length_clip_le (by decide) full, full, written, clip_eq descriptionLimit full, broken,
    fun feed => broken.1 (lineFeed_mem_of_mem_clip feed)⟩

/-- An object with a line feed in what displays it is described on one line where it stands under a
name. -/
theorem object_described_as_json :
    let g : Graph := ⟨[.map [(.text "k", .object 0 "a\nb" [] [])]]⟩
    (Value.collection 0).describe g = .ok "\x7b\"k\": \"a\\nb\"\x7d" ∧
      '\n' ∉ ("\x7b\"k\": \"a\\nb\"\x7d" : String).toList := by
  intro g
  have json : (Value.collection 0).jsonInside g [] = .ok "\x7b\"k\": \"a\\nb\"\x7d" := by
    cbv
  have described : (Value.collection 0).describe g = .ok "\x7b\"k\": \"a\\nb\"\x7d" := by
    rw [describe, fullDescription, json]
    rfl
  refine ⟨described, fun feed => ?_⟩
  obtain ⟨-, full, -, -, -, broken⟩ := ((Value.collection 0).describe_fits_line g).2 _ described
  have refused : (Value.collection 0).Refused g [] := (broken feed).1
  have fails := (jsonInside_fails_iff [] (Value.collection 0)).2 (.inr refused)
  rw [json] at fails
  exact not_fails_ok _ fails

/-- Where a key is a tuple the same object breaks the line of the description. -/
theorem object_breaks_description :
    let g : Graph := ⟨[.map [(.tuple [.int 1], .object 0 "a\nb" [] [])]]⟩
    (Value.collection 0).describe g = .ok "\x7b(1,): a\nb\x7d" ∧
      '\n' ∈ ("\x7b(1,): a\nb\x7d" : String).toList := by
  intro g
  have same : (Value.collection 0).describe g = .ok "\x7b(1,): a\nb\x7d" := by cbv
  exact ⟨same, by decide⟩

end Value

end BraceTemplate
