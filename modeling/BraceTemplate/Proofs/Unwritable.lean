import Mathlib
import BraceTemplate.Data.Literal
import BraceTemplate.Proofs.Outcome

/-!
# Data that cannot be written

Data are displayed, described and output by different walks, which fail on the same data.  An
integer of too many digits cannot be written, wherever it stands, and a scope that comes back to
itself with only scopes on the way would be written without end.

`Value.Part` is what is displayed inside of a value, `Value.Obstacle` an integer or a scope of that
sort, and a value is `Unwritable` if there is an obstacle in it at some depth.  This says nothing of
the order of a walk, or of what it is inside of.  The walks do not go into a collection that they
are inside of, and so may pass by the part in question: `Blocked` says what they come to.  But
behind a collection nothing is missed for not coming back to it (`reached_behind`), so a walk that
starts outside of everything comes to all that is there (`blocked_nil_iff`).

The main result here, `literal_fails_iff`, is that about displayed data.
-/

namespace BraceTemplate

/-! ## Integers and keys -/

/-- The integer has more digits than can be written. -/
def Overlarge (n : Int) : Prop := 10 ^ digitLimit ≤ n.natAbs

lemma integerText_eq_error_iff {n : Int} {w : WritingFault} :
    integerText n = .error w ↔ Overlarge n ∧ w = .integerTooLong := by
  have digits : digitLimit < (Nat.toDigits 10 n.natAbs).length ↔ Overlarge n := by
    have short := Nat.length_toDigits_le_iff (n := n.natAbs) (b := 10) (k := digitLimit)
      (by decide) (by decide)
    rw [Overlarge, ← Nat.not_le, short, Nat.not_lt]
  rw [integerText, ← digits]
  split
  · rename_i long
    simp [long, eq_comm]
  · rename_i short
    simp [short]

lemma integerText_fails_iff {n : Int} : Fails (integerText n) ↔ Overlarge n := by
  simp [Fails, integerText_eq_error_iff]

/-- The least integer that cannot be written. -/
def leastOverlarge : Int := (10 ^ digitLimit : Nat)

lemma overlarge_leastOverlarge : Overlarge leastOverlarge :=
  Nat.le_of_eq (Int.natAbs_natCast (10 ^ digitLimit)).symm

/-- A key holds an integer, as itself or in a tuple. -/
inductive Key.HasInt : Key → Int → Prop
  | int (n : Int) : HasInt (.int n) n
  | item {ks : List Key} {k : Key} {n : Int} : k ∈ ks → HasInt k n → HasInt (.tuple ks) n

lemma Key.literals_eq (ks : List Key) : Key.literals ks = ks.mapM Key.literal := by
  induction ks with
  | nil => rfl
  | cons k ks ih =>
    rw [Key.literals, ih, List.mapM_cons]

/-- A key cannot be displayed exactly if it holds an integer that cannot be written. -/
lemma Key.literal_fails_iff (k : Key) : Fails k.literal ↔ ∃ n, k.HasInt n ∧ Overlarge n := by
  cases k with
  | int n =>
    rw [Key.literal, integerText_fails_iff]
    exact ⟨fun large => ⟨n, .int n, large⟩, by rintro ⟨_, ⟨⟩, large⟩; exact large⟩
  | tuple ks =>
    have each : ∀ k ∈ ks, Fails k.literal ↔ ∃ n, k.HasInt n ∧ Overlarge n :=
      fun k there => literal_fails_iff k
    have items : Fails (Key.tuple ks).literal ↔ ∃ k ∈ ks, Fails k.literal := by
      rw [Key.literal, Key.literals_eq, fails_bind_iff, fails_mapM_iff]
      simp [pure, Except.pure]
    rw [items]
    constructor
    · rintro ⟨k, there, fails⟩
      obtain ⟨n, has, large⟩ := (each k there).1 fails
      exact ⟨n, .item there has, large⟩
    · rintro ⟨n, has, large⟩
      cases has with
      | item there has => exact ⟨_, there, (each _ there).2 ⟨n, has, large⟩⟩
  | _ =>
    rw [Key.literal]
    refine iff_of_false (not_fails_ok _) ?_
    rintro ⟨n, ⟨⟩, -⟩
termination_by sizeOf k
decreasing_by
  have smaller := List.sizeOf_lt_of_mem there
  simp only [Key.tuple.sizeOf_spec]
  omega

lemma bindingLiteral_fails_iff {key value : Except WritingFault String} :
    Fails (bindingLiteral key value) ↔ Fails key ∨ Fails value := by
  cases key <;> cases value <;> simp [bindingLiteral, Fails, pure, Except.pure]

/-! ## Parts of values -/

/-- What is displayed inside of a value: the items of a sequence, and of a mapping the values bound
and the integers that the keys hold. -/
inductive Value.Part (g : Graph) : Value → Value → Prop
  | item {v u : Value} {items : List Value} : v.items? g = some items → u ∈ items → Part g v u
  | bound {v : Value} {es : Entries} {e : Key × Value} :
      v.entries? g = some es → e ∈ es → Part g v e.2
  | key {v : Value} {es : Entries} {e : Key × Value} {n : Int} :
      v.entries? g = some es → e ∈ es → e.1.HasInt n → Part g v (.int n)

namespace Value

variable {g : Graph}

/-- The first value is a scope, and the second a part of it. -/
def ScopePart (g : Graph) (v u : Value) : Prop := (v.layers? g).isSome ∧ v.Part g u

/-- A scope comes back to itself with only scopes on the way. -/
def Loops (g : Graph) (v : Value) : Prop := Relation.TransGen (ScopePart g) v v

/-- What cannot be written, wherever it stands. -/
inductive Obstacle (g : Graph) : Value → Prop
  | integer {n : Int} : Overlarge n → Obstacle g (.int n)
  | loop {v : Value} : v.Loops g → Obstacle g v

/-- There is an obstacle in a value at some depth. -/
def Unwritable (g : Graph) (v : Value) : Prop :=
  ∃ u, Relation.ReflTransGen (Part g) v u ∧ u.Obstacle g

lemma Obstacle.unwritable {v : Value} (h : v.Obstacle g) : v.Unwritable g := ⟨v, .refl, h⟩

lemma Unwritable.of_part {v u : Value} (part : v.Part g u) (h : u.Unwritable g) :
    v.Unwritable g := by
  obtain ⟨w, reached, obstacle⟩ := h
  exact ⟨w, .head part reached, obstacle⟩

lemma unwritable_iff {v : Value} :
    v.Unwritable g ↔ v.Obstacle g ∨ ∃ u, v.Part g u ∧ u.Unwritable g := by
  constructor
  · rintro ⟨w, reached, obstacle⟩
    obtain rfl | ⟨u, part, further⟩ := reached.cases_head
    · exact .inl obstacle
    · exact .inr ⟨u, part, w, further, obstacle⟩
  · rintro (obstacle | ⟨u, part, unwritable⟩)
    · exact obstacle.unwritable
    · exact unwritable.of_part part

/-! ## Parts of each kind of value -/

lemma entries?_of_layers? {v : Value} {layers : Scope} (scope : v.layers? g = some layers) :
    v.entries? g = some (Scope.merged layers) := by
  unfold layers? at scope
  split at scope
  · cases scope
    rfl
  · split at scope
    · rename_i there
      cases scope
      simp [entries?, there]
    · cases scope
  · cases scope

lemma items?_of_entries? {v : Value} {es : Entries} (mapping : v.entries? g = some es) :
    v.items? g = none := by
  cases v with
  | collection place =>
    simp only [entries?, items?] at mapping ⊢
    split at mapping <;> simp_all
  | _ => simp_all [entries?, items?]

lemma layers?_of_items? {v : Value} {items : List Value} (sequence : v.items? g = some items) :
    v.layers? g = none := by
  cases scope : v.layers? g with
  | none => rfl
  | some layers => simp [items?_of_entries? (entries?_of_layers? scope)] at sequence

/-- What has neither items nor bindings has no parts. -/
lemma not_part_of_plain {v u : Value} (items : v.items? g = none) (entries : v.entries? g = none) :
    ¬ v.Part g u := by
  rintro (sequence | mapping | mapping)
  · simp [items] at sequence
  · simp [entries] at mapping
  · simp [entries] at mapping

/-- Something holds of a part of a sequence if it does of an item. -/
lemma exists_part_of_items {v : Value} {items : List Value} {P : Value → Prop}
    (sequence : v.items? g = some items) : (∃ u, v.Part g u ∧ P u) ↔ ∃ u ∈ items, P u := by
  constructor
  · rintro ⟨u, other | mapping | mapping, holds⟩
    · rw [sequence] at other
      cases other
      exact ⟨u, ‹_›, holds⟩
    all_goals simp [items?_of_entries? mapping] at sequence
  · rintro ⟨u, there, holds⟩
    exact ⟨u, .item sequence there, holds⟩

/-- Something holds of a part of a mapping if it does of a value bound or of an integer in a key. -/
lemma exists_part_of_entries {v : Value} {es : Entries} {P : Value → Prop}
    (mapping : v.entries? g = some es) :
    (∃ u, v.Part g u ∧ P u) ↔ ∃ e ∈ es, (∃ n, e.1.HasInt n ∧ P (.int n)) ∨ P e.2 := by
  constructor
  · rintro ⟨u, sequence | other | other, holds⟩
    · simp [items?_of_entries? mapping] at sequence
    all_goals
      rw [mapping] at other
      cases other
    · exact ⟨_, ‹_›, .inr holds⟩
    · exact ⟨_, ‹_›, .inl ⟨_, ‹_›, holds⟩⟩
  · rintro ⟨e, there, ⟨n, has, holds⟩ | holds⟩
    · exact ⟨_, .key mapping there has, holds⟩
    · exact ⟨_, .bound mapping there, holds⟩

/-- A scope that comes back to itself has a part that does. -/
lemma Loops.exists_part {v : Value} (h : v.Loops g) :
    (v.layers? g).isSome ∧ ∃ u, v.Part g u ∧ u.Loops g := by
  obtain ⟨u, ⟨scope, part⟩, back⟩ := Relation.TransGen.head'_iff.1 h
  exact ⟨scope, u, part, .tail' back ⟨scope, part⟩⟩

/-! ## Walks -/

/-- A walk that is inside of some collections comes from a value to a part of it. -/
def Enters (g : Graph) (inside : List Nat) (v u : Value) : Prop :=
  v.Part g u ∧ ∀ p ∈ inside, v ≠ .collection p

/-- A walk that is inside of some collections comes from a value to an obstacle. -/
def Blocked (g : Graph) (inside : List Nat) (v : Value) : Prop :=
  ∃ u, Relation.ReflTransGen (Enters g inside) v u ∧ u.Obstacle g

variable {inside : List Nat} {v : Value}

lemma blocked_nil_iff : v.Blocked g [] ↔ v.Unwritable g := by
  have same : Enters g [] = Part g := by
    funext v u
    simp [Enters]
  rw [Blocked, Unwritable, same]

lemma Blocked.of_part {u : Value} (enters : Enters g inside v u) (h : u.Blocked g inside) :
    v.Blocked g inside := by
  obtain ⟨w, reached, obstacle⟩ := h
  exact ⟨w, .head enters reached, obstacle⟩

/-- A walk that is inside of fewer collections comes to at least as much. -/
lemma Blocked.mono {fewer : List Nat} (h : v.Blocked g inside) (within : fewer ⊆ inside) :
    v.Blocked g fewer := by
  obtain ⟨u, reached, obstacle⟩ := h
  have weaker : Enters g inside ≤ Enters g fewer := by
    rintro v u ⟨part, outside⟩
    exact ⟨part, fun p there => outside p (within there)⟩
  exact ⟨u, Relation.ReflTransGen.mono weaker v u reached, obstacle⟩

/-- Behind a collection a walk need not come back to it. -/
lemma reached_behind {place : Nat} {u : Value}
    (reached : Relation.ReflTransGen (Enters g inside) (.collection place) u) :
    u = .collection place ∨ ∃ v, (Value.collection place).Part g v ∧
      Relation.ReflTransGen (Enters g (place :: inside)) v u := by
  induction reached with
  | refl => exact .inl rfl
  | @tail u w _ step ih =>
    obtain ⟨part, outside⟩ := step
    right
    by_cases here : u = .collection place
    · -- the last visit is the one that counts
      subst here
      exact ⟨w, part, .refl⟩
    · obtain ⟨v, first, further⟩ := ih.resolve_left here
      refine ⟨v, first, further.tail ⟨part, ?_⟩⟩
      rw [List.forall_mem_cons]
      exact ⟨here, outside⟩

/-- A collection other than a scope blocks a walk outside of it exactly if a part of it blocks the
walk that has gone into it. -/
lemma blocked_collection_iff {place : Nat} (fresh : place ∉ inside)
    (plain : (Value.collection place).layers? g = none) :
    (Value.collection place).Blocked g inside ↔
      ∃ u, (Value.collection place).Part g u ∧ u.Blocked g (place :: inside) := by
  constructor
  · rintro ⟨u, reached, obstacle⟩
    obtain rfl | ⟨v, part, further⟩ := reached_behind reached
    · cases obstacle with
      | loop loops =>
        have scope := loops.exists_part.1
        simp [plain] at scope
    · exact ⟨v, part, u, further, obstacle⟩
  · rintro ⟨u, part, blocked⟩
    refine .of_part ⟨part, ?_⟩ (blocked.mono (List.subset_cons_self place inside))
    rintro p outer ⟨⟩
    exact fresh outer

/-- A scope blocks a walk exactly if a part of it does. -/
lemma blocked_scope_iff {layers : Scope} (scope : v.layers? g = some layers)
    (outside : ∀ p ∈ inside, v ≠ .collection p) :
    v.Blocked g inside ↔ ∃ u, v.Part g u ∧ u.Blocked g inside := by
  constructor
  · rintro ⟨u, reached, obstacle⟩
    obtain rfl | ⟨w, ⟨part, -⟩, further⟩ := reached.cases_head
    · cases obstacle with
      | integer large => simp [layers?] at scope
      | loop loops =>
        obtain ⟨-, u, part, loops⟩ := loops.exists_part
        exact ⟨u, part, u, .refl, .loop loops⟩
    · exact ⟨w, part, u, further, obstacle⟩
  · rintro ⟨u, part, blocked⟩
    exact .of_part ⟨part, outside⟩ blocked

/-- What has no parts is an obstacle only if it is an integer. -/
lemma blocked_plain_iff (stuck : ∀ u, ¬ Enters g inside v u) (plain : v.layers? g = none) :
    v.Blocked g inside ↔ ∃ n, v = .int n ∧ Overlarge n := by
  constructor
  · rintro ⟨u, reached, obstacle⟩
    obtain rfl | ⟨w, enters, -⟩ := reached.cases_head
    · cases obstacle with
      | integer large => exact ⟨_, rfl, large⟩
      | loop loops =>
        have scope := loops.exists_part.1
        simp [plain] at scope
    · exact absurd enters (stuck w)
  · rintro ⟨n, rfl, large⟩
    exact ⟨_, .refl, .integer large⟩

lemma blocked_int_iff {n : Int} : (Value.int n).Blocked g inside ↔ Overlarge n := by
  rw [blocked_plain_iff (fun u enters => not_part_of_plain rfl rfl enters.1) rfl]
  simp

/-- A collection that a walk does not go into does not block it, unless the walk is inside of a
scope. -/
lemma not_blocked_of_left {place : Nat} (left : g.enter? inside place = none)
    (guards : ∀ p ∈ inside, (Value.collection p).layers? g = none) :
    ¬ (Value.collection place).Blocked g inside := by
  by_cases again : place ∈ inside
  · rw [blocked_plain_iff (fun u enters => enters.2 place again rfl) (guards place again)]
    simp
  · have nothing : g.at? place = none := by simpa [Graph.enter?, again] using left
    have items : (Value.collection place).items? g = none := by simp [items?, nothing]
    have entries : (Value.collection place).entries? g = none := by simp [entries?, nothing]
    rw [blocked_plain_iff (fun u enters => not_part_of_plain items entries enters.1)
      (by simp [layers?, nothing])]
    simp

/-! ## Where there is an obstacle -/

lemma unwritable_iff_of_items {items : List Value} (sequence : v.items? g = some items) :
    v.Unwritable g ↔ ∃ u ∈ items, u.Unwritable g := by
  rw [unwritable_iff, exists_part_of_items sequence, or_iff_right]
  rintro (large | loops)
  · simp [items?] at sequence
  · have scope := loops.exists_part.1
    simp [layers?_of_items? sequence] at scope

lemma unwritable_int_iff {n : Int} : (Value.int n).Unwritable g ↔ Overlarge n := by
  rw [← blocked_nil_iff, blocked_int_iff]

lemma unwritable_iff_of_entries {es : Entries} (mapping : v.entries? g = some es) :
    v.Unwritable g ↔ ∃ e ∈ es, (∃ n, e.1.HasInt n ∧ Overlarge n) ∨ e.2.Unwritable g := by
  rw [unwritable_iff, exists_part_of_entries mapping, or_iff_right_of_imp]
  · simp only [unwritable_int_iff]
  · rintro (large | loops)
    · simp [entries?] at mapping
    · rw [← exists_part_of_entries mapping]
      obtain ⟨-, u, part, loops⟩ := loops.exists_part
      exact ⟨u, part, (Obstacle.loop loops).unwritable⟩

lemma not_unwritable_of_plain (items : v.items? g = none) (entries : v.entries? g = none)
    (plain : v.layers? g = none) (other : ∀ n, v ≠ .int n) : ¬ v.Unwritable g := by
  rw [← blocked_nil_iff,
    blocked_plain_iff (fun u enters => not_part_of_plain items entries enters.1) plain]
  rintro ⟨n, same, -⟩
  exact other n same

lemma not_unwritable_of_absent (absent : v.isAbsent g = true) : ¬ v.Unwritable g := by
  cases v with
  | null | undefined => exact not_unwritable_of_plain rfl rfl rfl (by simp)
  | collection place =>
    cases found : g.at? place with
    | none =>
      apply not_unwritable_of_plain <;> simp [items?, entries?, layers?, found]
    | some c => cases c <;> simp [isAbsent, kind, found] at absent
  | _ => cases absent

/-! ## Displayed data -/

lemma literalInside_scope (g : Graph) (inside opened : List Nat) (layers : List Entries) :
    (Value.scope layers).literalInside g inside opened =
      scopeBrackets <$> (Scope.merged layers).mapM fun e =>
        bindingLiteral e.1.literal (e.2.literalInside g inside opened) := by
  rw [Value.literalInside]
  exact congrArg _ (mapM_attach (fun e : Key × Value =>
    bindingLiteral e.1.literal (e.2.literalInside g inside opened)) (Scope.merged layers))

lemma literalInside_collection (g : Graph) (inside opened : List Nat) (place : Nat) :
    (Value.collection place).literalInside g inside opened =
      match g.enter? inside place with
      | some (.list vs) => squareBrackets <$> vs.mapM (·.literalInside g (place :: inside) [])
      | some (.tuple vs) => Key.roundBrackets <$> vs.mapM (·.literalInside g (place :: inside) [])
      | some (.map es) => curlyBrackets <$> es.mapM fun e =>
          bindingLiteral e.1.literal (e.2.literalInside g (place :: inside) [])
      | some (.scope layers) =>
        if place ∈ opened then .error .endless
        else scopeBrackets <$> (Scope.merged layers).mapM fun e =>
          bindingLiteral e.1.literal (e.2.literalInside g inside (place :: opened))
      | none => .ok (((g.at? place).map Collection.ellipsis).getD "None") := by
  rw [Value.literalInside]
  split <;> simp [*]

lemma bindings_fail_iff {es : Entries} {written : Value → Except WritingFault String} :
    Fails (es.mapM fun e => bindingLiteral e.1.literal (written e.2)) ↔
      ∃ e ∈ es, (∃ n, e.1.HasInt n ∧ Overlarge n) ∨ Fails (written e.2) := by
  simp only [fails_mapM_iff, bindingLiteral_fails_iff, Key.literal_fails_iff]

/-- A value cannot be displayed exactly if the walk comes to an obstacle.  The walk is inside of
collections other than scopes, and the scopes that it has opened since lead to the value. -/
lemma literalInside_fails_iff (inside opened : List Nat) (v : Value)
    (guards : ∀ p ∈ inside, (Value.collection p).layers? g = none)
    (around : ∀ p ∈ opened, Relation.TransGen (ScopePart g) (.collection p) v) :
    Fails (v.literalInside g inside opened) ↔ v.Blocked g inside := by
  fun_induction Value.literalInside g inside opened v with
  | case11 inside opened layers ih =>
    have entries : (Value.scope layers).entries? g = some (Scope.merged layers) := rfl
    rw [← Value.literalInside, literalInside_scope, fails_map_iff, bindings_fail_iff,
      blocked_scope_iff rfl (by simp), exists_part_of_entries entries]
    simp only [blocked_int_iff]
    refine exists_congr fun e => and_congr_right fun there => or_congr_right ?_
    have part : ScopePart g (.scope layers) e.2 := ⟨rfl, .bound rfl there⟩
    exact ih e there guards fun p before => (around p before).tail part
  | case12 inside opened place vs entered ih | case13 inside opened place vs entered ih =>
    obtain ⟨fresh, found⟩ := Graph.enter?_eq_some_iff.1 entered
    have plain : (Value.collection place).layers? g = none := by simp [layers?, found]
    have items : (Value.collection place).items? g = some vs := by simp [items?, found]
    rw [fails_map_iff, fails_mapM_iff, blocked_collection_iff fresh plain,
      exists_part_of_items items]
    refine exists_congr fun u => and_congr_right fun there => ?_
    exact ih u (List.forall_mem_cons.2 ⟨plain, guards⟩) (by simp)
  | case14 inside opened place es entered ih =>
    obtain ⟨fresh, found⟩ := Graph.enter?_eq_some_iff.1 entered
    have plain : (Value.collection place).layers? g = none := by simp [layers?, found]
    have entries : (Value.collection place).entries? g = some es := by simp [entries?, found]
    rw [fails_map_iff, bindings_fail_iff, blocked_collection_iff fresh plain,
      exists_part_of_entries entries]
    simp only [blocked_int_iff]
    refine exists_congr fun e => and_congr_right fun there => or_congr_right ?_
    exact ih e (List.forall_mem_cons.2 ⟨plain, guards⟩) (by simp)
  | case15 inside opened place layers entered again =>
    have loops : (Value.collection place).Loops g := around place again
    exact iff_of_true (fails_error _) ⟨_, .refl, .loop loops⟩
  | case16 inside opened place layers entered fresh ih =>
    obtain ⟨outside, found⟩ := Graph.enter?_eq_some_iff.1 entered
    have scope : (Value.collection place).layers? g = some layers := by simp [layers?, found]
    have entries := entries?_of_layers? scope
    rw [fails_map_iff, bindings_fail_iff, blocked_scope_iff scope (by grind),
      exists_part_of_entries entries]
    simp only [blocked_int_iff]
    refine exists_congr fun e => and_congr_right fun there => or_congr_right ?_
    have part : ScopePart g (.collection place) e.2 := ⟨by simp [scope], .bound entries there⟩
    refine ih e guards (List.forall_mem_cons.2 ⟨.single part, ?_⟩)
    exact fun p before => (around p before).tail part
  | case17 inside opened place left =>
    exact iff_of_false (not_fails_ok _) (not_blocked_of_left left guards)
  | case4 inside opened n => rw [integerText_fails_iff, blocked_int_iff]
  | _ =>
    refine iff_of_false (not_fails_ok _) ?_
    rw [blocked_plain_iff (fun u enters => not_part_of_plain rfl rfl enters.1) rfl]
    simp

/-- **A value cannot be displayed exactly if there is an obstacle in it.** -/
theorem literal_fails_iff : Fails (v.literal g) ↔ v.Unwritable g := by
  rw [literal, literalInside_fails_iff [] [] v (by simp) (by simp), blocked_nil_iff]

lemma display_fails_iff : Fails (v.display g) ↔ v.Unwritable g := by
  rw [← literal_fails_iff]
  cases v <;> simp [display, literal, literalInside]

end Value

end BraceTemplate
