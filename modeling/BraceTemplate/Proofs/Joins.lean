import Mathlib.Data.Fintype.Card
import Mathlib.Data.List.Nodup
import BraceTemplate.Data.Output
import BraceTemplate.Proofs.Unwritable

/-!
# Sequences as output

A sequence writes what its items write, with commas between.  The walk through nested sequences
keeps the set of those that it is joining, and writes nothing for a sequence that is in it already.
This file says what the set holds and what it is for.  A sequence with an item that cannot be
written cannot be written either.

`Writes` is the recursion with the guard, as a relation: the set is the path of sequences around a
value.  The walk that keeps the set as its state does exactly this (`write_eq_iff`), because it
leaves the set as it found it behind every item (`writeItems_result`).  `Joined` is the recursion
without a guard.  It has an answer for data in which no sequence contains itself, and there the
guard does nothing, however often a sequence is shared (`joined_write`).
-/

namespace BraceTemplate

namespace Value

variable {g : Graph}

/-! ## One step of the walk -/

lemma items?_eq_some_iff {v : Value} {items : List Value} :
    v.items? g = some items ↔ ∃ place, v = .collection place ∧
      (g.at? place = some (.list items) ∨ g.at? place = some (.tuple items)) := by
  unfold items?
  split
  · rename_i place
    split <;> simp_all
  · rename_i other
    constructor
    · intro none
      simp at none
    · rintro ⟨place, rfl, -⟩
      exact absurd rfl (other place)

/-- A value that is no sequence writes its own text, in every walk. -/
lemma write_of_plain {v : Value} (plain : v.items? g = none) (active : List Nat) :
    (v.write g active).result = v.plainText g := by
  unfold write
  split
  · rename_i place
    split
    · simp_all [items?]
    · simp_all [items?]
    · rfl
  · rfl

/-- Every item is written in the walk that the sequence is joined in. -/
lemma writeItems_result (active : List Nat) (items : List Value) :
    (writeItems g active items).result = items.mapM fun v => (v.write g active).result := by
  induction items with
  | nil =>
    rw [writeItems]
    rfl
  | cons v rest ih =>
    have anew : ∀ after, after = active →
        (writeItems g after rest).result = rest.mapM fun v => (v.write g active).result := by
      rintro after rfl
      exact ih
    rw [writeItems, List.mapM_cons]
    split
    · rename_i failed
      rw [failed, error_bind]
    · rename_i text written
      rw [written, ok_bind]
      have others := congrArg ((text :: ·) <$> ·) (anew _ (v.write g active).restored)
      exact others.trans (map_eq_pure_bind _ _)

/-- A sequence writes nothing inside itself, and its items elsewhere. -/
lemma write_collection {place : Nat} {items : List Value}
    (sequence : (Value.collection place).items? g = some items) (active : List Nat) :
    ((Value.collection place).write g active).result =
      if place ∈ active then .ok ""
      else ",".intercalate <$> items.mapM fun v => (v.write g (place :: active)).result := by
  obtain ⟨_, ⟨⟩, found⟩ := items?_eq_some_iff.1 sequence
  rw [write]
  rcases found with found | found
  all_goals
    split
    · by_cases joining : place ∈ active <;> simp_all [writeItems_result]
    · by_cases joining : place ∈ active <;> simp_all [writeItems_result]
    · simp_all

/-! ## The set of sequences being joined -/

/-- Something holds of every value in every walk if it does whenever it holds of the items, in the
walk that has gone into their sequence.  There are finitely many sequences to go into. -/
lemma walk_induction {motive : List Nat → Value → Prop}
    (each : ∀ active v,
      (∀ place items, v = .collection place → v.items? g = some items → place ∉ active →
        ∀ u ∈ items, motive (place :: active) u) → motive active v)
    (active : List Nat) (v : Value) : motive active v := by
  induction size : g.unentered active using Nat.strong_induction_on generalizing active v with
  | _ n ih =>
    apply each
    rintro place items rfl sequence fresh u -
    obtain ⟨_, ⟨⟩, found⟩ := items?_eq_some_iff.1 sequence
    have smaller : g.unentered (place :: active) < n := by
      rw [← size]
      rcases found with found | found <;> exact Graph.unentered_lt_of_fresh found fresh
    exact ih _ smaller _ _ rfl

/-- What a value writes while the sequences `active` are being joined around it: its own text if it
is no sequence, nothing if it is one of them, and else what its items write, with commas between.  A
value that cannot be written is one that its sequence fails at, unless an item before it is. -/
inductive Writes (g : Graph) : List Nat → Value → Except WritingFault String → Prop
  | plain {active : List Nat} {v : Value} :
      v.items? g = none → Writes g active v (v.plainText g)
  | joining {active : List Nat} {place : Nat} {items : List Value} :
      (Value.collection place).items? g = some items → place ∈ active →
      Writes g active (.collection place) (.ok "")
  | fresh {active : List Nat} {place : Nat} {items : List Value}
      (text : Value → Except WritingFault String) :
      (Value.collection place).items? g = some items → place ∉ active →
      (∀ u ∈ items, Writes g (place :: active) u (text u)) →
      Writes g active (.collection place) (",".intercalate <$> items.mapM text)

lemma writes_write (active : List Nat) (v : Value) :
    Writes g active v (v.write g active).result := by
  induction active, v using walk_induction (g := g) with
  | each active v ih =>
    cases sequence : v.items? g with
    | none =>
      rw [write_of_plain sequence]
      exact .plain sequence
    | some items =>
      obtain ⟨place, rfl, -⟩ := items?_eq_some_iff.1 sequence
      rw [write_collection sequence]
      by_cases joining : place ∈ active
      · rw [if_pos joining]
        exact .joining sequence joining
      · rw [if_neg joining]
        exact .fresh _ sequence joining (ih place items rfl sequence joining)

/-- The walk that keeps the set writes what the recursion that hands it down writes. -/
lemma write_eq_iff {active : List Nat} {v : Value} {t : Except WritingFault String} :
    (v.write g active).result = t ↔ Writes g active v t := by
  constructor
  · rintro rfl
    exact writes_write active v
  · intro writes
    induction writes with
    | plain plain => exact write_of_plain plain _
    | joining sequence joining => rw [write_collection sequence, if_pos joining]
    | fresh text sequence fresh _ ih =>
      rw [write_collection sequence, if_neg fresh, mapM_congr ih]

lemma outputInside_collection (inside : List Nat) (place : Nat) :
    (Value.collection place).outputInside g inside =
      match g.enter? inside place with
      | some (.list vs) | some (.tuple vs) =>
        ",".intercalate <$> vs.mapM (·.outputInside g (place :: inside))
      | some (.map _) | some (.scope _) => (Value.collection place).literal g
      | none => .ok "" := by
  rw [Value.outputInside]
  split <;> simp [*]

/-- Where only sequences are being joined, the set may as well be handed down. -/
lemma write_eq_outputInside {active : List Nat} (v : Value)
    (sequences : ∀ p ∈ active, ((Value.collection p).items? g).isSome) :
    (v.write g active).result = v.outputInside g active := by
  induction active, v using walk_induction (g := g) with
  | each active v ih =>
    cases sequence : v.items? g with
    | none =>
      rw [write_of_plain sequence]
      cases v with
      | collection place =>
        have fresh : place ∉ active := by
          intro joining
          simpa [sequence] using sequences place joining
        rw [outputInside_collection, Graph.enter?, if_neg fresh]
        cases found : g.at? place with
        | none => simp [plainText, isAbsent, kind, found]
        | some c => cases c <;> simp_all [items?, plainText, isAbsent, kind, display]
      | _ => simp [outputInside, plainText]
    | some items =>
      obtain ⟨place, rfl, found⟩ := items?_eq_some_iff.1 sequence
      rw [write_collection sequence, outputInside_collection, Graph.enter?]
      by_cases joining : place ∈ active
      · rw [if_pos joining, if_pos joining]
      · have within : ∀ p ∈ place :: active, ((Value.collection p).items? g).isSome := by
          intro p there
          rcases List.mem_cons.1 there with rfl | outer
          · simp [sequence]
          · exact sequences p outer
        have texts := mapM_congr fun u there =>
          ih place items rfl sequence joining u there within
        rcases found with found | found <;> simp [joining, found, texts]

/-- What a value writes, with the set handed down. -/
lemma output_eq_outputInside (v : Value) : v.output g = v.outputInside g [] :=
  write_eq_outputInside v (by simp)

/-! ## Values that cannot be written -/

lemma plainText_fails_iff {v : Value} (plain : v.items? g = none) :
    Fails (v.plainText g) ↔ v.Unwritable g := by
  rw [← display_fails_iff]
  cases v with
  | collection place =>
    cases found : g.at? place with
    | none => simp [plainText, isAbsent, kind, display, literal, literalInside_collection, found,
        Graph.enter?]
    | some c => cases c <;> simp_all [items?, plainText, isAbsent, kind]
  | _ => simp [plainText, isAbsent, kind, display, literal, literalInside]

/-- What blocks a walk that is joining some sequences cannot be written in it. -/
lemma write_fails_of_blocked {active : List Nat} {v : Value}
    (guards : ∀ p ∈ active, (Value.collection p).layers? g = none)
    (blocked : v.Blocked g active) : Fails (v.write g active).result := by
  induction active, v using walk_induction (g := g) with
  | each active v ih =>
    cases sequence : v.items? g with
    | none =>
      rw [write_of_plain sequence, plainText_fails_iff sequence, ← blocked_nil_iff]
      exact blocked.mono (List.nil_subset active)
    | some items =>
      obtain ⟨place, rfl, -⟩ := items?_eq_some_iff.1 sequence
      have plain := layers?_of_items? sequence
      by_cases joining : place ∈ active
      · rw [blocked_plain_iff (fun u enters => enters.2 place joining rfl) plain] at blocked
        simp at blocked
      · rw [blocked_collection_iff joining plain, exists_part_of_items sequence] at blocked
        obtain ⟨u, there, blocked⟩ := blocked
        rw [write_collection sequence, if_neg joining, fails_map_iff, fails_mapM_iff]
        have guards : ∀ p ∈ place :: active, (Value.collection p).layers? g = none :=
          List.forall_mem_cons.2 ⟨plain, guards⟩
        exact ⟨u, there, ih place items rfl sequence joining u there guards blocked⟩

/-- Whatever is joined around it, a value that can be written has nothing in it that cannot. -/
lemma unwritable_of_write_fails {active : List Nat} {v : Value}
    (fails : Fails (v.write g active).result) : v.Unwritable g := by
  induction active, v using walk_induction (g := g) with
  | each active v ih =>
    cases sequence : v.items? g with
    | none => rwa [write_of_plain sequence, plainText_fails_iff sequence] at fails
    | some items =>
      obtain ⟨place, rfl, -⟩ := items?_eq_some_iff.1 sequence
      rw [write_collection sequence] at fails
      by_cases joining : place ∈ active
      · simp [joining] at fails
      · rw [if_neg joining, fails_map_iff, fails_mapM_iff] at fails
        obtain ⟨u, there, fails⟩ := fails
        exact .of_part (.item sequence there) (ih place items rfl sequence joining u there fails)

/-- **A value cannot be written exactly if there is an obstacle in it.** -/
theorem output_fails_iff {v : Value} : Fails (v.output g) ↔ v.Unwritable g := by
  refine ⟨unwritable_of_write_fails, fun unwritable => ?_⟩
  exact write_fails_of_blocked (by simp) (blocked_nil_iff.2 unwritable)

/-! ## Sequences inside one another -/

/-- The first value is a sequence, and the second one of its items. -/
def Holds (g : Graph) (v u : Value) : Prop := ∃ items, v.items? g = some items ∧ u ∈ items

/-- No sequence that the value leads to, through any number of sequences, contains itself. -/
def Acyclic (g : Graph) (v : Value) : Prop :=
  ∀ u, Relation.ReflTransGen (Holds g) v u → ¬ Relation.TransGen (Holds g) u u

lemma Acyclic.item {v u : Value} (h : v.Acyclic g) (holds : v.Holds g u) : u.Acyclic g :=
  fun w reached => h w (.head holds reached)

/-- The value stands in `root`, inside of the sequences `around`, innermost first.  A walk does not
go into a sequence that it is inside of. -/
inductive Occurs (g : Graph) (root : Value) : List Nat → Value → Prop
  | root : Occurs g root [] root
  | item {around : List Nat} {place : Nat} {items : List Value} {u : Value} :
      Occurs g root around (.collection place) → place ∉ around →
      (Value.collection place).items? g = some items → u ∈ items →
      Occurs g root (place :: around) u

/-- The sequences around a value contain it at some depth. -/
lemma Occurs.inside {root v : Value} {around : List Nat} (h : Occurs g root around v) :
    ∀ p ∈ around, Relation.TransGen (Holds g) (.collection p) v := by
  induction h with
  | root => simp
  | item _ _ sequence there ih =>
    have holds : Holds g _ _ := ⟨_, sequence, there⟩
    intro p outer
    rcases List.mem_cons.1 outer with rfl | outer
    · exact .single holds
    · exact (ih p outer).tail holds

lemma Occurs.nodup {root v : Value} {around : List Nat} (h : Occurs g root around v) :
    around.Nodup := by
  induction h with
  | root => exact List.nodup_nil
  | item _ fresh _ _ ih => exact List.nodup_cons.2 ⟨fresh, ih⟩

lemma Occurs.lt_length {root v : Value} {around : List Nat} (h : Occurs g root around v) :
    ∀ p ∈ around, p < g.collections.length := by
  induction h with
  | root => simp
  | @item around place items u _ _ sequence _ ih =>
    intro p outer
    rcases List.mem_cons.1 outer with rfl | outer
    · obtain ⟨_, ⟨⟩, found | found⟩ := items?_eq_some_iff.1 sequence
      all_goals exact (List.getElem?_eq_some_iff.1 found).1
    · exact ih p outer

/-- Sequences are nested no deeper than there are collections. -/
lemma Occurs.length_le {root v : Value} {around : List Nat} (h : Occurs g root around v) :
    around.length ≤ g.collections.length := by
  have within : around ⊆ List.range g.collections.length :=
    fun p there => List.mem_range.2 (h.lt_length p there)
  have bound := (h.nodup.subperm within).length_le
  rwa [List.length_range] at bound

lemma Occurs.acyclic {root v : Value} {around : List Nat} (h : Occurs g root around v)
    (data : root.Acyclic g) : v.Acyclic g := by
  induction h with
  | root => exact data
  | item _ _ sequence there ih => exact ih.item ⟨_, sequence, there⟩

/-! ## The recursion without a guard -/

/-- What a value writes by plain recursion: its own text if it is no sequence, and else what its
items write, with commas between. -/
inductive Joined (g : Graph) : Value → Except WritingFault String → Prop
  | plain {v : Value} : v.items? g = none → Joined g v (v.plainText g)
  | sequence {v : Value} {items : List Value} (text : Value → Except WritingFault String) :
      v.items? g = some items → (∀ u ∈ items, Joined g u (text u)) →
      Joined g v (",".intercalate <$> items.mapM text)

lemma Joined.unique {v : Value} {s t : Except WritingFault String} (one : Joined g v s)
    (other : Joined g v t) : s = t := by
  induction one generalizing t with
  | plain plain =>
    cases other with
    | plain => rfl
    | sequence _ sequence => simp [plain] at sequence
  | sequence text sequence _ ih =>
    cases other with
    | plain plain => simp [plain] at sequence
    | sequence text' sequence' joined' =>
      obtain rfl := Option.some.inj (sequence.symm.trans sequence')
      rw [mapM_congr fun u there => ih u there (joined' u there)]

/-- The plain recursion has no answer for data with a sequence inside itself. -/
lemma Joined.acyclic {v : Value} {t : Except WritingFault String} (h : Joined g v t) :
    v.Acyclic g := by
  induction h with
  | plain plain =>
    intro u reached cycle
    obtain rfl | ⟨w, ⟨items, sequence, -⟩, -⟩ := reached.cases_head
    · obtain ⟨w, ⟨items, sequence, -⟩, -⟩ := Relation.TransGen.head'_iff.1 cycle
      simp [plain] at sequence
    · simp [plain] at sequence
  | @sequence v items text sequence _ ih =>
    have below : ∀ w, v.Holds g w → w.Acyclic g := by
      rintro w ⟨items', sequence', there⟩
      obtain rfl := Option.some.inj (sequence.symm.trans sequence')
      exact ih w there
    intro u reached cycle
    obtain rfl | ⟨w, holds, reached⟩ := reached.cases_head
    · -- a cycle through the sequence itself goes through one of its items
      obtain ⟨w, holds, back⟩ := Relation.TransGen.head'_iff.1 cycle
      exact below w holds _ back cycle
    · exact below w holds u reached cycle

/-- On acyclic data the guard does nothing, whatever sequences are being joined around. -/
lemma joined_write {active : List Nat} {v : Value} (data : v.Acyclic g)
    (inside : ∀ p ∈ active, Relation.TransGen (Holds g) (.collection p) v) :
    Joined g v (v.write g active).result := by
  induction active, v using walk_induction (g := g) with
  | each active v ih =>
    cases sequence : v.items? g with
    | none =>
      rw [write_of_plain sequence]
      exact .plain sequence
    | some items =>
      obtain ⟨place, rfl, -⟩ := items?_eq_some_iff.1 sequence
      have fresh : place ∉ active := fun joining => data _ .refl (inside place joining)
      rw [write_collection sequence, if_neg fresh]
      refine .sequence _ sequence fun u there => ?_
      have holds : Holds g (.collection place) u := ⟨items, sequence, there⟩
      refine ih place items rfl sequence fresh u there (data.item holds) fun p outer => ?_
      rcases List.mem_cons.1 outer with rfl | outer
      · exact .single holds
      · exact (inside p outer).tail holds

/-! ## Main result -/

/-- **Sequences are joined as the plain recursion joins them, and a sequence inside itself is left
out.**  A value that nothing can be written for is one with an obstacle in it. -/
theorem write_joins_sequences (g : Graph) :
    (∀ active (v : Value), (v.write g active).after = active ∧
      ∀ t, (v.write g active).result = t ↔ Writes g active v t) ∧
    (∀ root around v, Occurs g root around v →
      around.Nodup ∧ around.length ≤ g.collections.length ∧
      ∀ p ∈ around, Relation.TransGen (Holds g) (.collection p) v) ∧
    (∀ v, ((∃ t, Joined g v t) ↔ Acyclic g v) ∧
      (Acyclic g v → ∀ t, v.output g = t ↔ Joined g v t)) ∧
    (∀ root around v, Acyclic g root → Occurs g root around v →
      (v.write g around).result = v.output g) ∧
    ∀ v : Value, Fails (v.output g) ↔ v.Unwritable g := by
  refine ⟨?_, ?_, ?_, ?_, fun v => output_fails_iff⟩
  · intro active v
    exact ⟨(v.write g active).restored, fun t => write_eq_iff⟩
  · intro root around v occurs
    exact ⟨occurs.nodup, occurs.length_le, occurs.inside⟩
  · intro v
    have joined (data : Acyclic g v) : Joined g v (v.output g) := joined_write data (by simp)
    refine ⟨⟨fun ⟨_, h⟩ => h.acyclic, fun data => ⟨_, joined data⟩⟩, fun data t => ?_⟩
    constructor
    · rintro rfl
      exact joined data
    · exact (joined data).unique
  · intro root around v data occurs
    have here := joined_write (occurs.acyclic data) occurs.inside
    have alone : Joined g v (v.output g) := joined_write (occurs.acyclic data) (by simp)
    exact here.unique alone

/-- A list that holds another one twice. -/
def sharedTwice : Graph := ⟨[.list [.collection 1, .collection 1], .list [.int 1, .bool true]]⟩

lemma joined_sharedTwice : Joined sharedTwice (.collection 0) (.ok "1,true,1,true") := by
  have one : (Value.int 1).plainText sharedTwice = .ok "1" := by
    simp only [plainText, isAbsent, kind, display, literal, literalInside]
    rfl
  have yes : (Value.bool true).plainText sharedTwice = .ok "true" := rfl
  have row : Joined sharedTwice (.collection 1) (.ok "1,true") := by
    have items : (Value.collection 1).items? sharedTwice = some [.int 1, .bool true] := rfl
    have plain : ∀ u ∈ [Value.int 1, .bool true],
        Joined sharedTwice u (u.plainText sharedTwice) := by
      intro u there
      rcases List.mem_pair.1 there with rfl | rfl <;> exact .plain rfl
    have joined := Joined.sequence _ items plain
    rwa [List.mapM_cons, List.mapM_cons, one, yes] at joined
  have items : (Value.collection 0).items? sharedTwice =
      some [.collection 1, .collection 1] := rfl
  exact .sequence (fun _ => .ok "1,true") items (by simp [row])

/-- A shared list is written in full at both of its places. -/
theorem shared_list_written_twice :
    (Value.collection 0).Acyclic sharedTwice ∧
    Occurs sharedTwice (.collection 0) [0] (.collection 1) ∧
    ((Value.collection 1).write sharedTwice [0]).result = (Value.collection 1).output sharedTwice ∧
    (Value.collection 0).output sharedTwice = .ok "1,true,1,true" := by
  have data := joined_sharedTwice.acyclic
  have occurs : Occurs sharedTwice (.collection 0) [0] (.collection 1) :=
    .item .root (by simp) rfl (by simp)
  obtain ⟨-, -, plain, shared, -⟩ := write_joins_sequences sharedTwice
  refine ⟨data, occurs, ?_, ?_⟩
  · exact shared _ _ _ data occurs
  · exact ((plain _).2 data _).2 joined_sharedTwice

end Value

end BraceTemplate
