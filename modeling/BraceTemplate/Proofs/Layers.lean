import BraceTemplate.Proofs.MergedScopes

/-!
# Scopes as views of their layers

Look-up, membership and iteration are three walks over the layers of a scope.  Where the layers bind
names, each at most once (`Entries.Named`), the three agree: the keys are the names bound, each once
and in the order of the layers (`exists_keys`), and the bindings in force are what look-ups find
under these keys (`keys_eq_map_merged`, `mem_merged_iff`).

As mappings, the bindings in force are the outermost layer updated with the ones further in
(`merged_perm_updates`), and a child updates them with its own binding (`merged_child_perm`).
-/

namespace BraceTemplate

/-! ## Mappings of names -/

namespace Entries

/-- Entries that bind names, each at most once. -/
structure Named (es : Entries) : Prop where
  keys : es.map Prod.fst = es.names.map .text
  distinct : es.names.Nodup

variable {es fs : Entries} {name : String} {v : Value}

lemma names_eq {names : List String} (keys : es.map Prod.fst = names.map .text) :
    es.names = names := by
  induction es generalizing names with
  | nil =>
    rw [List.map_nil, eq_comm, List.map_eq_nil_iff] at keys
    rw [keys, Entries.names, List.filterMap_nil]
  | cons e es ih =>
    obtain ⟨_, v⟩ := e
    cases names with
    | nil => simp at keys
    | cons name names =>
      obtain ⟨rfl, rest⟩ := List.cons.inj keys
      rw [Entries.names, List.filterMap_cons, ← Entries.names, ih rest]

namespace Named

lemma of_keys (names : List String) (keys : es.map Prod.fst = names.map .text)
    (distinct : names.Nodup) : es.Named := by
  have same := names_eq keys
  exact ⟨same ▸ keys, same ▸ distinct⟩

lemma singleton (name : String) (v : Value) : Named [(.text name, v)] :=
  of_keys [name] rfl (List.nodup_singleton name)

lemma nodup_keys (named : es.Named) : (es.map Prod.fst).Nodup := by
  rw [named.keys]
  exact named.distinct.map fun _ _ => Key.text.inj

lemma exists_name (named : es.Named) {e : Key × Value} (there : e ∈ es) :
    ∃ name, e.1 = .text name := by
  have key := List.mem_map_of_mem (f := Prod.fst) there
  rw [named.keys] at key
  obtain ⟨name, -, same⟩ := List.mem_map.1 key
  exact ⟨name, same.symm⟩

/-- The value under a name is the one bound to it. -/
lemma mem_iff (named : es.Named) : (Key.text name, v) ∈ es ↔ es.valueOf? name = some v := by
  have distinct := named.nodup_keys
  clear named
  induction es with
  | nil => simp [valueOf?]
  | cons e es ih =>
    obtain ⟨fresh, distinct⟩ := List.nodup_cons.1 distinct
    by_cases here : e.1 = .text name
    · obtain ⟨_, w⟩ := e
      subst here
      rw [valueOf?_cons_self, Option.some.injEq, List.mem_cons]
      constructor
      · rintro (same | later)
        · exact (Prod.ext_iff.1 same).2.symm
        · exact absurd (List.mem_map_of_mem (f := Prod.fst) later) fresh
      · rintro rfl
        exact .inl rfl
    · rw [valueOf?_cons_of_ne _ here, List.mem_cons]
      constructor
      · rintro (rfl | later)
        · exact absurd rfl here
        · exact (ih distinct).1 later
      · intro bound
        exact .inr ((ih distinct).2 bound)

/-- Entries that bind the same names to the same values are the same mapping. -/
lemma perm (named : es.Named) (named' : fs.Named)
    (same : ∀ name, es.valueOf? name = fs.valueOf? name) : es.Perm fs := by
  have distinct := named.nodup_keys.of_map
  have distinct' := named'.nodup_keys.of_map
  rw [List.perm_ext_iff_of_nodup distinct distinct']
  rintro ⟨k, v⟩
  constructor
  · intro there
    obtain ⟨name, rfl⟩ := named.exists_name there
    rw [named'.mem_iff, ← same, ← named.mem_iff]
    exact there
  · intro there
    obtain ⟨name, rfl⟩ := named'.exists_name there
    rw [named.mem_iff, same, ← named'.mem_iff]
    exact there

lemma insert (named : es.Named) (name : String) (v : Value) :
    (es.insert (.text name) v).Named := by
  have bound : es.any ((Key.text name).same ·.1) = true ↔ name ∈ es.names := by
    rw [List.any_eq_true, ← valueOf?_isSome_iff, Option.isSome_iff_exists]
    simp only [Key.text_same_iff, ← named.mem_iff, Prod.exists]
    constructor
    · rintro ⟨_, v, there, rfl⟩
      exact ⟨v, there⟩
    · rintro ⟨v, there⟩
      exact ⟨_, v, there, rfl⟩
  unfold Entries.insert
  by_cases there : name ∈ es.names
  · -- the keys stay as they are
    rw [if_pos (bound.2 there)]
    refine of_keys es.names ?_ named.distinct
    rw [← named.keys, List.map_map]
    apply List.map_congr_left
    intro e _
    simp only [Function.comp]
    split <;> rfl
  · rw [if_neg (mt bound.1 there)]
    refine of_keys (es.names ++ [name]) ?_ ?_
    · rw [List.map_append, List.map_append, named.keys]
      rfl
    · exact named.distinct.append (List.nodup_singleton name)
        (List.disjoint_singleton.2 there)

lemma update (named : es.Named) {more : Entries} (named' : more.Named) :
    (es.update more).Named := by
  have texts : ∀ e ∈ more, ∃ name, e.1 = .text name := fun e => named'.exists_name
  clear named'
  unfold Entries.update
  induction more generalizing es with
  | nil => exact named
  | cons e more ih =>
    obtain ⟨name, key⟩ := texts e List.mem_cons_self
    rw [List.foldl_cons, key]
    exact ih (named.insert name e.2) fun f later => texts f (List.mem_cons_of_mem e later)

end Named

end Entries

/-! ## Keys -/

namespace Scope

/-- Adds a name to those seen so far, unless it is one of them. -/
def seeName (seen : List String) (name : String) : List String :=
  if name ∈ seen then seen else seen ++ [name]

lemma see_text (seen : List String) (name : String) :
    see (seen.map .text) (.text name) = (seeName seen name).map .text := by
  have known : (seen.map Key.text).any (Key.text name).same = true ↔ name ∈ seen := by
    simp [List.any_eq_true, Key.text_same_iff]
  unfold see seeName
  by_cases there : name ∈ seen
  · rw [if_pos there, if_pos (known.2 there)]
  · rw [if_neg there, if_neg (mt known.1 there), List.map_append, List.map_singleton]

lemma foldl_see_text (names seen : List String) :
    (names.map .text).foldl see (seen.map .text) = (names.foldl seeName seen).map .text := by
  induction names generalizing seen with
  | nil => rfl
  | cons name names ih => rw [List.map_cons, List.foldl_cons, see_text, ih, List.foldl_cons]

/-- The layers are gone through as one row of entries. -/
lemma keys_eq_foldl (s : Scope) : s.keys = (s.flatten.map Prod.fst).foldl see [] := by
  rw [keys, List.foldl_map, List.foldl_flatten]

/-- A name stands in a row, and no later than the first place of another. -/
def FirstIn (row : List String) (a b : String) : Prop :=
  ∃ before after, row = before ++ a :: after ∧ b ∉ before

/-- The names seen in a row: each once, in the order of their first places. -/
structure Seen (row seen : List String) : Prop where
  distinct : seen.Nodup
  mem_iff : ∀ name, name ∈ seen ↔ name ∈ row
  ordered : seen.Pairwise (FirstIn row)

lemma FirstIn.append {row : List String} {a b : String} (first : FirstIn row a b)
    (more : List String) : FirstIn (row ++ more) a b := by
  obtain ⟨before, after, rfl, free⟩ := first
  exact ⟨before, after ++ more, by simp, free⟩

/-- Seeing one more name. -/
lemma Seen.step {row seen : List String} (s : Seen row seen) (name : String) :
    Seen (row ++ [name]) (seeName seen name) := by
  have ordered := s.ordered.imp fun first => first.append [name]
  unfold seeName
  by_cases known : name ∈ seen
  · rw [if_pos known]
    refine ⟨s.distinct, ?_, ordered⟩
    intro other
    rw [List.mem_append, ← s.mem_iff, List.mem_singleton]
    constructor
    · exact .inl
    · rintro (there | rfl)
      · exact there
      · exact known
  · rw [if_neg known]
    refine ⟨?_, ?_, ?_⟩
    · exact s.distinct.append (List.nodup_singleton name) (List.disjoint_singleton.2 known)
    · intro other
      rw [List.mem_append, List.mem_append, s.mem_iff]
    · -- the new name is nowhere in front of those seen earlier
      rw [List.pairwise_append]
      refine ⟨ordered, List.pairwise_singleton _ _, ?_⟩
      intro a seen b new
      rw [List.mem_singleton] at new
      subst new
      obtain ⟨before, after, shape⟩ := List.append_of_mem ((s.mem_iff a).1 seen)
      refine FirstIn.append ⟨before, after, shape, ?_⟩ [b]
      intro there
      rw [s.mem_iff, shape] at known
      exact known (List.mem_append_left _ there)

/-- Seeing a row of names. -/
lemma Seen.run {row seen : List String} (s : Seen row seen) (names : List String) :
    Seen (row ++ names) (names.foldl seeName seen) := by
  induction names generalizing row seen with
  | nil =>
    rw [List.append_nil]
    exact s
  | cons name names ih =>
    have later := ih (s.step name)
    rwa [List.append_assoc] at later

/-- One name comes before another: the innermost layer that binds one of them binds it, and binds
the other, if at all, behind it. -/
def Precedes (s : Scope) (a b : String) : Prop :=
  ∃ inner layer outer, s = inner ++ layer :: outer ∧
    (∀ l ∈ inner, a ∉ l.names ∧ b ∉ l.names) ∧ FirstIn layer.names a b

/-- In two rows, the first that has one of the names decides. -/
lemma FirstIn.split {row more : List String} {a b : String} (first : FirstIn (row ++ more) a b) :
    FirstIn row a b ∨ (a ∉ row ∧ b ∉ row) ∧ FirstIn more a b := by
  obtain ⟨before, after, shape, free⟩ := first
  rcases List.append_eq_append_iff.1 shape with ⟨rest, rfl, rfl⟩ | ⟨rest, rfl, cut⟩
  · rw [List.mem_append, not_or] at free
    by_cases here : a ∈ row
    · obtain ⟨front, back, rfl⟩ := List.append_of_mem here
      exact .inl ⟨front, back, rfl, fun there => free.1 (List.mem_append_left _ there)⟩
    · exact .inr ⟨⟨here, free.1⟩, rest, after, rfl, free.2⟩
  · cases rest with
    | nil =>
      rw [List.append_nil]
      by_cases here : a ∈ before
      · obtain ⟨front, back, rfl⟩ := List.append_of_mem here
        exact .inl ⟨front, back, rfl, fun there => free (List.mem_append_left _ there)⟩
      · exact .inr ⟨⟨here, free⟩, [], after, cut.symm, List.not_mem_nil⟩
    | cons c rest =>
      obtain ⟨rfl, -⟩ := List.cons.inj cut
      exact .inl ⟨before, rest, rfl, free⟩

lemma precedes_of_firstIn {s : Scope} {a b : String}
    (first : FirstIn (s.flatMap Entries.names) a b) : s.Precedes a b := by
  induction s with
  | nil =>
    obtain ⟨before, after, shape, -⟩ := first
    simp at shape
  | cons layer s ih =>
    rw [List.flatMap_cons] at first
    rcases first.split with here | ⟨unbound, later⟩
    · exact ⟨[], layer, s, rfl, by simp, here⟩
    · obtain ⟨inner, found, outer, rfl, free, first⟩ := ih later
      refine ⟨layer :: inner, found, outer, rfl, ?_, first⟩
      intro l there
      rcases List.mem_cons.1 there with rfl | there
      · exact unbound
      · exact free l there

section

variable {s : Scope}

lemma keys_flatten (named : ∀ layer ∈ s, layer.Named) :
    s.flatten.map Prod.fst = (s.flatMap Entries.names).map .text := by
  induction s with
  | nil => rfl
  | cons layer s ih =>
    rw [List.forall_mem_cons] at named
    rw [List.flatten_cons, List.map_append, named.1.keys, ih named.2, List.flatMap_cons,
      List.map_append]

/-- **Iteration gives every bound name once, in the order of the layers.** -/
theorem exists_keys (named : ∀ layer ∈ s, layer.Named) :
    ∃ names : List String, s.keys = names.map .text ∧ names.Nodup ∧
      (∀ name, name ∈ names ↔ ∃ layer ∈ s, name ∈ layer.names) ∧ names.Pairwise s.Precedes := by
  have start : Seen [] [] := ⟨List.nodup_nil, by simp, .nil⟩
  have seen := start.run (s.flatMap Entries.names)
  refine ⟨_, ?_, seen.distinct, ?_, ?_⟩
  · rw [keys_eq_foldl, keys_flatten named]
    exact foldl_see_text _ []
  · intro name
    rw [seen.mem_iff, List.nil_append, List.mem_flatMap]
  · exact seen.ordered.imp precedes_of_firstIn

/-! ## Bindings in force -/

lemma foldl_see_eq {seen shown : List Key} (es : Entries)
    (same : ∀ k : Key, shown.any k.same = seen.any k.same) :
    (es.map Prod.fst).foldl see shown = shown ++ (firstBindings seen es).map Prod.fst := by
  fun_induction firstBindings seen es generalizing shown with
  | case1 seen => simp
  | case2 seen e rest known ih =>
    rw [List.map_cons, List.foldl_cons, see, if_pos (same e.1 ▸ known), ih same]
  | case3 seen e rest unknown ih =>
    rw [List.map_cons, List.foldl_cons, see, if_neg (same e.1 ▸ unknown), ih, List.append_assoc,
      List.map_cons, List.singleton_append]
    intro k
    rw [List.any_append, List.any_cons, same, List.any_cons, List.any_nil, Bool.or_false,
      Bool.or_comm]

/-- Iteration goes along the bindings in force. -/
lemma keys_eq_map_merged (s : Scope) : s.keys = s.merged.map Prod.fst := by
  rw [keys_eq_foldl, merged]
  exact foldl_see_eq s.flatten fun _ => rfl

lemma named_merged (named : ∀ layer ∈ s, layer.Named) : s.merged.Named := by
  obtain ⟨names, keys, distinct, -⟩ := exists_keys named
  rw [keys_eq_map_merged] at keys
  exact .of_keys names keys distinct

/-- The bindings in force are what look-ups find. -/
lemma mem_merged_iff (named : ∀ layer ∈ s, layer.Named) {name : String} {v : Value} :
    (Key.text name, v) ∈ s.merged ↔ s.valueOf? name = some v := by
  rw [(named_merged named).mem_iff, valueOf?_merged]

lemma firstBindings_eq_self {seen : List Key} {es : Entries} (named : es.Named)
    (fresh : ∀ e ∈ es, seen.any e.1.same = false) : firstBindings seen es = es := by
  have apart : es.Pairwise fun e f => f.1.same e.1 = false := by
    rw [← List.pairwise_map (f := Prod.fst) (R := fun k l => Key.same l k = false)]
    rw [named.keys, List.pairwise_map]
    refine named.distinct.imp ?_
    intro a b other
    rw [Bool.eq_false_iff, ne_eq, Key.text_same_iff, Key.text.injEq]
    exact other
  clear named
  fun_induction firstBindings seen es with
  | case1 seen => rfl
  | case2 seen e rest known ih =>
    rw [fresh e List.mem_cons_self] at known
    cases known
  | case3 seen e rest unknown ih =>
    obtain ⟨first, apart⟩ := List.pairwise_cons.1 apart
    rw [ih ?_ apart]
    intro f later
    rw [List.any_cons, first f later, fresh f (List.mem_cons_of_mem e later), Bool.or_false]

/-- Merging once more changes nothing. -/
lemma merged_merged (named : ∀ layer ∈ s, layer.Named) : merged [s.merged] = s.merged := by
  rw [merged, List.flatten_singleton]
  exact firstBindings_eq_self (named_merged named) fun _ _ => rfl

/-- The innermost layer that binds a name gives its value. -/
lemma valueOf?_eq_some_iff (named : ∀ layer ∈ s, layer.Named) {name : String} {v : Value} :
    s.valueOf? name = some v ↔ ∃ inner layer outer, s = inner ++ layer :: outer ∧
      (∀ l ∈ inner, name ∉ l.names) ∧ (.text name, v) ∈ layer := by
  constructor
  · intro found
    induction s with
    | nil => cases found
    | cons layer s ih =>
      rw [List.forall_mem_cons] at named
      rw [valueOf?_cons, Option.or_eq_some_iff] at found
      rcases found with here | ⟨unbound, later⟩
      · exact ⟨[], layer, s, rfl, by simp, named.1.mem_iff.2 here⟩
      · obtain ⟨inner, found, outer, rfl, free, there⟩ := ih named.2 later
        refine ⟨layer :: inner, found, outer, rfl, ?_, there⟩
        rw [List.forall_mem_cons]
        refine ⟨?_, free⟩
        rw [← Entries.valueOf?_isSome_iff, unbound]
        exact Bool.false_ne_true
  · rintro ⟨inner, layer, outer, rfl, free, there⟩
    have bound := (named layer (by simp)).mem_iff.1 there
    refine valueOf?_of_layer ?_ bound
    rw [valueOf?, List.findSome?_eq_none_iff]
    exact fun l there => Entries.valueOf?_eq_none (free l there)

lemma valueOf?_isSome_iff {name : String} :
    (s.valueOf? name).isSome ↔ ∃ layer ∈ s, name ∈ layer.names := by
  rw [← binds_iff, binds, List.any_eq_true]
  simp only [List.contains_iff_mem]

/-- The outermost layer, updated with the others from the outside in. -/
def updates (inner : List Entries) (outermost : Entries) : Entries :=
  inner.foldr (fun layer es => Entries.update es layer) outermost

lemma named_updates {inner : List Entries} {outermost : Entries}
    (named : ∀ layer ∈ inner ++ [outermost], layer.Named) : (updates inner outermost).Named := by
  induction inner with
  | nil => exact named outermost (by simp)
  | cons layer inner ih =>
    rw [List.cons_append, List.forall_mem_cons] at named
    exact (ih named.2).update named.1

lemma valueOf?_updates {inner : List Entries} {outermost : Entries}
    (named : ∀ layer ∈ inner ++ [outermost], layer.Named) (name : String) :
    (updates inner outermost).valueOf? name = valueOf? (inner ++ [outermost]) name := by
  induction inner with
  | nil =>
    rw [List.nil_append, valueOf?_cons]
    exact Option.or_none.symm
  | cons layer inner ih =>
    rw [List.cons_append, List.forall_mem_cons] at named
    rw [updates, List.foldr_cons, ← updates, Entries.valueOf?_update _ named.1.distinct,
      ih named.2, List.cons_append, valueOf?_cons]

/-- **The bindings in force are the outermost layer updated with the ones further in.** -/
theorem merged_perm_updates {inner : List Entries} {outermost : Entries}
    (named : ∀ layer ∈ inner ++ [outermost], layer.Named) :
    (merged (inner ++ [outermost])).Perm (updates inner outermost) := by
  refine (named_merged named).perm (named_updates named) ?_
  intro name
  rw [valueOf?_merged, valueOf?_updates named]

lemma named_child (named : ∀ layer ∈ s, layer.Named) (name : String) (v : Value) :
    ∀ layer ∈ s.child name v, layer.Named := by
  rw [child, List.forall_mem_cons]
  exact ⟨.singleton name v, named⟩

/-- **A child updates the bindings in force with its own.** -/
theorem merged_child_perm (named : ∀ layer ∈ s, layer.Named) (name : String) (v : Value) :
    (s.child name v).merged.Perm (s.merged.insert (.text name) v) := by
  refine (named_merged (named_child named name v)).perm ((named_merged named).insert name v) ?_
  intro other
  rw [valueOf?_merged]
  by_cases same : other = name
  · subst same
    rw [valueOf?_child_self, Entries.valueOf?_insert_self]
  · rw [valueOf?_child_of_ne s v same, Entries.valueOf?_insert_of_ne, valueOf?_merged]
    exact fun key => same (Key.text.inj key).symm

end

end Scope

end BraceTemplate
