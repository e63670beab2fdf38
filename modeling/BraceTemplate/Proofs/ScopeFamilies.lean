import BraceTemplate.Proofs.Copies
import BraceTemplate.Proofs.Layers
import BraceTemplate.Render.ScopeFamily

/-!
# Answers of scopes

What a member of a family answers about its bindings is what its layers say (`ViewsLayers`), and the
mapping that it answers would answer the same in its place (`answer_merged`, `equal_scope`).
Queries only add members (`after_members`), so what can be asked of a member now it will answer in
the same way ever after (`run_after`).

The main result `members_view_layers` holds for every family of which the layers bind names, and
after any row of queries.
-/

namespace BraceTemplate

/-! ## A scope and the mapping of its bindings -/

section

variable {g : Graph} {s s' : Scope}

lemma parts_scope (layers : Scope) :
    (Value.scope layers).parts = 1 + ((Scope.merged layers).map (·.2.parts)).foldr (· + ·) 0 := by
  let size (e : Key × Value) := e.2.parts
  have rows : (Scope.merged layers).attach.map (fun e => size e.1) =
      (Scope.merged layers).map size := List.attach_map_val
  rw [Value.parts]
  exact congrArg (fun sizes => 1 + sizes.foldr (· + ·) 0) rows

/-- Only the bindings in force count in a comparison. -/
lemma agree_scope_left (same : s.merged = s'.merged) (depth : Nat) (met : List (Nat × Nat))
    (w : Value) :
    Value.agree g depth met (.scope s) w = Value.agree g depth met (.scope s') w := by
  cases depth with
  | zero => rfl
  | succ depth => cases w <;> simp [Value.agree, Value.identical, Value.places?, Value.collection?,
      Value.entries?, Value.layers?, Value.scalarEqual, Value.exactValue?, same]

lemma agree_scope_right (same : s.merged = s'.merged) (depth : Nat) (met : List (Nat × Nat))
    (v : Value) :
    Value.agree g depth met v (.scope s) = Value.agree g depth met v (.scope s') := by
  cases depth with
  | zero => rfl
  | succ depth => cases v <;> simp [Value.agree, Value.identical, Value.places?, Value.collection?,
      Value.entries?, Value.layers?, Value.scalarEqual, Value.exactValue?, same]

/-- **A scope equals what the mapping of its bindings equals.** -/
theorem equal_scope (same : s.merged = s'.merged) (w : Value) :
    (Value.scope s).equal g w = (Value.scope s').equal g w ∧
      w.equal g (.scope s) = w.equal g (.scope s') := by
  have parts : (Value.scope s).parts = (Value.scope s').parts := by
    rw [parts_scope, parts_scope, same]
  unfold Value.equal
  rw [parts]
  exact ⟨agree_scope_left same _ _ w, agree_scope_right same _ _ w⟩

end

/-- What is asked about bindings alone. -/
def ScopeQuery.IsAboutBindings : ScopeQuery → Prop
  | .item _ | .get _ _ | .has _ | .keys | .size | .mapping | .display => True
  | .child _ _ | .parent | .equal _ | .resolve _ _ => False

/-- What is asked of a member of a family and adds nothing to it. -/
def ScopeQuery.Asks (f : ScopeFamily) : ScopeQuery → Prop
  | .child _ _ => False
  | .equal other => other < f.members.length
  | _ => True

namespace ScopeFamily

variable {g : Graph} {f f' : ScopeFamily} {m : FamilyScope}

/-- The mapping that a member answers has the same answers. -/
lemma answer_merged (named : ∀ layer ∈ m.scope, layer.Named) {query : ScopeQuery}
    (bindings : query.IsAboutBindings) (parent : Option Nat) :
    f.answer g ⟨[m.scope.merged], parent⟩ query = f.answer g m query := by
  have values : ∀ name, Scope.valueOf? [m.scope.merged] name = m.scope.valueOf? name := by
    intro name
    rw [Scope.valueOf?_cons, Scope.valueOf?_merged]
    exact Option.or_none
  have merged := Scope.merged_merged named
  have keys : Scope.keys [m.scope.merged] = m.scope.keys := by
    rw [Scope.keys_eq_map_merged, merged, Scope.keys_eq_map_merged]
  cases query with
  | item name => simp only [answer, values]
  | get name default => simp only [answer, values]
  | has name => simp only [answer, Scope.binds_iff, values]
  | keys => simp only [answer, keys]
  | size => simp only [answer, Scope.size, keys]
  | mapping => simp only [answer, merged]
  | display => simp only [answer, Value.literal, Value.literalInside_scope, merged]
  | _ => cases bindings

/-! ## Runs -/

/-- The family after a row of queries. -/
def after (g : Graph) (f : ScopeFamily) (queries : List (Nat × ScopeQuery)) : ScopeFamily :=
  queries.foldl (fun f query => (f.step g query.1 query.2).1) f

lemma run_append (g : Graph) (f : ScopeFamily) (queries more : List (Nat × ScopeQuery)) :
    f.run g (queries ++ more) = f.run g queries ++ (f.after g queries).run g more := by
  induction queries generalizing f with
  | nil => rfl
  | cons query queries ih =>
    rw [List.cons_append, run, ih, run, List.cons_append]
    rfl

/-- A query leaves the family as it is, or adds the child that it asks for. -/
lemma step_cases (g : Graph) (f : ScopeFamily) (i : Nat) (query : ScopeQuery) :
    (f.step g i query).1 = f ∨ ∃ m name v, query = .child name v ∧ f.members[i]? = some m ∧
      (f.step g i query).1 = f.addChild i m name v := by
  cases found : f.members[i]? with
  | none =>
    rw [step, found]
    exact .inl rfl
  | some m =>
    cases query with
    | child name v =>
      rw [step, found]
      exact .inr ⟨m, name, v, rfl, rfl, rfl⟩
    | _ =>
      rw [step, found]
      exact .inl rfl

lemma step_members (g : Graph) (f : ScopeFamily) (i : Nat) (query : ScopeQuery) :
    f.members <+: (f.step g i query).1.members := by
  rcases step_cases g f i query with same | ⟨m, name, v, -, -, added⟩
  · rw [same]
  · rw [added]
    exact List.prefix_append _ _

/-- No query changes or removes a member. -/
lemma after_members (g : Graph) (f : ScopeFamily) (queries : List (Nat × ScopeQuery)) :
    f.members <+: (f.after g queries).members := by
  induction queries generalizing f with
  | nil => exact List.prefix_rfl
  | cons query queries ih => exact (step_members g f query.1 query.2).trans (ih _)

/-- All layers in a family bind names, each at most once. -/
def Named (f : ScopeFamily) : Prop := ∀ m ∈ f.members, ∀ layer ∈ m.scope, layer.Named

lemma Named.step (named : f.Named) (i : Nat) (query : ScopeQuery) :
    (f.step g i query).1.Named := by
  rcases step_cases g f i query with same | ⟨m, name, v, -, found, added⟩
  · rw [same]
    exact named
  · rw [added]
    intro n there
    rcases List.mem_append.1 there with old | new
    · exact named n old
    · rw [List.mem_singleton] at new
      subst new
      exact Scope.named_child (named m (List.mem_of_getElem? found)) name v

lemma Named.after (named : f.Named) (queries : List (Nat × ScopeQuery)) :
    (f.after g queries).Named := by
  induction queries generalizing f with
  | nil => exact named
  | cons query queries ih => exact ih (named.step query.1 query.2)

/-- A member answers in a larger family as before. -/
lemma answer_grown (grown : f.members <+: f'.members) (m : FamilyScope) {query : ScopeQuery}
    (asks : query.Asks f) : f'.answer g m query = f.answer g m query := by
  cases query with
  | child name v => cases asks
  | equal other =>
    obtain ⟨more, members⟩ := grown
    have there : f'.members[other]? = f.members[other]? := by
      rw [← members, List.getElem?_append_left asks]
    rw [answer, answer, there]
  | _ => rfl

/-- **What a member answers now, it answers after any queries.** -/
theorem run_after {i : Nat} (member : i < f.members.length) {query : ScopeQuery}
    (asks : query.Asks f) (queries : List (Nat × ScopeQuery)) :
    (f.after g queries).run g [(i, query)] = f.run g [(i, query)] := by
  obtain ⟨more, members⟩ := after_members g f queries
  have there : (f.after g queries).members[i]? = f.members[i]? := by
    rw [← members, List.getElem?_append_left member]
  simp only [run, step, there, List.getElem?_eq_getElem member]
  rw [answer_grown (after_members g f queries) _ asks]

/-! ## Answers and layers -/

/-- What a member answers about its bindings, in terms of its layers. -/
structure ViewsLayers (g : Graph) (f : ScopeFamily) (m : FamilyScope) : Prop where
  /-- A name is there if some layer binds it. -/
  has : ∀ name, ∃ b, f.answer g m (.has name) = .ok (.truth b) ∧
    (b = true ↔ ∃ layer ∈ m.scope, name ∈ layer.names)
  /-- Its value is the one that the innermost of these layers gives. -/
  item : ∀ name v, f.answer g m (.item name) = .ok (.value v) ↔
    ∃ inner layer outer, m.scope = inner ++ layer :: outer ∧ (∀ l ∈ inner, name ∉ l.names) ∧
      (.text name, v) ∈ layer
  /-- It has none if no layer binds it. -/
  missing : ∀ name, f.answer g m (.item name) = .error (.unbound name) ↔
    ∀ layer ∈ m.scope, name ∉ layer.names
  /-- The keys are the names bound, each once and in the order of the layers. -/
  keys : ∃ names : List String, f.answer g m .keys = .ok (.keys (names.map .text)) ∧
    f.answer g m .size = .ok (.index names.length) ∧ names.Nodup ∧
    (∀ name, name ∈ names ↔ ∃ layer ∈ m.scope, name ∈ layer.names) ∧
    names.Pairwise m.scope.Precedes
  /-- The mapping has these keys, and under each what it is asked for gives.  It is the outermost
  layer updated with the ones further in, and in place of the member has its answers. -/
  mapping : ∃ es : Entries, f.answer g m .mapping = .ok (.mapping es) ∧
    f.answer g m .keys = .ok (.keys (es.map Prod.fst)) ∧
    (∀ name v, (.text name, v) ∈ es ↔ f.answer g m (.item name) = .ok (.value v)) ∧
    (∀ inner outermost, m.scope = inner ++ [outermost] →
      es.Perm (Scope.updates inner outermost)) ∧
    (∀ query : ScopeQuery, query.IsAboutBindings → ∀ parent,
      f.answer g ⟨[es], parent⟩ query = f.answer g m query) ∧
    ∀ w : Value, (Value.scope [es]).equal g w = (Value.scope m.scope).equal g w ∧
      w.equal g (.scope [es]) = w.equal g (.scope m.scope)
  /-- The mapping of a child is that mapping with one more binding. -/
  child : ∀ name v parent, ∃ es es' : Entries, f.answer g m .mapping = .ok (.mapping es) ∧
    f.answer g ⟨m.scope.child name v, parent⟩ .mapping = .ok (.mapping es') ∧
    es'.Perm (es.insert (.text name) v)

lemma answer_item_eq_ok_iff {name : String} {v : Value} :
    f.answer g m (.item name) = .ok (.value v) ↔ m.scope.valueOf? name = some v := by
  rw [answer]
  cases m.scope.valueOf? name <;> simp

lemma answer_item_eq_error_iff {name : String} :
    f.answer g m (.item name) = .error (.unbound name) ↔ m.scope.valueOf? name = none := by
  rw [answer]
  cases m.scope.valueOf? name <;> simp

/-- A member of named layers answers as its layers say. -/
lemma viewsLayers (named : ∀ layer ∈ m.scope, layer.Named) : ViewsLayers g f m where
  has name := by
    refine ⟨m.scope.binds name, rfl, ?_⟩
    rw [Scope.binds_iff, Scope.valueOf?_isSome_iff]
  item name v := by rw [answer_item_eq_ok_iff, Scope.valueOf?_eq_some_iff named]
  missing name := by
    rw [answer_item_eq_error_iff, ← Option.not_isSome_iff_eq_none, Scope.valueOf?_isSome_iff]
    push Not
    rfl
  keys := by
    obtain ⟨names, keys, distinct, bound, ordered⟩ := Scope.exists_keys named
    refine ⟨names, ?_, ?_, distinct, bound, ordered⟩
    · rw [answer, keys]
    · rw [answer, Scope.size, keys, List.length_map]
  mapping := by
    refine ⟨m.scope.merged, rfl, ?_, ?_, ?_, ?_, ?_⟩
    · rw [answer, Scope.keys_eq_map_merged]
    · intro name v
      rw [answer_item_eq_ok_iff, Scope.mem_merged_iff named]
    · intro inner outermost shape
      rw [shape] at named ⊢
      exact Scope.merged_perm_updates named
    · exact fun query bindings parent => answer_merged named bindings parent
    · exact fun w => equal_scope (Scope.merged_merged named) w
  child name v parent := ⟨_, _, rfl, rfl, Scope.merged_child_perm named name v⟩

/-- Asking for a child adds it to the family. -/
lemma after_child {i : Nat} (found : f.members[i]? = some m) (name : String) (v : Value) :
    (f.after g [(i, .child name v)]).members = f.members ++ [⟨m.scope.child name v, some i⟩] := by
  simp only [after, List.foldl_cons, List.foldl_nil, step, found, addChild]

/-! ## Main result -/

/-- **Every scope of a family is a view of its layers.**  After any row of queries the members
answer as their layers say, and asking for a child adds it.  What the first members could be asked
they answer as they did at once. -/
theorem members_view_layers (g : Graph) (f : ScopeFamily) (named : f.Named)
    (queries : List (Nat × ScopeQuery)) :
    (∀ m ∈ (f.after g queries).members, ViewsLayers g (f.after g queries) m) ∧
    (∀ i m name v, (f.after g queries).members[i]? = some m →
      (f.after g (queries ++ [(i, .child name v)])).members =
        (f.after g queries).members ++ [⟨m.scope.child name v, some i⟩]) ∧
    ∀ i < f.members.length, ∀ query : ScopeQuery, query.Asks f →
      f.run g (queries ++ [(i, query)]) = f.run g queries ++ f.run g [(i, query)] := by
  refine ⟨?_, ?_, ?_⟩
  · intro m there
    exact viewsLayers (named.after queries m there)
  · intro i m name v found
    have added := after_child (g := g) found name v
    rwa [after, after, ← List.foldl_append, ← after] at added
  · intro i member query asks
    rw [run_append, run_after member asks]

/-- A layer that binds a name to null, in front of one that binds it to a number. -/
def nullInFront : Scope :=
  [[(.text "a", .null)], [(.text "b", .int 1), (.text "a", .int 2)]]

/-- The null in front is the value of its name, and a child that binds the other name leaves its
parent as it was. -/
theorem null_in_front_viewed :
    (ofScope nullInFront).Named ∧
    (ofScope nullInFront).answer ⟨[]⟩ ⟨nullInFront, none⟩ (.item "a") = .ok (.value .null) ∧
    (ofScope nullInFront).run ⟨[]⟩
        ([(0, .child "b" (.int 3)), (1, .item "b")] ++ [(0, .item "b")]) =
      [.ok (.index 1), .ok (.value (.int 3)), .ok (.value (.int 1))] := by
  have named : (ofScope nullInFront).Named := by
    intro m there
    rw [ofScope, List.mem_singleton] at there
    subst there
    intro layer there
    rw [nullInFront, List.mem_pair] at there
    rcases there with rfl | rfl
    · exact .singleton "a" .null
    · exact .of_keys ["b", "a"] rfl (by decide)
  obtain ⟨views, -, -⟩ := members_view_layers ⟨[]⟩ (ofScope nullInFront) named []
  obtain ⟨-, -, stays⟩ := members_view_layers ⟨[]⟩ (ofScope nullInFront) named
    [(0, .child "b" (.int 3)), (1, .item "b")]
  refine ⟨named, ?_, ?_⟩
  · refine ((views _ List.mem_cons_self).item "a" .null).2 ?_
    exact ⟨[], _, _, rfl, by simp, List.mem_cons_self⟩
  · rw [stays 0 (by decide) (.item "b") trivial]
    rfl

end ScopeFamily

end BraceTemplate
