import Mathlib
import BraceTemplate.Proofs.Interchange
import BraceTemplate.Proofs.LookUps
import BraceTemplate.Proofs.Refusals

/-!
# Scopes as single mappings

A scope is a stack of layers, and a rendering puts further layers on it for its loops.  Nothing of
that can be told from what is rendered: all that counts is which names are bound and to what.  So a
scope may be merged into one mapping, and bindings may be given by an updated mapping.

Scopes with the same look-ups are rendered alike (`renderAlike_of_lookups`), as far as both have a
description where a message needs one.  A scope and the mapping that it is merged into can be
interchanged (`interchange_merges`), because the description of a scope is that of its bindings in
force; so they are rendered as one.

The main result `scope_renders_as_mapping` adds what holds for whole calls.  There the bindings can
replace an updated mapping unless they bind one name, `Template.ownName`, which a call refuses
though a mapping may bind it; `own_name_disagrees` is such a call.
-/

namespace BraceTemplate

open Sameness

/-! ## Renderings -/

variable {g : Graph}

/-- What evaluating forests gives or raises agrees exactly if it is without the same messages. -/
lemma evaluateAll_agree_iff (S : Sameness g) {s₁ s₂ : Scope} (same : SameLookups S s₁ s₂)
    (mode : Mode) (nodes : List Node) :
    Agree S.SameStop Eq (evaluateAll g mode s₁ nodes) (evaluateAll g mode s₂ nodes) ↔
      SpeechlessAlike g mode s₁ s₂ nodes := by
  rw [speechlessAlike_iff]
  exact raised_agree_iff S (renderAll_agree_of_lookups S same mode nodes)

/-- The identity asks for equal look-ups. -/
lemma sameLookups_identity {s₁ s₂ : Scope} (same : ∀ name, s₁.valueOf? name = s₂.valueOf? name) :
    SameLookups (identity g) s₁ s₂ := by
  intro name
  rw [same name]
  cases s₂.valueOf? name with
  | none => exact .none
  | some v => exact .some rfl

/-- A mapping makes a scope with its names. -/
lemma exists_scope_of_entries? {m : Value} {es : Entries} (mapping : m.entries? g = some es) :
    ∃ base, Scope.ofValue? g m = some base ∧ ∀ name, base.valueOf? name = es.valueOf? name := by
  cases m with
  | scope layers =>
    cases mapping
    exact ⟨layers, rfl, fun name => (Scope.valueOf?_merged layers).symm⟩
  | collection place =>
    cases layered : (Value.collection place).layers? g with
    | some layers =>
      refine ⟨layers, by simp [Scope.ofValue?, layered], fun name => ?_⟩
      rw [Value.entries?_of_layers? layered, Option.some.injEq] at mapping
      rw [← mapping, Scope.valueOf?_merged]
    | none =>
      refine ⟨[es], by simp [Scope.ofValue?, layered, mapping], fun name => ?_⟩
      rw [Scope.valueOf?_cons]
      exact Option.or_none
  | _ => cases mapping

/-- What a call binds answers before its mapping. -/
lemma exists_scope_of_call {m : Value} {es k : Entries} (mapping : m.entries? g = some es)
    (unbound : Template.ownName ∉ k.names) :
    ∃ s, Template.scope g [m] k = .ok s ∧
      ∀ name, s.valueOf? name = (k.valueOf? name).or (es.valueOf? name) := by
  obtain ⟨base, made, answers⟩ := exists_scope_of_entries? mapping
  refine ⟨_, scope_eq_ok_iff.2 ⟨unbound, base, .inr ⟨m, rfl, made⟩, rfl⟩, ?_⟩
  intro name
  cases k with
  | nil => exact answers name
  | cons e k =>
    rw [← answers name]
    exact Scope.valueOf?_cons (e :: k) base name

/-- A call may give its bindings by an updated mapping, unless it binds the name of the template
itself, or is without a message for one of the two. -/
lemma call_agree_update_iff (t : Template) {m m' : Value} {es k : Entries}
    (mapping : m.entries? g = some es) (updated : m'.entries? g = some (es.update k))
    (distinct : k.names.Nodup) :
    Agree (SameError (identity g)) Eq (t.render g [m] k) (t.render g [m'] []) ↔
      Template.ownName ∉ k.names ∧ ∀ s s', Template.scope g [m] k = .ok s →
        Template.scope g [m'] [] = .ok s' →
        SpeechlessAlike g (t.mode g) s s' t.document.nodes := by
  by_cases bound : Template.ownName ∈ k.names
  · -- with that name bound the first call is refused, and no rendering ends in that way
    refine iff_of_false ?_ fun alike => alike.1 bound
    cases data : Template.scope g [m] k with
    | ok s => exact absurd bound (scope_eq_ok_iff.1 data).1
    | error e =>
      rw [Template.render, data]
      generalize t.render g [m'] [] = other
      rintro ⟨⟩
      rename_i same
      cases same
  · obtain ⟨s, data, answers⟩ := exists_scope_of_call mapping bound
    obtain ⟨s', data', answers'⟩ := exists_scope_of_call updated (k := []) (by simp [Entries.names])
    have same : SameLookups (identity g) s s' := by
      refine sameLookups_identity fun name => ?_
      rw [answers, answers', Entries.valueOf?_update es distinct]
      rfl
    rw [call_agree_iff _ t data data' (renderAll_agree_of_lookups _ same _ _), data, data']
    constructor
    · rintro alike
      refine ⟨bound, ?_⟩
      rintro _ _ ⟨⟩ ⟨⟩
      exact alike
    · exact fun alike => alike.2 s s' rfl rfl

/-! ## Merged layers -/

/-- The scopes are the same, but that layers of the first are merged into one in the second. -/
def Merges (s t u : Scope) : Prop := ∃ front, t = front ++ s ∧ u = front ++ [s.merged]

namespace Merges

variable {s t u : Scope}

lemma merged (h : Merges s t u) : t.merged = u.merged := by
  obtain ⟨front, rfl, rfl⟩ := h
  exact (Scope.merged_append_merged front s).symm

lemma valueOf? (h : Merges s t u) (name : String) : t.valueOf? name = u.valueOf? name := by
  rw [← Scope.valueOf?_merged, h.merged, Scope.valueOf?_merged]

lemma child (h : Merges s t u) (item : String) (v : Value) :
    Merges s (t.child item v) (u.child item v) := by
  obtain ⟨front, rfl, rfl⟩ := h
  exact ⟨[(.text item, v)] :: front, rfl, rfl⟩

lemma describe (h : Merges s t u) : (Value.scope t).describe g = (Value.scope u).describe g := by
  simp only [Value.describe, Value.fullDescription, Value.layers?, h.merged]

end Merges

/-- A scope and its merged layer can be interchanged. -/
lemma interchange_merges (g : Graph) (s : Scope) : Interchange (identity g) (Merges s) where
  lookups h := sameLookups_identity h.valueOf?
  described h := h.describe
  child h item v w same := by
    obtain rfl : v = w := same
    exact h.child item v

lemma renderAll_merged (g : Graph) (s : Scope) (mode : Mode) (nodes : List Node) :
    Agree (SaidStop (identity g)) Eq (renderAll g mode s nodes)
      (renderAll g mode [s.merged] nodes) :=
  renderAll_said (fun same => congrArg _ same) (interchange_merges g s) ⟨[], rfl, rfl⟩ mode nodes

lemma renderSame_merged (g : Graph) (s : Scope) : RenderSame (identity g) s [s.merged] :=
  renderSame_of_interchange (fun same => congrArg _ same) (interchange_merges g s) ⟨[], rfl, rfl⟩

/-- A call in a scope and one in its merged layer end in the same way, messages included. -/
lemma call_merged {s : Scope} (t : Template) {arguments₁ arguments₂ : List Value}
    {bindings₁ bindings₂ : Entries} (first : Template.scope g arguments₁ bindings₁ = .ok s)
    (second : Template.scope g arguments₂ bindings₂ = .ok [s.merged]) :
    t.render g arguments₁ bindings₁ = t.render g arguments₂ bindings₂ := by
  have texts := renderAll_merged g s (t.mode g) t.document.nodes
  rw [Template.render, Template.render, first, second]
  simp only [mapError_ok, ok_bind]
  generalize renderAll g (t.mode g) s t.document.nodes = x,
    renderAll g (t.mode g) [s.merged] t.document.nodes = y at texts ⊢
  cases texts with
  | ok same => rw [same]
  | error said => rw [Except.mapError, Except.mapError, said.report_eq]

/-! ## Names bound to null -/

/-- The innermost layer that binds a name decides, whatever stands underneath. -/
lemma valueOf?_of_layer {front outer : Scope} {layer : Entries} {name : String} {v : Value}
    (free : front.valueOf? name = none) (bound : layer.valueOf? name = some v) :
    Scope.valueOf? (front ++ layer :: outer) name = some v := by
  induction front with
  | nil => rw [List.nil_append, Scope.valueOf?_cons, bound, Option.some_or]
  | cons first front ih =>
    rw [Scope.valueOf?_cons, Option.or_eq_none_iff] at free
    rw [List.cons_append, Scope.valueOf?_cons, free.1, Option.none_or, ih free.2]

variable {s : Scope} {name : String}

/-- A walk ends at a name that is bound to null. -/
lemma resolve_of_null (null : s.valueOf? name = some .null) (rest : List String) :
    (Value.scope s).resolve g (name :: rest) =
      .error (.fault (.nullProperty (name :: rest) name)) := by
  rw [resolve_scope_cons, null]
  rfl

lemma walk_lenient_of_null (null : s.valueOf? name = some .null) (rest : List String) :
    (Value.scope s).walk g .lenient (name :: rest) = .ok .undefined := by
  rw [Value.walk, resolve_of_null null]
  rfl

/-- A strict directive that reads a name bound to null reports that name. -/
lemma work_strict_of_null (null : s.valueOf? name = some .null) {n : Node} {rest : List String}
    (reads : n.reads = some (name :: rest)) :
    ∃ f message, n.work g .strict s = .error (.fault f n.span) ∧
      f.subject = .undefinedName name ∧ f.message g = .ok message := by
  have found := resolve_of_null (g := g) null rest
  cases n with
  | text span content | comment span body => cases reads
  | «variable» span name =>
    cases reads
    refine ⟨.missingVariable name, _, ?_, rfl, rfl⟩
    rw [Node.work, Scope.lookup, settle_strict, require_eq, found]
    rfl
  | accessor span body | loop span body target item children
  | conditional span body target children =>
    have path := Option.some.inj reads
    refine ⟨.nullProperty (name :: rest) name, _, ?_, rfl, rfl⟩
    rw [Node.work, path, Value.walk, settle_strict, found]
    rfl

/-- A lenient directive that reads a name bound to null writes nothing. -/
lemma work_lenient_of_null (null : s.valueOf? name = some .null) {n : Node} {rest : List String}
    (reads : n.reads = some (name :: rest)) : n.work g .lenient s = .ok ⟨"", []⟩ := by
  have found := walk_lenient_of_null (g := g) null rest
  cases n with
  | text span content | comment span body => cases reads
  | «variable» span name =>
    cases reads
    rw [Node.work, Scope.lookup, require_eq, resolve_of_null null]
    rfl
  | accessor span body | loop span body target item children
  | conditional span body target children =>
    have path := Option.some.inj reads
    rw [Node.work, path, found]
    rfl

lemma evaluate_of_null (null : s.valueOf? name = some .null) {n : Node} {rest : List String}
    (reads : n.reads = some (name :: rest)) :
    (∃ f, n.evaluate g .strict s = .error (.fault f n.span) ∧ f.subject = .undefinedName name) ∧
      n.evaluate g .lenient s = .ok "" := by
  constructor
  · obtain ⟨f, message, failed, subject, said⟩ := work_strict_of_null (g := g) null reads
    refine ⟨f, ?_, subject⟩
    rw [Node.evaluate, render_eq_error_iff.2 (.inl failed)]
    simp [Except.mapError, Stop.raised, said]
  · rw [Node.evaluate, Node.render_eq, work_lenient_of_null null reads]
    rfl

/-! ## Main result -/

/-- Nothing that is rendered tells the one scope from the other, except that a strict rendering may
be without a message in the one and not in the other. -/
structure RenderAlike {g : Graph} (S : Sameness g) (s₁ s₂ : Scope) : Prop where
  ends : ∀ mode nodes, Agree S.SameStop Eq (renderAll g mode s₁ nodes) (renderAll g mode s₂ nodes)
  node : ∀ mode (n : Node), Agree S.SameStop Eq (n.evaluate g mode s₁) (n.evaluate g mode s₂) ↔
    SpeechlessAlike g mode s₁ s₂ [n]
  forest : ∀ mode nodes,
    Agree S.SameStop Eq (evaluateAll g mode s₁ nodes) (evaluateAll g mode s₂ nodes) ↔
      SpeechlessAlike g mode s₁ s₂ nodes
  call : ∀ (t : Template) {arguments₁ arguments₂ : List Value} {bindings₁ bindings₂ : Entries},
    Template.scope g arguments₁ bindings₁ = .ok s₁ →
    Template.scope g arguments₂ bindings₂ = .ok s₂ →
    (Agree (SameError S) Eq (t.render g arguments₁ bindings₁) (t.render g arguments₂ bindings₂) ↔
      SpeechlessAlike g (t.mode g) s₁ s₂ t.document.nodes)

lemma renderAlike_of_lookups {g : Graph} (S : Sameness g) {s₁ s₂ : Scope}
    (same : SameLookups S s₁ s₂) : RenderAlike S s₁ s₂ where
  ends mode nodes := renderAll_agree_of_lookups S same mode nodes
  node mode n := by
    rw [← evaluateAll_singleton, ← evaluateAll_singleton]
    exact evaluateAll_agree_iff S same mode [n]
  forest mode nodes := evaluateAll_agree_iff S same mode nodes
  call t _ _ _ _ first second :=
    call_agree_iff S t first second (renderAll_agree_of_lookups S same _ _)

/-- Nothing at all that is rendered tells the one scope from the other. -/
structure RenderEqual (g : Graph) (s₁ s₂ : Scope) : Prop where
  node : ∀ mode (n : Node),
    Agree (identity g).SameStop Eq (n.evaluate g mode s₁) (n.evaluate g mode s₂)
  forest : ∀ mode nodes,
    Agree (identity g).SameStop Eq (evaluateAll g mode s₁ nodes) (evaluateAll g mode s₂ nodes)
  call : ∀ (t : Template) {arguments₁ arguments₂ : List Value} {bindings₁ bindings₂ : Entries},
    Template.scope g arguments₁ bindings₁ = .ok s₁ →
    Template.scope g arguments₂ bindings₂ = .ok s₂ →
    t.render g arguments₁ bindings₁ = t.render g arguments₂ bindings₂

lemma renderEqual_merged (g : Graph) (s : Scope) : RenderEqual g s [s.merged] where
  node := (renderSame_merged g s).node
  forest := (renderSame_merged g s).forest
  call t _ _ _ _ first second := call_merged t first second

/-- **A rendering depends on its scope as on one mapping.**  Scopes that bind the same are rendered
alike, exactly where strict renderings in them are without the same messages; a scope and what it is
merged into are rendered as one.  Bindings of a call are as good as an updated mapping, unless they
bind the name of the template itself or a message is missing for one of the two.  A name bound to
null is not looked for further out. -/
theorem scope_renders_as_mapping (g : Graph) :
    (∀ (S : Sameness g) (s₁ s₂ : Scope), SameLookups S s₁ s₂ → RenderAlike S s₁ s₂) ∧
    (∀ s : Scope, RenderEqual g s [s.merged]) ∧
    (∀ (t : Template) (m m' : Value) (es k : Entries), m.entries? g = some es →
      m'.entries? g = some (es.update k) → k.names.Nodup →
      (Agree (SameError (identity g)) Eq (t.render g [m] k) (t.render g [m'] []) ↔
        Template.ownName ∉ k.names ∧ ∀ s s', Template.scope g [m] k = .ok s →
          Template.scope g [m'] [] = .ok s' →
          SpeechlessAlike g (t.mode g) s s' t.document.nodes)) ∧
    ∀ (front outer : Scope) (layer : Entries) (name : String), front.valueOf? name = none →
      layer.valueOf? name = some .null →
      ∀ (n : Node) (rest : List String), n.reads = some (name :: rest) →
        (∃ f, n.evaluate g .strict (front ++ layer :: outer) = .error (.fault f n.span) ∧
          f.subject = .undefinedName name) ∧
        n.evaluate g .lenient (front ++ layer :: outer) = .ok "" := by
  refine ⟨?_, ?_, ?_, ?_⟩
  · intro S s₁ s₂ same
    exact renderAlike_of_lookups S same
  · exact renderEqual_merged g
  · intro t m m' es k mapping updated distinct
    exact call_agree_update_iff t mapping updated distinct
  · intro front outer layer name free bound n rest reads
    exact evaluate_of_null (valueOf?_of_layer free bound) reads

/-- A mapping that binds a name to a number, and one that binds it to null. -/
def numberAndNull : Graph := ⟨[.map [(.text "a", .int 1)], .map [(.text "a", .null)]]⟩

/-- A directive that writes the value of that name. -/
def writesName : Node := .variable ⟨⟨0, 1, 0⟩, 7⟩ "a"

/-- That directive walks to nothing, so it has a message wherever it fails. -/
lemma not_speechless_writesName (g : Graph) (s : Scope) (w : WritingFault) :
    ¬ Speechless g s [writesName] w := by
  rintro ⟨t, m, reached, path, holder, walks, -⟩
  cases reached with
  | head => cases walks
  | next _ later => cases later
  | inside _ _ _ below => cases below

/-- A binding to null in front of a mapping is as good as null in the mapping, and is not looked
through. -/
theorem null_renders_as_mapping :
    RenderAlike (identity numberAndNull) [[(.text "a", .null)], [(.text "a", .int 1)]]
      [[(.text "a", .null)]] ∧
    Agree (SameError (identity numberAndNull)) Eq
      (Template.render numberAndNull ⟨⟨7, [writesName]⟩, {}, none, none⟩ [.collection 0]
        [(.text "a", .null)])
      (Template.render numberAndNull ⟨⟨7, [writesName]⟩, {}, none, none⟩ [.collection 1] []) ∧
    writesName.evaluate numberAndNull .lenient
      ([] ++ [(.text "a", .null)] :: [[(.text "a", .int 1)]]) = .ok "" := by
  have answers : ∀ name, Scope.valueOf? [[(.text "a", .null)], [(.text "a", .int 1)]] name =
      Scope.valueOf? [[(.text "a", .null)]] name := by
    intro name
    by_cases same : "a" = name <;> simp [Scope.valueOf?_cons, Entries.valueOf?, same]
  have updated : Value.entries? numberAndNull (.collection 1) =
      some (Entries.update [(.text "a", .int 1)] [(.text "a", .null)]) := by cbv
  have unbound : Template.ownName ∉ Entries.names [(.text "a", .null)] := by decide
  obtain ⟨alike, -, calls, hides⟩ := scope_renders_as_mapping numberAndNull
  refine ⟨?_, ?_, ?_⟩
  · exact alike (identity numberAndNull) _ _ (sameLookups_identity answers)
  · refine (calls _ (.collection 0) _ _ _ rfl updated (by decide)).2 ⟨unbound, ?_⟩
    intro s s' _ _ _ w
    exact iff_of_false (not_speechless_writesName _ s w) (not_speechless_writesName _ s' w)
  · exact (hides [] [[(.text "a", .int 1)]] [(.text "a", .null)] "a" rfl rfl writesName [] rfl).2

/-- A mapping without bindings, and one that binds the name of the template itself. -/
def emptyAndSelf : Graph := ⟨[.map [], .map [(.text "self", .int 1)]]⟩

/-- A mapping may bind the name of the template itself, but a call refuses the same binding. -/
theorem own_name_disagrees :
    ∃ t, Template.ofSource "x" {} none = .ok t ∧
      Value.entries? emptyAndSelf (.collection 0) = some [] ∧
      Value.entries? emptyAndSelf (.collection 1) =
        some (Entries.update [] [(.text "self", .int 1)]) ∧
      t.render emptyAndSelf [.collection 0] [(.text "self", .int 1)] =
        .error (.usage (.boundTwice "self")) ∧
      t.render emptyAndSelf [.collection 1] [] = .ok "x" ∧
      ¬ Agree (SameError (identity emptyAndSelf)) Eq
        (t.render emptyAndSelf [.collection 0] [(.text "self", .int 1)])
        (t.render emptyAndSelf [.collection 1] []) := by
  let t : Template := ⟨⟨1, [.text ⟨⟨0, 1, 0⟩, 1⟩ "x"]⟩, {}, none, some "x"⟩
  have made : Template.ofSource "x" {} none = .ok t := by cbv
  have refused : t.render emptyAndSelf [.collection 0] [(.text "self", .int 1)] =
      .error (.usage (.boundTwice "self")) := by cbv
  have rendered : t.render emptyAndSelf [.collection 1] [] = .ok "x" := by cbv
  refine ⟨t, made, rfl, by cbv, refused, rendered, ?_⟩
  rw [refused, rendered]
  rintro ⟨⟩

end BraceTemplate
