import BraceTemplate.Proofs.Descriptions
import BraceTemplate.Proofs.Joins
import BraceTemplate.Proofs.Sameness

/-!
# Copies of data

Two data may be the same without being one and the same object: a copy has its collections in other
places.  A copy is described by the pairs of places that correspond; `Copy` relates the values that
name corresponding places and are otherwise equal, and `Copying` asks that corresponding places hold
copies and that no place corresponds to two.

Templates cannot tell a copy from its original, so copies are a notion of sameness
(`Sameness.copies`), and messages describe both in the same words (`describe_copy`).  That places
correspond one to one is needed for data that contain themselves, which are displayed down to the
place where they come back: the walks through both data come back at the same time (`Paired`).
-/

namespace BraceTemplate

/-! ## Values, bindings and collections -/

/-- Two bindings of the same name or key, to related values. -/
inductive Keyed {κ : Type} (C : Value → Value → Prop) : κ × Value → κ × Value → Prop
  | mk (k : κ) {v w : Value} : C v w → Keyed C (k, v) (k, w)

/-- A value with its copy, where some places of collections correspond. -/
inductive Copy (R : Nat → Nat → Prop) : Value → Value → Prop
  | null : Copy R .null .null
  | undefined : Copy R .undefined .undefined
  | bool (b : Bool) : Copy R (.bool b) (.bool b)
  | int (n : Int) : Copy R (.int n) (.int n)
  | float (x : Binary64) : Copy R (.float x) (.float x)
  | decimal (text : String) (m n : Nat) : Copy R (.decimal text m) (.decimal text n)
  | complex (re im : Binary64) : Copy R (.complex re im) (.complex re im)
  | text (s : String) : Copy R (.text s) (.text s)
  | bytes (content : List UInt8) {as bs : List (String × Value)} :
      List.Forall₂ (Keyed (Copy R)) as bs → Copy R (.bytes content as) (.bytes content bs)
  | object (m n : Nat) (display : String) {as bs as' bs' : List (String × Value)} :
      List.Forall₂ (Keyed (Copy R)) as bs → List.Forall₂ (Keyed (Copy R)) as' bs' →
      Copy R (.object m display as as') (.object n display bs bs')
  | scope {layers layers' : List Entries} :
      List.Forall₂ (List.Forall₂ (Keyed (Copy R))) layers layers' →
      Copy R (.scope layers) (.scope layers')
  | collection {p q : Nat} : R p q → Copy R (.collection p) (.collection q)

/-- Bindings of the same keys to copies, in the same order. -/
abbrev CopyEntries (R : Nat → Nat → Prop) : Entries → Entries → Prop :=
  List.Forall₂ (Keyed (Copy R))

/-- A collection with its copy. -/
inductive CopyCollection (R : Nat → Nat → Prop) : Collection → Collection → Prop
  | list {vs ws : List Value} : List.Forall₂ (Copy R) vs ws → CopyCollection R (.list vs) (.list ws)
  | tuple {vs ws : List Value} :
      List.Forall₂ (Copy R) vs ws → CopyCollection R (.tuple vs) (.tuple ws)
  | map {es fs : Entries} : CopyEntries R es fs → CopyCollection R (.map es) (.map fs)
  | scope {layers layers' : List Entries} :
      List.Forall₂ (CopyEntries R) layers layers' →
      CopyCollection R (.scope layers) (.scope layers')

/-- Places correspond one to one, and corresponding places hold copies. -/
structure Copying (g : Graph) (R : Nat → Nat → Prop) : Prop where
  oneToOne : ∀ {p q p' q'}, R p q → R p' q' → (p = p' ↔ q = q')
  contents : ∀ {p q}, R p q → Option.Rel (CopyCollection R) (g.at? p) (g.at? q)

variable {g : Graph} {R : Nat → Nat → Prop}

/-! ## Looking into copies -/

lemma valueOf?_copy {es fs : Entries} (name : String) (h : CopyEntries R es fs) :
    Option.Rel (Copy R) (es.valueOf? name) (fs.valueOf? name) := by
  induction h with
  | nil => exact .none
  | cons here _ ih =>
    obtain ⟨k, copy⟩ := here
    cases k with
    | text s =>
      simp only [Entries.valueOf?]
      split
      · exact .some copy
      · exact ih
    | _ => exact ih

lemma or_copy {x y x' y' : Option Value} (first : Option.Rel (Copy R) x x')
    (second : Option.Rel (Copy R) y y') : Option.Rel (Copy R) (x.or y) (x'.or y') := by
  cases first with
  | none => exact second
  | some copy => exact .some copy

lemma scope_valueOf?_copy {layers layers' : List Entries} (name : String)
    (h : List.Forall₂ (CopyEntries R) layers layers') :
    Option.Rel (Copy R) (Scope.valueOf? layers name) (Scope.valueOf? layers' name) := by
  induction h with
  | nil => exact .none
  | cons here _ ih =>
    rw [Scope.valueOf?_cons, Scope.valueOf?_cons]
    exact or_copy (valueOf?_copy name here) ih

lemma lookup_copy {as bs : List (String × Value)} (name : String)
    (h : List.Forall₂ (Keyed (Copy R)) as bs) :
    Option.Rel (Copy R) (as.lookup name) (bs.lookup name) := by
  induction h with
  | nil => exact .none
  | cons here _ ih =>
    obtain ⟨k, copy⟩ := here
    rw [List.lookup_cons, List.lookup_cons]
    split
    · exact .some copy
    · exact ih

lemma attribute_copy {as bs as' bs' : List (String × Value)} (name : String)
    (own : List.Forall₂ (Keyed (Copy R)) as bs) (lent : List.Forall₂ (Keyed (Copy R)) as' bs') :
    Option.Rel (Copy R) (attribute? as as' name) (attribute? bs bs' name) := by
  unfold attribute?
  split
  · exact or_copy (lookup_copy name own) (lookup_copy name lent)
  · exact .none

lemma getElem?_copy {vs ws : List Value} (i : Nat) (h : List.Forall₂ (Copy R) vs ws) :
    Option.Rel (Copy R) vs[i]? ws[i]? := by
  induction h generalizing i with
  | nil => exact .none
  | cons here _ ih =>
    cases i with
    | zero => exact .some here
    | succ i => exact ih i

/-- Looking up an index in copies of a row gives copies, or the same refusal. -/
lemma index_copy {vs ws : List Value} (name : String) (h : List.Forall₂ (Copy R) vs ws) :
    Agree Eq (Option.Rel (Copy R)) (return (← index? name).bind (vs[·]?))
      (return (← index? name).bind (ws[·]?)) := by
  cases index? name with
  | error n => exact .error rfl
  | ok found =>
    cases found with
    | none => exact .ok .none
    | some i => exact .ok (getElem?_copy i h)

/-- The bindings in force in a scope are copied with it. -/
lemma firstBindings_copy {es fs : Entries} (seen : List Key) (h : CopyEntries R es fs) :
    CopyEntries R (Scope.firstBindings seen es) (Scope.firstBindings seen fs) := by
  induction h generalizing seen with
  | nil => exact .nil
  | cons here _ ih =>
    obtain ⟨k, copy⟩ := here
    rw [Scope.firstBindings, Scope.firstBindings]
    split
    · exact ih seen
    · exact .cons ⟨k, copy⟩ (ih _)

lemma merged_copy {layers layers' : List Entries}
    (h : List.Forall₂ (CopyEntries R) layers layers') :
    CopyEntries R (Scope.merged layers) (Scope.merged layers') := by
  refine firstBindings_copy [] ?_
  induction h with
  | nil => exact .nil
  | cons here _ ih =>
    rw [List.flatten_cons, List.flatten_cons]
    exact List.rel_append here ih

/-! ## Rows of copies -/

/-- Rows of which the items correspond are written in the same way. -/
lemma mapM_eq_of_forall₂ {ε α β γ : Type} {P : α → β → Prop} {f : α → Except ε γ}
    {f' : β → Except ε γ} {as : List α} {bs : List β} (h : List.Forall₂ P as bs)
    (each : ∀ a ∈ as, ∀ b, P a b → f a = f' b) : as.mapM f = bs.mapM f' := by
  induction h with
  | nil => rfl
  | cons here _ ih =>
    rw [List.mapM_cons, List.mapM_cons, each _ List.mem_cons_self _ here,
      ih fun a later => each a (List.mem_cons_of_mem _ later)]

/-- Copied bindings are written in the same way if the values are. -/
lemma bindings_copy {ε : Type} (binding : Key → Except ε String → Except ε String)
    {es fs : Entries} {written written' : Value → Except ε String} (h : CopyEntries R es fs)
    (each : ∀ e ∈ es, ∀ w, Copy R e.2 w → written e.2 = written' w) :
    (es.mapM fun e => binding e.1 (written e.2)) = fs.mapM fun e => binding e.1 (written' e.2) := by
  refine mapM_eq_of_forall₂ h fun e there f same => ?_
  obtain ⟨k, copy⟩ := same
  rw [each _ there _ copy]

lemma Value.jsonInside_collection (g : Graph) (inside : List Nat) (place : Nat) :
    (Value.collection place).jsonInside g inside =
      match g.enter? inside place with
      | some (.list vs) | some (.tuple vs) =>
        squareBrackets <$> vs.mapM (·.jsonInside g (place :: inside))
      | some (.map es) =>
        curlyBrackets <$> es.mapM fun e =>
          jsonBinding e.1.json? (e.2.jsonInside g (place :: inside))
      | some (.scope _) =>
        Text.jsonQuote <$> ((Value.collection place).literal g).mapError .ofWriting
      | none => if (g.at? place).isSome then .error .refused else .ok "null" := by
  rw [Value.jsonInside]
  split <;> simp [*]

lemma literals_copy {es fs : Entries} {written written' : Value → Except WritingFault String}
    (h : CopyEntries R es fs)
    (each : ∀ e ∈ es, ∀ w, Copy R e.2 w → written e.2 = written' w) :
    (es.mapM fun e => bindingLiteral e.1.literal (written e.2)) =
      fs.mapM fun e => bindingLiteral e.1.literal (written' e.2) :=
  bindings_copy (fun k => bindingLiteral k.literal) h each

/-! ## Copies in a graph -/

/-- The walks through a value and its copy are inside of corresponding collections. -/
def Paired (R : Nat → Nat → Prop) (inside inside' : List Nat) : Prop :=
  ∀ {p q}, R p q → (p ∈ inside ↔ q ∈ inside')

lemma paired_nil : Paired R [] [] := fun _ => by simp only [List.not_mem_nil]

section

variable (c : Copying g R)

include c

lemma kind_copy {v w : Value} (h : Copy R v w) : v.kind g = w.kind g := by
  cases h with
  | @collection p q pair =>
    have contents := c.contents pair
    simp only [Value.kind]
    generalize g.at? p = x, g.at? q = y at contents ⊢
    cases contents with
    | none => rfl
    | some copy => cases copy <;> rfl
  | _ => rfl

lemma truth_copy {v w : Value} (h : Copy R v w) : v.truth g = w.truth g := by
  have kind := kind_copy c h
  cases h <;> simp [Value.truth, Value.isAbsent, kind]

lemma items_copy {v w : Value} (h : Copy R v w) :
    Option.Rel (List.Forall₂ (Copy R)) (v.items? g) (w.items? g) := by
  cases h with
  | @collection p q pair =>
    have contents := c.contents pair
    simp only [Value.items?]
    generalize g.at? p = x, g.at? q = y at contents ⊢
    cases contents with
    | none => exact .none
    | some copy =>
      cases copy with
      | list items | tuple items => exact .some items
      | map | scope => exact .none
  | _ => exact .none

lemma member_copy {v w : Value} (h : Copy R v w) (name : String) :
    Agree Eq (Option.Rel (Copy R)) (v.member? g name) (w.member? g name) := by
  cases h with
  | bytes content lent => exact .ok (attribute_copy name .nil lent)
  | object m n display own lent => exact .ok (attribute_copy name own lent)
  | scope layers => exact .ok (scope_valueOf?_copy name layers)
  | @collection p q pair =>
    have contents := c.contents pair
    simp only [Value.member?]
    generalize g.at? p = x, g.at? q = y at contents ⊢
    cases contents with
    | none => exact .ok .none
    | some copy =>
      cases copy with
      | list items | tuple items => exact index_copy name items
      | map entries => exact .ok (valueOf?_copy name entries)
      | scope layers => exact .ok (scope_valueOf?_copy name layers)
  | _ => exact .ok .none

/-! ## Displayed copies -/

lemma paired_cons {inside inside' : List Nat} {p q : Nat} (pair : R p q)
    (h : Paired R inside inside') : Paired R (p :: inside) (q :: inside') := by
  intro p' q' other
  rw [List.mem_cons, List.mem_cons, h other, c.oneToOne other pair]

/-- The walk through a copy enters a copy of what the walk through the original enters. -/
lemma enter?_copy {inside inside' : List Nat} {p q : Nat} (pair : R p q)
    (paired : Paired R inside inside') :
    Option.Rel (CopyCollection R) (g.enter? inside p) (g.enter? inside' q) := by
  simp only [Graph.enter?, paired pair]
  split
  · exact .none
  · exact c.contents pair

lemma isSome_copy {p q : Nat} (pair : R p q) : (g.at? p).isSome = (g.at? q).isSome := by
  have contents := c.contents pair
  generalize g.at? p = x, g.at? q = y at contents ⊢
  cases contents with
  | none => rfl
  | some copy => rfl

/-- The dots that stand for a collection stand for its copy. -/
lemma ellipsis_copy {p q : Nat} (pair : R p q) :
    (g.at? p).map Collection.ellipsis = (g.at? q).map Collection.ellipsis := by
  have contents := c.contents pair
  generalize g.at? p = x, g.at? q = y at contents ⊢
  cases contents with
  | none => rfl
  | some copy => cases copy <;> rfl

/-- A value and its copy are displayed in the same way. -/
lemma literalInside_copy {inside inside' opened opened' : List Nat} {v w : Value}
    (h : Copy R v w) (paired : Paired R inside inside') (open' : Paired R opened opened') :
    v.literalInside g inside opened = w.literalInside g inside' opened' := by
  fun_induction Value.literalInside g inside opened v generalizing w inside' opened' with
  | case11 inside opened layers ih =>
    rw [← Value.literalInside]
    cases h with
    | scope copy =>
      rw [Value.literalInside_scope, Value.literalInside_scope]
      refine congrArg (scopeBrackets <$> ·) (literals_copy (merged_copy copy) ?_)
      exact fun e there w copy => ih e there copy paired open'
  | case12 inside opened place vs entered ih | case13 inside opened place vs entered ih =>
    cases h with
    | collection pair =>
      have entry := enter?_copy c pair paired
      rw [entered] at entry
      obtain ⟨_, entered', ⟨items⟩ | ⟨items⟩ | _⟩ := exists_of_rel_some entry
      rw [Value.literalInside_collection, entered']
      refine congrArg _ (mapM_eq_of_forall₂ items fun v _ w copy => ?_)
      exact ih v copy (paired_cons c pair paired) paired_nil
  | case14 inside opened place es entered ih =>
    cases h with
    | collection pair =>
      have entry := enter?_copy c pair paired
      rw [entered] at entry
      obtain ⟨_, entered', _ | _ | ⟨entries⟩⟩ := exists_of_rel_some entry
      rw [Value.literalInside_collection, entered']
      refine congrArg (curlyBrackets <$> ·) (literals_copy entries fun e _ w copy => ?_)
      exact ih e copy (paired_cons c pair paired) paired_nil
  | case15 inside opened place layers entered again =>
    cases h with
    | collection pair =>
      have entry := enter?_copy c pair paired
      rw [entered] at entry
      obtain ⟨_, entered', _ | _ | _ | _⟩ := exists_of_rel_some entry
      rw [Value.literalInside_collection, entered']
      exact (if_pos ((open' pair).1 again)).symm
  | case16 inside opened place layers entered fresh ih =>
    cases h with
    | collection pair =>
      have entry := enter?_copy c pair paired
      rw [entered] at entry
      obtain ⟨_, entered', _ | _ | _ | ⟨copies⟩⟩ := exists_of_rel_some entry
      rw [Value.literalInside_collection, entered']
      refine Eq.trans ?_ (if_neg (mt (open' pair).2 fresh)).symm
      refine congrArg (scopeBrackets <$> ·) (literals_copy (merged_copy copies) ?_)
      exact fun e _ w copy => ih e copy paired (paired_cons c pair open')
  | case17 inside opened place left =>
    cases h with
    | collection pair =>
      have entry := enter?_copy c pair paired
      rw [left] at entry
      rw [Value.literalInside_collection, eq_none_of_rel_none entry, ellipsis_copy c pair]
  | _ =>
    cases h
    simp_all [Value.literalInside]

lemma literal_copy {v w : Value} (h : Copy R v w) : v.literal g = w.literal g :=
  literalInside_copy c h paired_nil paired_nil

/-- A value and its copy have the same JSON form, or none for the same reason. -/
lemma jsonInside_copy {inside inside' : List Nat} {v w : Value} (h : Copy R v w)
    (paired : Paired R inside inside') : v.jsonInside g inside = w.jsonInside g inside' := by
  fun_induction Value.jsonInside g inside v generalizing w inside' with
  | case6 inside place vs entered ih | case7 inside place vs entered ih =>
    cases h with
    | collection pair =>
      have entry := enter?_copy c pair paired
      rw [entered] at entry
      obtain ⟨_, entered', ⟨items⟩ | ⟨items⟩ | _⟩ := exists_of_rel_some entry
      rw [Value.jsonInside_collection, entered']
      refine congrArg _ (mapM_eq_of_forall₂ items fun v _ w copy => ?_)
      exact ih v copy (paired_cons c pair paired)
  | case8 inside place es entered ih =>
    cases h with
    | collection pair =>
      have entry := enter?_copy c pair paired
      rw [entered] at entry
      obtain ⟨_, entered', _ | _ | ⟨entries⟩⟩ := exists_of_rel_some entry
      rw [Value.jsonInside_collection, entered']
      refine congrArg (curlyBrackets <$> ·)
        (bindings_copy (fun k => jsonBinding k.json?) entries fun e _ w copy => ?_)
      exact ih e copy (paired_cons c pair paired)
  | case9 inside place layers entered =>
    have same := literal_copy c h
    cases h with
    | collection pair =>
      have entry := enter?_copy c pair paired
      rw [entered] at entry
      obtain ⟨_, entered', _ | _ | _ | _⟩ := exists_of_rel_some entry
      rw [Value.jsonInside_collection, entered', same]
  | case10 inside place left there | case11 inside place left there =>
    -- a collection that is not entered is one that the walk is inside of, if it is there at all
    cases h with
    | collection pair =>
      have entry := enter?_copy c pair paired
      rw [left] at entry
      rw [Value.jsonInside_collection, eq_none_of_rel_none entry, ← isSome_copy c pair]
      simp [there]
  | case12 inside v =>
    have same := literal_copy c h
    cases h <;> simp_all [Value.jsonInside]
  | _ =>
    cases h
    rw [Value.jsonInside]

/-- The layers of a scope are copied with it. -/
lemma layers_copy {v w : Value} (h : Copy R v w) :
    Option.Rel (List.Forall₂ (CopyEntries R)) (v.layers? g) (w.layers? g) := by
  cases h with
  | scope layers => exact .some layers
  | @collection p q pair =>
    have contents := c.contents pair
    simp only [Value.layers?]
    generalize g.at? p = x, g.at? q = y at contents ⊢
    cases contents with
    | none => exact .none
    | some copy =>
      cases copy with
      | scope layers => exact .some layers
      | list | tuple | map => exact .none
  | _ => exact .none

lemma entries_copy {v w : Value} (h : Copy R v w) :
    Option.Rel (CopyEntries R) (v.entries? g) (w.entries? g) := by
  cases h with
  | scope layers => exact .some (merged_copy layers)
  | @collection p q pair =>
    have contents := c.contents pair
    simp only [Value.entries?]
    generalize g.at? p = x, g.at? q = y at contents ⊢
    cases contents with
    | none => exact .none
    | some copy =>
      cases copy with
      | map entries => exact .some entries
      | scope layers => exact .some (merged_copy layers)
      | list | tuple => exact .none
  | _ => exact .none

/-- A value and its copy are described in the same words. -/
lemma describe_copy {v w : Value} (h : Copy R v w) : v.describe g = w.describe g := by
  have scopes := layers_copy c h
  have json := jsonInside_copy c h paired_nil
  have literal := literal_copy c h
  rw [Value.describe, Value.describe, Value.fullDescription, Value.fullDescription]
  generalize v.layers? g = x, w.layers? g = y at scopes ⊢
  cases scopes with
  | none => simp only [json, literal]
  | some layers =>
    have entries := merged_copy layers
    have object := bindings_copy (fun k => jsonBinding k.json?) entries
      fun e _ w copy => jsonInside_copy c copy paired_nil
    have display := literals_copy entries fun e _ w copy => literal_copy c copy
    simp only [Entries.json, Entries.literal, object, display]

lemma display_copy {v w : Value} (h : Copy R v w) : v.display g = w.display g := by
  have same := literal_copy c h
  cases h <;> first | rfl | exact same

/-- A value and its copy write the same. -/
lemma outputInside_copy {inside inside' : List Nat} {v w : Value} (h : Copy R v w)
    (paired : Paired R inside inside') : v.outputInside g inside = w.outputInside g inside' := by
  fun_induction Value.outputInside g inside v generalizing w inside' with
  | case3 inside place vs entered ih | case4 inside place vs entered ih =>
    cases h with
    | collection pair =>
      have entry := enter?_copy c pair paired
      rw [entered] at entry
      obtain ⟨_, entered', ⟨items⟩ | ⟨items⟩ | _⟩ := exists_of_rel_some entry
      rw [Value.outputInside_collection, entered']
      refine congrArg _ (mapM_eq_of_forall₂ items fun v _ w copy => ?_)
      exact ih v copy (paired_cons c pair paired)
  | case5 inside place es entered | case6 inside place layers entered =>
    have same := literal_copy c h
    cases h with
    | collection pair =>
      have entry := enter?_copy c pair paired
      rw [entered] at entry
      obtain ⟨_, entered', _ | _ | _ | _⟩ := exists_of_rel_some entry
      rw [Value.outputInside_collection, entered', same]
  | case7 inside place left =>
    cases h with
    | collection pair =>
      have entry := enter?_copy c pair paired
      rw [left] at entry
      rw [Value.outputInside_collection, eq_none_of_rel_none entry]
  | case8 inside v | case9 inside v =>
    have absent := kind_copy c h
    have display := display_copy c h
    cases h <;> simp_all [Value.outputInside, Value.isAbsent]
  | _ =>
    cases h
    simp_all [Value.outputInside]

lemma output_copy {v w : Value} (h : Copy R v w) : v.output g = w.output g := by
  rw [Value.output_eq_outputInside, Value.output_eq_outputInside]
  exact outputInside_copy c h paired_nil

end

/-- **Templates cannot tell a value from its copy.** -/
def Sameness.copies (c : Copying g R) : Sameness g where
  same := Copy R
  undefined := .undefined
  kind := kind_copy c
  truth := truth_copy c
  output := output_copy c
  items := items_copy c
  member := member_copy c

end BraceTemplate
