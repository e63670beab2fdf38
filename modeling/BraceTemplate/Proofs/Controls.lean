import BraceTemplate.Number.Notation
import BraceTemplate.Text.Quoted
import Mathlib.Tactic.Lemma

/-!
# Texts without control characters

Messages quote data.  The quoted forms of texts and bytes escape every control character, and
numbers are written without any: so neither brings a line feed into a message, which would break its
line, nor an escape character, which might begin a control sequence.
-/

namespace BraceTemplate

namespace Text

/-- A text that holds no control character. -/
def NoControl (cs : List Char) : Prop := ∀ c ∈ cs, 32 ≤ c.toNat

instance (cs : List Char) : Decidable (NoControl cs) :=
  decidable_of_iff (cs.all fun c => Nat.ble 32 c.toNat) (by simp [NoControl])

lemma NoControl.not_mem {cs : List Char} (free : NoControl cs) {c : Char}
    (control : c.toNat < 32) : c ∉ cs := fun there => absurd (free c there) (by omega)

lemma noControl_nil : NoControl [] := nofun

lemma noControl_cons {c : Char} {cs : List Char} :
    NoControl (c :: cs) ↔ 32 ≤ c.toNat ∧ NoControl cs := List.forall_mem_cons

lemma noControl_append {as bs : List Char} :
    NoControl (as ++ bs) ↔ NoControl as ∧ NoControl bs := List.forall_mem_append

lemma NoControl.mono {as bs : List Char} (free : NoControl bs) (subset : as ⊆ bs) :
    NoControl as := fun c there => free c (subset there)

lemma noControl_replicate {c : Char} (visible : 32 ≤ c.toNat) (n : Nat) :
    NoControl (List.replicate n c) := fun d there => by rwa [List.eq_of_mem_replicate there]

lemma noControl_flatMap {α : Type} {f : α → List Char} {xs : List α}
    (free : ∀ x ∈ xs, NoControl (f x)) : NoControl (xs.flatMap f) := by
  intro c there
  obtain ⟨x, here, inside⟩ := List.mem_flatMap.1 there
  exact free x here c inside

/-! ## Digits -/

lemma noControl_digitChar (n : Nat) : 32 ≤ (Nat.digitChar n).toNat := by
  by_cases small : n < 16
  · exact (by decide : ∀ n < 16, 32 ≤ (Nat.digitChar n).toNat) n small
  · have star : Nat.digitChar n = '*' := by
      unfold Nat.digitChar
      repeat rw [if_neg (by omega)]
    rw [star]
    decide

lemma noControl_toDigitsCore (base fuel n : Nat) {cs : List Char} (free : NoControl cs) :
    NoControl (Nat.toDigitsCore base fuel n cs) := by
  induction fuel generalizing n cs with
  | zero => exact free
  | succ fuel ih =>
    have more : NoControl (Nat.digitChar (n % base) :: cs) :=
      noControl_cons.2 ⟨noControl_digitChar _, free⟩
    rw [Nat.toDigitsCore]
    split
    · exact more
    · exact ih _ more

lemma noControl_toDigits (base n : Nat) : NoControl (Nat.toDigits base n) :=
  noControl_toDigitsCore base _ n noControl_nil

lemma noControl_hex (width n : Nat) : NoControl (hex width n) :=
  noControl_append.2 ⟨noControl_replicate (by decide) _, noControl_toDigits 16 n⟩

lemma noControl_natRepr (n : Nat) : NoControl n.repr.toList := by
  rw [Nat.toList_repr]
  exact noControl_toDigits 10 n

lemma noControl_toString (n : Int) : NoControl (toString n).toList := by
  rw [Int.toString_eq_repr, Int.repr_eq_if]
  split
  · exact noControl_natRepr _
  · rw [String.toList_append]
    exact noControl_append.2 ⟨by decide, noControl_natRepr _⟩

/-! ## Quoted texts -/

lemma noControl_jsonEscape (c : Char) : NoControl (jsonEscape c) := by
  unfold jsonEscape
  split
  case h_8 =>
    split
    · exact noControl_cons.2 ⟨by decide, noControl_cons.2 ⟨by decide, noControl_hex 4 _⟩⟩
    · exact noControl_cons.2 ⟨by omega, noControl_nil⟩
  all_goals decide

/-- The JSON form of a text holds no control character. -/
lemma noControl_jsonQuote (s : String) : NoControl (jsonQuote s).toList := by
  have inner := noControl_flatMap fun c (_ : c ∈ s.toList) => noControl_jsonEscape c
  rw [jsonQuote, String.toList_ofList, List.cons_append, noControl_cons, noControl_append]
  exact ⟨by decide, inner, by decide⟩

lemma noControl_literalMark (hasSingle hasDouble : Bool) :
    32 ≤ (literalMark hasSingle hasDouble).toNat := by
  revert hasSingle hasDouble
  decide

lemma noControl_commonEscape {mark c : Char} (visible : 32 ≤ mark.toNat) {cs : List Char}
    (escaped : commonEscape? mark c = some cs) : NoControl cs := by
  unfold commonEscape? at escaped
  split at escaped
  · rename_i same
    cases escaped
    refine noControl_cons.2 ⟨by decide, noControl_cons.2 ⟨?_, noControl_nil⟩⟩
    obtain rfl | rfl := same
    · exact visible
    · decide
  · split at escaped <;> cases escaped <;> decide

lemma visible_of_isPrintable {c : Char} (printable : isPrintable c = true) : 32 ≤ c.toNat := by
  unfold isPrintable at printable
  split at printable
  · simp only [Bool.and_eq_true, decide_eq_true_eq] at printable
    exact printable.1
  · omega

lemma noControl_literalEscape {mark : Char} (visible : 32 ≤ mark.toNat) (c : Char) :
    NoControl (literalEscape mark c) := by
  unfold literalEscape
  cases escaped : commonEscape? mark c with
  | some cs => exact noControl_commonEscape visible escaped
  | none =>
    have numbered (letter : Char) (clear : 32 ≤ letter.toNat) (width : Nat) :
        NoControl ('\\' :: letter :: hex width c.toNat) :=
      noControl_cons.2 ⟨by decide, noControl_cons.2 ⟨clear, noControl_hex width _⟩⟩
    rw [Option.getD_none]
    split
    · rename_i printable
      exact noControl_cons.2 ⟨visible_of_isPrintable printable, noControl_nil⟩
    · split
      · exact numbered 'x' (by decide) 2
      · split
        · exact numbered 'u' (by decide) 4
        · exact numbered 'U' (by decide) 8

/-- The literal of a text holds no control character. -/
lemma noControl_literalQuote (s : String) : NoControl (literalQuote s).toList := by
  have mark := noControl_literalMark (s.toList.contains '\'') (s.toList.contains '"')
  have inner := noControl_flatMap fun c (_ : c ∈ s.toList) => noControl_literalEscape mark c
  rw [literalQuote, String.toList_ofList, List.cons_append, noControl_cons, noControl_append]
  exact ⟨mark, inner, noControl_cons.2 ⟨mark, noControl_nil⟩⟩

lemma noControl_byteEscape {mark : Char} (visible : 32 ≤ mark.toNat) (b : UInt8) :
    NoControl (byteEscape mark b) := by
  unfold byteEscape
  cases escaped : commonEscape? mark (Char.ofNat b.toNat) with
  | some cs => exact noControl_commonEscape visible escaped
  | none =>
    rw [Option.getD_none]
    split
    · rename_i ascii
      simp only [Bool.and_eq_true, decide_eq_true_eq] at ascii
      have valid : b.toNat.isValidChar := .inl (by omega)
      have same : (Char.ofNat b.toNat).toNat = b.toNat := by
        rw [Char.ofNat, dif_pos valid]
        rfl
      exact noControl_cons.2 ⟨by omega, noControl_nil⟩
    · exact noControl_cons.2 ⟨by decide, noControl_cons.2 ⟨by decide, noControl_hex 2 _⟩⟩

/-- The literal of some bytes holds no control character. -/
lemma noControl_bytesLiteral (bytes : List UInt8) : NoControl (bytesLiteral bytes).toList := by
  have mark := noControl_literalMark (bytes.contains 39) (bytes.contains 34)
  have inner := noControl_flatMap fun b (_ : b ∈ bytes) => noControl_byteEscape mark b
  simp only [bytesLiteral, String.toList_ofList, List.cons_append, noControl_cons,
    noControl_append]
  exact ⟨by decide, mark, inner, mark, noControl_nil⟩

end Text

/-! ## Floating-point numbers -/

open Text (NoControl noControl_nil noControl_cons noControl_append noControl_replicate
  noControl_toDigits)

namespace Decimal

lemma noControl_positional (keepsPoint : Bool) (d : Decimal) :
    NoControl (d.positional keepsPoint) := by
  have digits : NoControl d.digits := noControl_toDigits 10 _
  unfold positional
  split
  · refine noControl_append.2 ⟨noControl_append.2 ⟨digits, noControl_replicate (by decide) _⟩, ?_⟩
    cases keepsPoint <;> decide
  · have padded (n : Nat) : NoControl (List.replicate n '0' ++ d.digits) :=
      noControl_append.2 ⟨noControl_replicate (by decide) _, digits⟩
    exact noControl_append.2 ⟨(padded _).mono (List.take_subset _ _),
      noControl_cons.2 ⟨by decide, (padded _).mono (List.drop_subset _ _)⟩⟩

lemma noControl_scientific (exponentDigits : Nat) (d : Decimal) :
    NoControl (d.scientific exponentDigits) := by
  have digits : NoControl d.digits := noControl_toDigits 10 _
  unfold scientific
  refine noControl_append.2 ⟨?_, noControl_cons.2 ⟨by decide, noControl_cons.2 ⟨?_,
    noControl_append.2 ⟨noControl_replicate (by decide) _, noControl_toDigits 10 _⟩⟩⟩⟩
  · split
    · rename_i first second rest shape
      rw [shape, noControl_cons] at digits
      exact noControl_cons.2 ⟨digits.1, noControl_cons.2 ⟨by decide, digits.2⟩⟩
    · exact digits
  · split <;> decide

lemma noControl_written (l : Layout) (d : Decimal) : NoControl (d.written l) := by
  unfold written
  split
  · exact noControl_positional _ d
  · exact noControl_scientific _ d

end Decimal

namespace Binary64

lemma noControl_magnitude (l : Layout) (x : Binary64) : NoControl (x.magnitude l).toList := by
  cases x with
  | finite negative m e =>
    rw [magnitude, String.toList_ofList]
    exact Decimal.noControl_written l _
  | nan payload =>
    show NoControl "nan".toList
    decide
  | infinity negative =>
    show NoControl "inf".toList
    decide

lemma noControl_written (l : Layout) (x : Binary64) : NoControl (x.written l).toList := by
  rw [written, String.toList_append]
  refine noControl_append.2 ⟨?_, noControl_magnitude l x⟩
  split <;> decide

lemma noControl_json (x : Binary64) : NoControl x.json.toList := by
  unfold json
  split
  case h_4 => exact noControl_written .float x
  all_goals decide

lemma noControl_complexLiteral (re im : Binary64) :
    NoControl (complexLiteral re im).toList := by
  unfold complexLiteral
  split
  · rw [String.toList_append]
    exact noControl_append.2 ⟨noControl_written .part im, by decide⟩
  · simp only [String.toList_append, noControl_append]
    refine ⟨⟨⟨⟨by decide, noControl_written .part _⟩, ?_⟩, noControl_magnitude .part im⟩, by decide⟩
    split <;> decide

end Binary64

end BraceTemplate
