import BraceTemplate.Proofs.Colors
import Mathlib.Data.List.TakeWhile

/-!
# What one pass leaves

A text is stripped in one pass, and what is removed is not read again: the characters on both sides
of a removed sequence become neighbours, and may form a sequence that the text did not hold.  This
module says when.  A leftover sequence comes from one that is interrupted in the text, its
characters held apart by whole sequences (`Interrupted`), and every interrupted sequence is left
behind (`holdsSequence_stripSequences_iff`).  Texts without one lose all their sequences, and these
are the texts on which stripping twice is the same as stripping once
(`strip_leaves_interrupted_sequences`).

A sequence is found where one begins, whatever stands behind it (`IsSequence.afterSequence?`,
`exists_of_afterSequence?`).  The pass is therefore followed sequence by sequence
(`pass_induction`), and the classes of characters in a sequence are not looked at again.
-/

namespace BraceTemplate.Terminal

/-! ## The form of a control sequence -/

/-- The control sequences: the escape character and one more character, or a bracketed sequence with
its parameters, intermediate characters and final character. -/
inductive IsSequence : List Char → Prop
  | short {c : Char} (final : between '@' 'Z' c = true ∨ between '\\' '_' c = true) :
    IsSequence ['\x1b', c]
  | bracketed {parameters intermediates : List Char} {c : Char}
    (parameter : ∀ d ∈ parameters, between '0' '?' d = true)
    (intermediate : ∀ d ∈ intermediates, between ' ' '/' d = true)
    (final : between '@' '~' c = true) :
    IsSequence ('\x1b' :: '[' :: (parameters ++ (intermediates ++ [c])))

lemma between_iff {low high c : Char} : between low high c = true ↔ low ≤ c ∧ c ≤ high := by
  rw [between, Bool.and_eq_true, decide_eq_true_iff, decide_eq_true_iff]

/-- A character of one range lies in no range apart from it. -/
lemma between_eq_false_of_apart {low high low' high' c : Char}
    (inside : between low' high' c = true) (apart : high < low' ∨ high' < low) :
    between low high c = false := by
  rw [between_iff] at inside
  rw [Bool.eq_false_iff, ne_eq, between_iff]
  rintro ⟨above, below⟩
  cases apart with
  | inl before => exact Char.not_lt.2 (Char.le_trans inside.1 below) before
  | inr behind => exact Char.not_lt.2 (Char.le_trans above inside.2) behind

/-- Without the opening square bracket, what lies between `@` and `_` are two ranges. -/
lemma between_at_underscore_iff {c : Char} (other : c ≠ '[') :
    between '@' '_' c = true ↔ between '@' 'Z' c = true ∨ between '\\' '_' c = true := by
  have distinct : c.val.toNat ≠ 91 := fun same => other (Char.ext (UInt32.toNat_inj.1 same))
  simp only [between_iff, Char.le_def, UInt32.le_iff_toNat_le]
  have at_sign : '@'.val.toNat = 64 := rfl
  have z : 'Z'.val.toNat = 90 := rfl
  have backslash : '\\'.val.toNat = 92 := rfl
  have underscore : '_'.val.toNat = 95 := rfl
  omega

/-- **A sequence is found wherever one stands**, whatever is behind it. -/
theorem IsSequence.afterSequence? {body : List Char} (h : IsSequence ('\x1b' :: body))
    (rest : List Char) : afterSequence? (body ++ rest) = some rest := by
  cases h with
  | @short c final =>
    have other : c ≠ '[' := by
      rintro rfl
      revert final
      decide
    rw [List.singleton_append, afterSequence?_of_ne_bracket other,
      if_pos ((between_at_underscore_iff other).2 final)]
  | @bracketed parameters intermediates c parameter intermediate final =>
    -- the classes are apart, so that each row of characters ends in front of the next one
    have parameters_end : (parameters ++ (intermediates ++ c :: rest)).dropWhile
        (between '0' '?') = intermediates ++ c :: rest := by
      rw [List.dropWhile_append_of_pos parameter]
      cases intermediates with
      | nil =>
        have stop : between '0' '?' c = false := between_eq_false_of_apart final (by decide)
        exact List.dropWhile_cons_of_neg (by simp [stop])
      | cons d ds =>
        have stop : between '0' '?' d = false :=
          between_eq_false_of_apart (intermediate d List.mem_cons_self) (by decide)
        exact List.dropWhile_cons_of_neg (by simp [stop])
    have intermediates_end : (intermediates ++ c :: rest).dropWhile (between ' ' '/') =
        c :: rest := by
      have stop : between ' ' '/' c = false := between_eq_false_of_apart final (by decide)
      rw [List.dropWhile_append_of_pos intermediate]
      exact List.dropWhile_cons_of_neg (by simp [stop])
    have whole : '[' :: (parameters ++ (intermediates ++ [c])) ++ rest =
        '[' :: (parameters ++ (intermediates ++ c :: rest)) := by simp
    rw [whole, Terminal.afterSequence?, parameters_end, intermediates_end]
    exact if_pos final

/-- **What is found is a sequence.** -/
theorem exists_of_afterSequence? {cs rest : List Char} (found : afterSequence? cs = some rest) :
    ∃ body, IsSequence ('\x1b' :: body) ∧ cs = body ++ rest := by
  cases cs with
  | nil => cases found
  | cons c cs =>
    by_cases bracket : c = '['
    · subst bracket
      rw [afterSequence?] at found
      cases behind : (cs.dropWhile (between '0' '?')).dropWhile (between ' ' '/') with
      | nil =>
        rw [behind] at found
        cases found
      | cons d after =>
        rw [behind] at found
        obtain ⟨final, same⟩ := Option.ite_none_right_eq_some.1 found
        cases same
        let parameters := cs.takeWhile (between '0' '?')
        let intermediates := (cs.dropWhile (between '0' '?')).takeWhile (between ' ' '/')
        have rows : parameters ++ (intermediates ++ d :: rest) = cs := by
          rw [← behind, List.takeWhile_append_dropWhile, List.takeWhile_append_dropWhile]
        refine ⟨'[' :: (parameters ++ (intermediates ++ [d])),
          .bracketed (fun _ => List.mem_takeWhile_imp) (fun _ => List.mem_takeWhile_imp) final, ?_⟩
        rw [← rows]
        simp
    · rw [afterSequence?_of_ne_bracket bracket] at found
      obtain ⟨final, same⟩ := Option.ite_none_right_eq_some.1 found
      cases same
      exact ⟨[c], .short ((between_at_underscore_iff bracket).1 final), rfl⟩

namespace IsSequence

lemma exists_body {s : List Char} (h : IsSequence s) : ∃ body, s = '\x1b' :: body := by
  cases h <;> exact ⟨_, rfl⟩

variable {body : List Char}

/-- The escape character of a sequence is its first character alone. -/
lemma escape_not_mem (h : IsSequence ('\x1b' :: body)) : '\x1b' ∉ body := by
  intro inside
  obtain ⟨front, back, rfl⟩ := List.append_of_mem inside
  have found := h.afterSequence? []
  rw [List.append_nil, afterSequence?_append separates_escape] at found
  obtain ⟨rest, -, same⟩ := Option.map_eq_some_iff.1 found
  exact absurd same (by simp)

/-- The beginning of a sequence is none yet. -/
lemma afterSequence?_eq_none {front back : List Char}
    (h : IsSequence ('\x1b' :: (front ++ back))) (unfinished : back ≠ []) :
    Terminal.afterSequence? front = none := by
  rw [Option.eq_none_iff_forall_ne_some]
  intro rest found
  obtain ⟨body, sequence, rfl⟩ := exists_of_afterSequence? found
  have whole := h.afterSequence? []
  have part := sequence.afterSequence? (rest ++ back)
  rw [List.append_nil, List.append_assoc, part] at whole
  exact unfinished (List.append_eq_nil_iff.1 (Option.some.inj whole)).2

end IsSequence

/-! ## The pass, sequence by sequence -/

/-- A text begins with a control sequence. -/
def BeginsSequence (cs : List Char) : Prop := ∃ s, IsSequence s ∧ s <+: cs

lemma beginsSequence_cons_iff {c : Char} {cs : List Char} :
    BeginsSequence (c :: cs) ↔ c = '\x1b' ∧ ∃ rest, afterSequence? cs = some rest := by
  constructor
  · rintro ⟨s, sequence, first⟩
    obtain ⟨body, rfl⟩ := sequence.exists_body
    obtain ⟨rfl, rest, rfl⟩ := List.cons_prefix_cons.1 first
    exact ⟨rfl, rest, sequence.afterSequence? rest⟩
  · rintro ⟨rfl, rest, found⟩
    obtain ⟨body, sequence, rfl⟩ := exists_of_afterSequence? found
    exact ⟨_, sequence, List.prefix_append _ rest⟩

/-- A sequence is removed wherever the pass comes to one. -/
lemma IsSequence.stripSequences {s : List Char} (h : IsSequence s) (rest : List Char) :
    stripSequences (s ++ rest) = stripSequences rest := by
  obtain ⟨body, rfl⟩ := h.exists_body
  exact stripSequences_of_sequence (h.afterSequence? rest)

/-- A character at which no sequence begins is kept. -/
lemma stripSequences_of_not_begins {c : Char} {cs : List Char}
    (none : ¬ BeginsSequence (c :: cs)) : stripSequences (c :: cs) = c :: stripSequences cs := by
  by_cases escape : c = '\x1b'
  · subst escape
    refine stripSequences_of_no_sequence (Option.eq_none_iff_forall_ne_some.2 fun rest found => ?_)
    exact none (beginsSequence_cons_iff.2 ⟨rfl, rest, found⟩)
  · exact stripSequences_cons escape cs

/-- **The steps of the pass**: it removes a sequence, or keeps a character. -/
theorem pass_induction {motive : List Char → Prop} (nil : motive [])
    (remove : ∀ s rest, IsSequence s → motive rest → motive (s ++ rest))
    (keep : ∀ c rest, ¬ BeginsSequence (c :: rest) → motive rest → motive (c :: rest))
    (cs : List Char) : motive cs := by
  fun_induction stripSequences cs with
  | case1 => exact nil
  | case2 rest after found ih =>
    obtain ⟨body, sequence, rfl⟩ := exists_of_afterSequence? found
    exact remove _ after sequence ih
  | case3 rest none ih =>
    refine keep _ rest (fun begins => ?_) ih
    obtain ⟨-, after, found⟩ := beginsSequence_cons_iff.1 begins
    rw [none] at found
    cases found
  | case4 c rest other ih =>
    exact keep c rest (fun begins => other (beginsSequence_cons_iff.1 begins).1) ih

/-! ## Texts that hold a sequence -/

/-- A text holds a control sequence. -/
def HoldsSequence (cs : List Char) : Prop := ∃ s, IsSequence s ∧ s <:+: cs

lemma not_holdsSequence_nil : ¬ HoldsSequence [] := by
  rintro ⟨s, sequence, inside⟩
  obtain ⟨body, rfl⟩ := sequence.exists_body
  cases List.eq_nil_of_infix_nil inside

lemma holdsSequence_cons_iff {c : Char} {cs : List Char} :
    HoldsSequence (c :: cs) ↔ BeginsSequence (c :: cs) ∨ HoldsSequence cs := by
  simp only [HoldsSequence, BeginsSequence, List.infix_cons_iff, and_or_left, exists_or]

lemma length_stripSequences_le (cs : List Char) : (stripSequences cs).length ≤ cs.length := by
  induction cs using pass_induction with
  | nil => rw [stripSequences_nil]
  | remove s rest sequence ih =>
    rw [sequence.stripSequences, List.length_append]
    omega
  | keep c rest none ih =>
    rw [stripSequences_of_not_begins none]
    exact Nat.succ_le_succ ih

/-- A text with a sequence loses characters. -/
lemma HoldsSequence.length_lt {cs : List Char} (h : HoldsSequence cs) :
    (stripSequences cs).length < cs.length := by
  induction cs using pass_induction with
  | nil => exact absurd h not_holdsSequence_nil
  | remove s rest sequence ih =>
    have shorter := length_stripSequences_le rest
    obtain ⟨body, rfl⟩ := sequence.exists_body
    rw [sequence.stripSequences, List.length_append, List.length_cons]
    omega
  | keep c rest none ih =>
    rw [stripSequences_of_not_begins none]
    exact Nat.succ_lt_succ (ih ((holdsSequence_cons_iff.1 h).resolve_left none))

/-- **Stripping keeps the texts without a sequence as they are, and no other.** -/
theorem stripSequences_eq_self_iff {cs : List Char} :
    stripSequences cs = cs ↔ ¬ HoldsSequence cs := by
  constructor
  · intro same holds
    have shorter := holds.length_lt
    rw [same] at shorter
    exact Nat.lt_irrefl _ shorter
  · intro free
    induction cs using pass_induction with
    | nil => exact stripSequences_nil
    | remove s rest sequence ih => exact absurd ⟨s, sequence, List.infix_append [] s rest⟩ free
    | keep c rest none ih =>
      have behind : ¬ HoldsSequence rest :=
        fun later => free (holdsSequence_cons_iff.2 (.inr later))
      rw [stripSequences_of_not_begins none, ih behind]

/-! ## Interrupted sequences -/

/-- The second text is the first one with whole control sequences in front of some of its
characters. -/
inductive Interspersed : List Char → List Char → Prop
  | nil : Interspersed [] []
  | char {c : Char} {cs ds : List Char} (rest : Interspersed cs ds) :
    Interspersed (c :: cs) (c :: ds)
  | sequence {c : Char} {cs ds s : List Char} (inserted : IsSequence s)
    (rest : Interspersed (c :: cs) ds) : Interspersed (c :: cs) (s ++ ds)

/-- A text holds a control sequence that is interrupted by whole ones: they stand between its
characters. -/
def Interrupted (cs : List Char) : Prop :=
  ∃ body apart, IsSequence ('\x1b' :: body) ∧ Interspersed body apart ∧ apart ≠ body ∧
    '\x1b' :: apart <:+: cs

lemma Interrupted.mono {cs ds : List Char} (h : Interrupted cs) (inside : cs <:+: ds) :
    Interrupted ds := by
  obtain ⟨body, apart, sequence, spread, broken, place⟩ := h
  exact ⟨body, apart, sequence, spread, broken, place.trans inside⟩

namespace Interspersed

/-- Where something is inserted, an escape character stands in front of the rest of the text. -/
lemma eq_or_exists_escape {cs ds : List Char} (h : Interspersed cs ds) :
    ds = cs ∨
      ∃ front back after, cs = front ++ back ∧ back ≠ [] ∧ ds = front ++ '\x1b' :: after := by
  induction h with
  | nil => exact .inl rfl
  | @char c cs ds rest ih =>
    rcases ih with rfl | ⟨front, back, after, rfl, remains, rfl⟩
    · exact .inl rfl
    · exact .inr ⟨c :: front, back, after, rfl, remains, rfl⟩
  | sequence inserted rest ih =>
    obtain ⟨body, rfl⟩ := inserted.exists_body
    exact .inr ⟨[], _, _, rfl, List.cons_ne_nil _ _, rfl⟩

/-- The pass removes what is inserted into a text without escape characters. -/
lemma stripSequences {cs ds : List Char} (h : Interspersed cs ds) (free : '\x1b' ∉ cs)
    (rest : List Char) : stripSequences (ds ++ rest) = cs ++ stripSequences rest := by
  induction h with
  | nil => rfl
  | char _ ih =>
    rw [List.mem_cons, not_or] at free
    rw [List.cons_append, stripSequences_cons (Ne.symm free.1), ih free.2, List.cons_append]
  | sequence inserted _ ih => rw [List.append_assoc, inserted.stripSequences, ih free]

end Interspersed

/-- **What the pass leaves in front stands in the text with sequences inserted.** -/
theorem exists_interspersed {cs front back : List Char} (h : stripSequences cs = front ++ back) :
    ∃ apart rest, cs = apart ++ rest ∧ Interspersed front apart ∧ stripSequences rest = back := by
  induction cs using pass_induction generalizing front with
  | nil =>
    rw [stripSequences_nil] at h
    obtain ⟨rfl, rfl⟩ := List.append_eq_nil_iff.1 h.symm
    exact ⟨[], [], rfl, .nil, stripSequences_nil⟩
  | remove s rest sequence ih =>
    cases front with
    | nil => exact ⟨[], _, rfl, .nil, h⟩
    | cons c front =>
      rw [sequence.stripSequences] at h
      obtain ⟨apart, rest, rfl, spread, left⟩ := ih h
      exact ⟨s ++ apart, rest, (List.append_assoc ..).symm, .sequence sequence spread, left⟩
  | keep c rest none ih =>
    cases front with
    | nil => exact ⟨[], _, rfl, .nil, h⟩
    | cons d front =>
      rw [stripSequences_of_not_begins none] at h
      obtain ⟨rfl, behind⟩ := List.cons.inj h
      obtain ⟨apart, rest, rfl, spread, left⟩ := ih behind
      exact ⟨c :: apart, rest, rfl, .char spread, left⟩

/-- An interrupted sequence is none: the pass keeps its escape character. -/
lemma not_beginsSequence_of_interspersed {body apart : List Char}
    (sequence : IsSequence ('\x1b' :: body)) (spread : Interspersed body apart)
    (broken : apart ≠ body) (rest : List Char) :
    ¬ BeginsSequence ('\x1b' :: (apart ++ rest)) := by
  intro begins
  obtain ⟨-, after, found⟩ := beginsSequence_cons_iff.1 begins
  obtain ⟨front, back, inserted, rfl, unfinished, rfl⟩ :=
    spread.eq_or_exists_escape.resolve_left broken
  -- what is inserted begins with a separator, so that a sequence would end in front of it
  rw [List.append_assoc, List.cons_append, afterSequence?_append separates_escape,
    sequence.afterSequence?_eq_none unfinished] at found
  cases found

/-- **A sequence is left behind exactly where one is interrupted.** -/
theorem holdsSequence_stripSequences_iff {cs : List Char} :
    HoldsSequence (stripSequences cs) ↔ Interrupted cs := by
  constructor
  · intro left
    induction cs using pass_induction with
    | nil =>
      rw [stripSequences_nil] at left
      exact absurd left not_holdsSequence_nil
    | remove s rest sequence ih =>
      rw [sequence.stripSequences] at left
      exact (ih left).mono (List.suffix_append s rest).isInfix
    | keep c rest none ih =>
      rw [stripSequences_of_not_begins none, holdsSequence_cons_iff] at left
      cases left with
      | inl begins =>
        -- the sequence left behind begins here; in the text it does not, so it is interrupted
        obtain ⟨s, sequence, first⟩ := begins
        obtain ⟨body, rfl⟩ := sequence.exists_body
        obtain ⟨rfl, back, whole⟩ := List.cons_prefix_cons.1 first
        obtain ⟨apart, rest, rfl, spread, -⟩ := exists_interspersed whole.symm
        refine ⟨body, apart, sequence, spread, ?_, (List.prefix_append _ rest).isInfix⟩
        rintro rfl
        exact none ⟨_, sequence, List.prefix_append _ rest⟩
      | inr later => exact (ih later).mono (List.suffix_cons c rest).isInfix
  · rintro ⟨body, apart, sequence, spread, broken, front, back, rfl⟩
    have kept := stripSequences_of_not_begins
      (not_beginsSequence_of_interspersed sequence spread broken back)
    have stripped : stripSequences (front ++ '\x1b' :: apart ++ back) =
        stripSequences front ++ '\x1b' :: body ++ stripSequences back := by
      rw [List.append_assoc, List.cons_append, stripSequences_append separates_escape, kept,
        spread.stripSequences sequence.escape_not_mem, List.append_assoc, List.cons_append]
    exact ⟨_, sequence, _, _, stripped.symm⟩

/-! ## Strings -/

lemma toList_strip (s : String) : (strip s).toList = stripSequences s.toList :=
  String.toList_ofList

/-- **Stripping leaves a control sequence behind exactly in the texts that hold an interrupted
one.**  All other texts are the same stripped once and stripped twice. -/
theorem strip_leaves_interrupted_sequences (s : String) :
    (HoldsSequence (strip s).toList ↔ Interrupted s.toList) ∧
      (strip (strip s) = strip s ↔ ¬ Interrupted s.toList) := by
  have leftover : HoldsSequence (strip s).toList ↔ Interrupted s.toList := by
    rw [toList_strip, holdsSequence_stripSequences_iff]
  refine ⟨leftover, ?_⟩
  rw [← leftover, ← stripSequences_eq_self_iff, ← toList_strip, String.toList_inj]

/-- A colour is left behind where another one stands between its characters. -/
theorem interrupted_color_left :
    strip "\x1b[\x1b[0m31mred" = "\x1b[31mred" ∧ HoldsSequence "\x1b[31mred".toList ∧
      strip (strip "\x1b[\x1b[0m31mred") = "red" ∧
      strip (strip "\x1b[\x1b[0m31mred") ≠ strip "\x1b[\x1b[0m31mred" := by
  have reset : IsSequence ['\x1b', '[', '0', 'm'] :=
    @IsSequence.bracketed ['0'] [] 'm' (List.all_eq_true.1 (by decide)) nofun (by decide)
  have color : IsSequence ['\x1b', '[', '3', '1', 'm'] :=
    @IsSequence.bracketed ['3', '1'] [] 'm' (List.all_eq_true.1 (by decide)) nofun (by decide)
  have spread : Interspersed ['[', '3', '1', 'm'] ['[', '\x1b', '[', '0', 'm', '3', '1', 'm'] :=
    .char (.sequence reset (.char (.char (.char .nil))))
  have plain : stripSequences "red".toList = "red".toList := by
    rw [← toList_strip, strip_of_free (by decide)]
  have once : strip "\x1b[\x1b[0m31mred" = "\x1b[31mred" := by
    have characters : "\x1b[\x1b[0m31mred".toList =
        '\x1b' :: (['[', '\x1b', '[', '0', 'm', '3', '1', 'm'] ++ "red".toList) := by decide
    rw [strip, characters, stripSequences_of_not_begins
      (not_beginsSequence_of_interspersed color spread (by decide) "red".toList),
      spread.stripSequences color.escape_not_mem, plain]
    decide
  have twice : strip "\x1b[31mred" = "red" := by
    have characters : "\x1b[31mred".toList = ['\x1b', '[', '3', '1', 'm'] ++ "red".toList := by
      decide
    rw [strip, characters, color.stripSequences, plain, String.ofList_toList]
  rw [once, twice]
  exact ⟨rfl, ⟨_, color, [], "red".toList, by decide⟩, rfl, by decide⟩

end BraceTemplate.Terminal
