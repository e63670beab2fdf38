import Mathlib
import BraceTemplate.Proofs.Openings
import BraceTemplate.Text.Spacing

/-!
# What tidying keeps

A text consists of words and of gaps between them.  Tidying keeps the words, settles each gap by
itself, and drops the gaps at the two ends.  This file says so with the `runs` of a text, its
longest stretches of blanks and of other characters in turn:

* `Alternating` describes rows of runs, and `runs_eq_iff` says that the runs of a text are the one
  such row that spells it;
* collapsing blank lines settles run by run (`collapseBlankLines_flatten`), for a match of the
  pattern starts at the first line feed of a gap that holds another one, and takes the rest of it;
* trimming drops the gaps at the ends (`trimStart_flatten`, `trimEnd_flatten`).

The runs of a tidied text are then the inner runs of the text, settled (`runs_tidy`).  All else
follows from this normal form: that tidying twice is tidying once, and that no blank line is left.
-/

namespace BraceTemplate

namespace Text

/-! ## Runs -/

/-- The longest stretches of blanks, and of characters that are no blanks, in turn. -/
def runs (cs : List Char) : List (List Char) := cs.splitBy fun c d => isBlank c == isBlank d

/-- Whether a run is a gap. -/
def isGap (run : List Char) : Bool := run.all isBlank

/-- Runs of one kind each, of which gaps and words follow each other. -/
structure Alternating (rs : List (List Char)) : Prop where
  full : ∀ run ∈ rs, run ≠ []
  uniform : ∀ run ∈ rs, ∀ c ∈ run, isBlank c = isGap run
  turns : rs.IsChain fun run next => isGap run ≠ isGap next

lemma isGap_eq_of_uniform {run : List Char} {kind : Bool} (full : run ≠ [])
    (uniform : ∀ c ∈ run, isBlank c = kind) : isGap run = kind := by
  cases kind with
  | true => exact List.all_eq_true.2 uniform
  | false =>
    obtain ⟨c, rest, rfl⟩ := List.exists_cons_of_ne_nil full
    simp [isGap, uniform c List.mem_cons_self]

/-- A run is of one kind exactly if all its neighbours are. -/
lemma uniform_iff_isChain {run : List Char} (full : run ≠ []) :
    (∀ c ∈ run, isBlank c = isGap run) ↔
      run.IsChain fun c d => (isBlank c == isBlank d) = true := by
  simp only [beq_iff_eq]
  constructor
  · intro uniform
    refine List.Pairwise.isChain (List.pairwise_of_forall_mem_list ?_)
    intro c first d second
    rw [uniform c first, uniform d second]
  · intro chain
    have transitive : IsTrans Char fun c d => isBlank c = isBlank d := ⟨fun _ _ _ => Eq.trans⟩
    obtain ⟨first, rest, rfl⟩ := List.exists_cons_of_ne_nil full
    have same := (List.pairwise_cons.1 chain.pairwise).1
    have uniform : ∀ c ∈ first :: rest, isBlank c = isBlank first := by
      rw [List.forall_mem_cons]
      exact ⟨rfl, fun c later => (same c later).symm⟩
    rw [isGap_eq_of_uniform full uniform]
    exact uniform

/-- **The runs of a text are the one alternating row that spells it.** -/
theorem runs_eq_iff {cs : List Char} {rs : List (List Char)} :
    runs cs = rs ↔ rs.flatten = cs ∧ Alternating rs := by
  rw [runs, List.splitBy_eq_iff]
  constructor
  · rintro ⟨rfl, noEmpty, chains, ends⟩
    have full : ∀ run ∈ rs, run ≠ [] := fun run there empty => noEmpty (empty ▸ there)
    have uniform : ∀ run ∈ rs, ∀ c ∈ run, isBlank c = isGap run := fun run there =>
      (uniform_iff_isChain (full run there)).2 (chains run there)
    refine ⟨rfl, full, uniform, ends.imp_of_mem_imp ?_⟩
    rintro run next here there ⟨full, full', differ⟩
    rwa [beq_eq_false_iff_ne, uniform run here _ (List.getLast_mem full),
      uniform next there _ (List.head_mem full')] at differ
  · rintro ⟨rfl, full, uniform, turns⟩
    refine ⟨rfl, fun empty => full [] empty rfl, ?_, turns.imp_of_mem_imp ?_⟩
    · intro run there
      exact (uniform_iff_isChain (full run there)).1 (uniform run there)
    · intro run next here there differ
      refine ⟨full run here, full next there, ?_⟩
      rwa [beq_eq_false_iff_ne, uniform run here _ (List.getLast_mem _),
        uniform next there _ (List.head_mem _)]

lemma flatten_runs (cs : List Char) : (runs cs).flatten = cs := (runs_eq_iff.1 rfl).1

lemma alternating_runs (cs : List Char) : Alternating (runs cs) := (runs_eq_iff.1 rfl).2

namespace Alternating

variable {rs : List (List Char)}

lemma part {part : List (List Char)} (h : Alternating rs) (within : part <:+: rs) :
    Alternating part where
  full := fun run there => h.full run (within.subset there)
  uniform := fun run there => h.uniform run (within.subset there)
  turns := h.turns.infix within

/-- What stands behind a run is of the other kind. -/
lemma stop {run : List Char} (h : Alternating (run :: rs)) :
    ∀ c ∈ rs.flatten.head?, isBlank c = !isGap run := by
  intro c first
  cases rs with
  | nil => cases first
  | cons next rs =>
    have differ := (List.isChain_cons_cons.1 h.turns).1
    obtain ⟨d, rest, rfl⟩ := List.exists_cons_of_ne_nil (h.full next (by simp))
    obtain rfl : d = c := Option.some.inj first
    rw [h.uniform (d :: rest) (by simp) d List.mem_cons_self]
    exact Bool.eq_not_of_ne (Ne.symm differ)

/-- Blanks that stand side by side are in one run. -/
lemma exists_run {before blanks after : List Char} (h : Alternating rs)
    (shape : rs.flatten = before ++ (blanks ++ after)) (some : blanks ≠ [])
    (blank : ∀ c ∈ blanks, isBlank c = true) : ∃ run ∈ rs, blanks <:+: run := by
  induction rs generalizing before with
  | nil => simp_all
  | cons run rs ih =>
    have others : Alternating rs := h.part (List.suffix_cons run rs).isInfix
    rw [List.flatten_cons, List.append_eq_append_iff] at shape
    obtain ⟨xs, rfl, rest⟩ | ⟨xs, rfl, rest⟩ := shape
    · obtain ⟨other, there, inside⟩ := ih others rest
      exact ⟨other, List.mem_cons_of_mem run there, inside⟩
    · rw [List.append_eq_append_iff] at rest
      obtain ⟨ys, rfl, -⟩ | ⟨ys, rfl, behind⟩ := rest
      · exact ⟨_, List.mem_cons_self, before, ys, by simp⟩
      · -- a blank on each side of the seam would make both runs gaps
        by_cases front : xs = []
        · subst front
          obtain ⟨other, there, inside⟩ := @ih [] others behind
          exact ⟨other, List.mem_cons_of_mem _ there, inside⟩
        · by_cases back : ys = []
          · subst back
            exact ⟨_, List.mem_cons_self, before, [], by simp⟩
          · obtain ⟨x, xs', rfl⟩ := List.exists_cons_of_ne_nil front
            obtain ⟨y, ys', rfl⟩ := List.exists_cons_of_ne_nil back
            have gap : isGap (before ++ x :: xs') = true := by
              rw [← h.uniform _ List.mem_cons_self x (by simp)]
              exact blank x (by simp)
            have next : isBlank y = !isGap (before ++ x :: xs') :=
              h.stop y (by rw [behind]; rfl)
            rw [gap, blank y (by simp)] at next
            cases next

end Alternating

/-! ## Settling a gap -/

/-- A run as tidying leaves it.  Of a gap with two line feeds or more, what stands before the first
of them is kept, and one line feed. -/
def settled (run : List Char) : List Char :=
  if isGap run ∧ 2 ≤ run.count '\n' then run.takeWhile (· ≠ '\n') ++ ['\n'] else run

lemma settled_word {run : List Char} (word : isGap run = false) : settled run = run :=
  if_neg fun h => by simp [word] at h

lemma settled_of_count {run : List Char} (few : run.count '\n' ≤ 1) : settled run = run :=
  if_neg fun h => by omega

/-- A gap settles from its front: the first line feed that has another one behind it is the last
character to stay. -/
lemma settled_cons {c : Char} {gap : List Char} (blank : ∀ d ∈ c :: gap, isBlank d = true) :
    settled (c :: gap) = if c = '\n' ∧ '\n' ∈ gap then ['\n'] else c :: settled gap := by
  have kind : isGap (c :: gap) = true := List.all_eq_true.2 blank
  have kind' : isGap gap = true := List.all_eq_true.2 (List.forall_mem_of_forall_mem_cons blank)
  unfold settled
  by_cases feed : c = '\n'
  · subst feed
    by_cases later : '\n' ∈ gap
    · have more : 2 ≤ ('\n' :: gap).count '\n' := by
        have := List.count_pos_iff.2 later
        rw [List.count_cons_self]
        omega
      rw [if_pos ⟨kind, more⟩, if_pos ⟨rfl, later⟩, List.takeWhile_cons_of_neg (by simp)]
      rfl
    · have none : gap.count '\n' = 0 := List.count_eq_zero_of_not_mem later
      simp [none, later]
  · rw [List.count_cons_of_ne feed, List.takeWhile_cons_of_pos (by simpa using feed)]
    simp only [kind, kind', feed, false_and, if_false, List.cons_append]
    split <;> rfl

lemma settled_subset (run : List Char) : settled run ⊆ run := by
  unfold settled
  split
  · rename_i several
    have feed : '\n' ∈ run := List.count_pos_iff.1 (by omega)
    intro c there
    rcases List.mem_append.1 there with front | last
    · exact (List.takeWhile_subset _) front
    · exact List.mem_singleton.1 last ▸ feed
  · exact List.Subset.refl run

lemma settled_ne_nil {run : List Char} (full : run ≠ []) : settled run ≠ [] := by
  unfold settled
  split
  · exact List.concat_ne_nil _ _
  · exact full

/-- Gaps settle to gaps. -/
lemma isGap_settled (run : List Char) : isGap (settled run) = isGap run := by
  by_cases kind : isGap run = true
  · rw [kind]
    exact List.all_eq_true.2 fun c there => List.all_eq_true.1 kind c (settled_subset run there)
  · rw [settled_word (Bool.eq_false_of_not_eq_true kind)]

/-- At most one line feed of a gap is left. -/
lemma count_settled {run : List Char} (kind : isGap run = true) :
    (settled run).count '\n' ≤ 1 := by
  unfold settled
  split
  · have front : '\n' ∉ run.takeWhile (· ≠ '\n') := by
      intro there
      simpa using List.mem_takeWhile_imp there
    rw [List.count_append, List.count_eq_zero_of_not_mem front]
    simp
  · rename_i few
    have : ¬ 2 ≤ run.count '\n' := fun several => few ⟨kind, several⟩
    omega

lemma settled_settled (run : List Char) : settled (settled run) = settled run := by
  by_cases kind : isGap run = true
  · exact settled_of_count (count_settled kind)
  · rw [settled_word (Bool.eq_false_of_not_eq_true kind),
      settled_word (Bool.eq_false_of_not_eq_true kind)]

lemma Alternating.settled {rs : List (List Char)} (h : Alternating rs) :
    Alternating (rs.map settled) where
  full := by
    rw [List.forall_mem_map]
    exact fun run there => settled_ne_nil (h.full run there)
  uniform := by
    rw [List.forall_mem_map]
    intro run there c inside
    rw [isGap_settled]
    exact h.uniform run there c (settled_subset run inside)
  turns := by
    rw [List.isChain_map]
    simp only [isGap_settled]
    exact h.turns

/-! ## Collapsing settles each run -/

lemma collapseBlankLines_word {word : List Char} (rest : List Char)
    (solid : ∀ c ∈ word, isBlank c = false) :
    collapseBlankLines (word ++ rest) = word ++ collapseBlankLines rest := by
  induction word with
  | nil => rfl
  | cons c word ih =>
    rw [List.forall_mem_cons] at solid
    have other : c ≠ '\n' := by
      rintro rfl
      exact absurd solid.1 (by decide)
    rw [List.cons_append, collapseBlankLines_cons, if_neg (fun h => other h.1), ih solid.2,
      List.cons_append]

lemma collapseBlankLines_gap {gap rest : List Char} (blank : ∀ c ∈ gap, isBlank c = true)
    (stop : ∀ c ∈ rest.head?, isBlank c = false) :
    collapseBlankLines (gap ++ rest) = settled gap ++ collapseBlankLines rest := by
  induction gap with
  | nil => rfl
  | cons c gap ih =>
    have behind := List.forall_mem_of_forall_mem_cons blank
    rw [List.cons_append, collapseBlankLines_cons, takeWhile_append_stop behind stop,
      dropWhile_append_stop behind stop, settled_cons blank, ih behind]
    split <;> rfl

/-- **Collapsing blank lines settles each gap by itself.** -/
theorem collapseBlankLines_flatten {rs : List (List Char)} (h : Alternating rs) :
    collapseBlankLines rs.flatten = (rs.map settled).flatten := by
  induction rs with
  | nil => rw [List.flatten_nil, collapseBlankLines, List.map_nil, List.flatten_nil]
  | cons run rs ih =>
    have uniform := h.uniform run List.mem_cons_self
    have stop := h.stop
    rw [List.flatten_cons, List.map_cons, List.flatten_cons,
      ← ih (h.part (List.suffix_cons run rs).isInfix)]
    cases kind : isGap run with
    | true =>
      rw [kind] at uniform stop
      exact collapseBlankLines_gap uniform stop
    | false =>
      rw [kind] at uniform
      rw [settled_word kind, collapseBlankLines_word rs.flatten uniform]

/-! ## Trimming drops the gaps at the ends -/

lemma trimStart_flatten {rs : List (List Char)} (h : Alternating rs) :
    trimStart rs.flatten = (rs.dropWhile isGap).flatten := by
  cases rs with
  | nil => rfl
  | cons run rs =>
    have uniform := h.uniform run List.mem_cons_self
    have stop := h.stop
    rw [List.dropWhile_cons, List.flatten_cons, trimStart]
    cases kind : isGap run with
    | true =>
      rw [kind] at uniform stop
      have others : rs.dropWhile isGap = rs := by
        cases rs with
        | nil => rfl
        | cons next rs =>
          have differ := (List.isChain_cons_cons.1 h.turns).1
          rw [kind] at differ
          exact List.dropWhile_cons_of_neg (Ne.symm differ)
      rw [if_pos rfl, dropWhile_append_stop uniform stop, others]
    | false =>
      obtain ⟨c, word, rfl⟩ := List.exists_cons_of_ne_nil (h.full run List.mem_cons_self)
      have solid : isBlank c = false := by rw [uniform c List.mem_cons_self, kind]
      rw [if_neg (by simp), List.flatten_cons, List.cons_append,
        List.dropWhile_cons_of_neg (by simp [solid])]

lemma isGap_reverse (run : List Char) : isGap run.reverse = isGap run := List.all_reverse

/-- A row read from its end. -/
lemma Alternating.reversed {rs : List (List Char)} (h : Alternating rs) :
    Alternating (rs.reverse.map List.reverse) where
  full := by
    rw [List.forall_mem_map]
    exact fun run there => List.reverse_ne_nil_iff.2 (h.full run (List.mem_reverse.1 there))
  uniform := by
    rw [List.forall_mem_map]
    intro run there c inside
    rw [isGap_reverse]
    exact h.uniform run (List.mem_reverse.1 there) c (List.mem_reverse.1 inside)
  turns := by
    rw [List.isChain_map, List.isChain_reverse]
    simp only [isGap_reverse]
    exact h.turns.imp fun _ _ => Ne.symm

lemma trimEnd_flatten {rs : List (List Char)} (h : Alternating rs) :
    trimEnd rs.flatten = (rs.rdropWhile isGap).flatten := by
  have turned : rs.flatten.reverse = (rs.reverse.map List.reverse).flatten := by
    rw [List.reverse_flatten, List.map_reverse]
  have same : isGap ∘ List.reverse = isGap := funext isGap_reverse
  rw [trimEnd, turned, ← trimStart, trimStart_flatten h.reversed, List.dropWhile_map, same,
    List.reverse_flatten, List.map_map, List.rdropWhile]
  simp

/-- The runs of a text without gaps at its ends. -/
def innerRuns (cs : List Char) : List (List Char) :=
  ((runs cs).dropWhile isGap).rdropWhile isGap

lemma innerRuns_within (cs : List Char) : innerRuns cs <:+: runs cs :=
  (List.rdropWhile_prefix _ _).isInfix.trans (List.dropWhile_suffix _).isInfix

lemma alternating_innerRuns (cs : List Char) : Alternating (innerRuns cs) :=
  (alternating_runs cs).part (innerRuns_within cs)

/-! ## The normal form -/

/-- Settling changes no run from a gap to a word or back, so the same runs are dropped before and
after it. -/
lemma dropWhile_settled (rs : List (List Char)) :
    (rs.map settled).dropWhile isGap = (rs.dropWhile isGap).map settled := by
  have same : isGap ∘ settled = isGap := funext isGap_settled
  rw [List.dropWhile_map, same]

lemma rdropWhile_settled (rs : List (List Char)) :
    (rs.map settled).rdropWhile isGap = (rs.rdropWhile isGap).map settled := by
  rw [List.rdropWhile, List.rdropWhile, ← List.map_reverse, dropWhile_settled, List.map_reverse]

/-- **A tidied text is spelled by the inner runs of the text, settled.** -/
theorem toList_tidy (s : String) :
    (tidy s).toList = ((innerRuns s.toList).map settled).flatten := by
  have h := alternating_runs s.toList
  have inner : Alternating (((runs s.toList).dropWhile isGap).map settled) :=
    (h.part (List.dropWhile_suffix isGap).isInfix).settled
  calc (tidy s).toList = trim (collapseBlankLines (runs s.toList).flatten) := by
        rw [tidy, String.toList_ofList, flatten_runs]
    _ = trimEnd (trimStart ((runs s.toList).map settled).flatten) := by
        rw [collapseBlankLines_flatten h, trim]
    _ = trimEnd (((runs s.toList).dropWhile isGap).map settled).flatten := by
        rw [trimStart_flatten h.settled, dropWhile_settled]
    _ = ((innerRuns s.toList).map settled).flatten := by
        rw [trimEnd_flatten inner, rdropWhile_settled, innerRuns]

/-- These are its runs. -/
lemma runs_tidy (s : String) : runs (tidy s).toList = (innerRuns s.toList).map settled :=
  runs_eq_iff.2 ⟨(toList_tidy s).symm, (alternating_innerRuns s.toList).settled⟩

/-- The runs of a tidied text are settled already, and it is trimmed. -/
lemma tidy_tidy (s : String) : tidy (tidy s) = tidy s := by
  have collapsed : collapseBlankLines (tidy s).toList = (tidy s).toList := by
    have same : settled ∘ settled = settled := funext settled_settled
    conv_lhs => rw [← flatten_runs (tidy s).toList]
    rw [collapseBlankLines_flatten (alternating_runs _), runs_tidy, List.map_map, same,
      ← toList_tidy]
  have trimmed : trim (tidy s).toList = (tidy s).toList := by
    rw [tidy, String.toList_ofList, trim_trim]
  rw [tidy, collapsed, trimmed, String.ofList_toList]

/-- A run of a tidied text that holds a line feed is a gap, so it holds one only. -/
lemma count_le_one_of_mem_runs_tidy {s : String} {run : List Char}
    (there : run ∈ runs (tidy s).toList) : run.count '\n' ≤ 1 := by
  by_cases feed : '\n' ∈ run
  · have kind : isGap run = true := ((alternating_runs _).uniform run there _ feed).symm
    rw [runs_tidy] at there
    obtain ⟨run, -, rfl⟩ := List.mem_map.1 there
    rw [isGap_settled] at kind
    exact count_settled kind
  · rw [List.count_eq_zero_of_not_mem feed]
    exact Nat.zero_le 1

lemma no_blank_line_in_tidy {s : String} {before between after : List Char}
    (shape : (tidy s).toList = before ++ '\n' :: (between ++ '\n' :: after)) :
    ∃ c ∈ between, isBlank c = false := by
  by_contra none
  have blank : ∀ c ∈ '\n' :: (between ++ ['\n']), isBlank c = true := by
    intro c there
    rcases List.mem_cons.1 there with rfl | there
    · rfl
    rcases List.mem_append.1 there with inside | last
    · exact Bool.eq_true_of_not_eq_false fun solid => none ⟨c, inside, solid⟩
    · exact List.mem_singleton.1 last ▸ rfl
  have placed : (runs (tidy s).toList).flatten =
      before ++ ('\n' :: (between ++ ['\n']) ++ after) := by
    rw [flatten_runs, shape]
    simp
  obtain ⟨run, there, inside⟩ :=
    (alternating_runs _).exists_run placed (List.cons_ne_nil _ _) blank
  have several := inside.sublist.count_le '\n'
  have few := count_le_one_of_mem_runs_tidy there
  rw [List.count_cons_self, List.count_append, List.count_singleton_self] at several
  omega

/-- **Tidying settles the gaps between the words of a text.** A text consists of words and gaps in
turn.  Of these, the gaps at its two ends are dropped, and of a gap between two words that holds two
line feeds or more there is left what stands before the first of them, and one line feed; all else
stays.  So tidying a tidied text changes nothing, and a tidied text neither starts nor ends with a
blank nor has two line feeds with only blanks between them. -/
theorem tidy_settles_gaps (s : String) :
    (runs s.toList).flatten = s.toList ∧ Alternating (runs s.toList) ∧
      (tidy s).toList = ((innerRuns s.toList).map settled).flatten ∧
      tidy (tidy s) = tidy s ∧
      (∀ c ∈ (tidy s).toList.head?, isBlank c = false) ∧
      (∀ c ∈ (tidy s).toList.getLast?, isBlank c = false) ∧
      ∀ before between after, (tidy s).toList = before ++ '\n' :: (between ++ '\n' :: after) →
        ∃ c ∈ between, isBlank c = false := by
  have spelled : (tidy s).toList = trim (collapseBlankLines s.toList) := String.toList_ofList
  refine ⟨flatten_runs s.toList, alternating_runs s.toList, toList_tidy s, tidy_tidy s, ?_, ?_,
    fun before between after => no_blank_line_in_tidy⟩
  · rw [spelled, ← trimStart_trim]
    exact stop_dropWhile _
  · rw [spelled]
    exact not_isBlank_of_trimmed (trim_trim _)

/-- Of a blank line that ends as a carriage return and a line feed, the return before it stays. -/
theorem tidy_keeps_return :
    (tidy " one\r\n \r\n\ttwo \n").toList = "one\r\ntwo".toList := by
  rw [(tidy_settles_gaps _).2.2.1]
  decide

end Text

end BraceTemplate
