import Mathlib
import BraceTemplate.Proofs.Segments

/-!
# Bodies that open a block

`classify` finds the parts of an opening directive by looking from its ends inwards.  This file
states the grammar of these directives without a search:

* a loop is `#loop`, a gap, a path, a gap, `as`, a gap and a name (`LoopBody`);
* a condition is `#if`, a gap and a path (`ConditionBody`).

A gap is one blank or more, a path neither starts nor ends with a blank, and a name is a row of word
characters.  A path may hold anything else, also gaps and further words `as`; still a body can be
taken apart in one way only (`LoopBody.unique`).

One form more is accepted, though no path stands in it (`PathlessLoop`): where the gap between
`#loop` and `as` has three blanks or more, its last blank but one is taken for the path.
`OpeningBody` collects the three forms, and the main result `opening_grammar` says that a trimmed
body opens a block exactly if it has one of them, and is malformed exactly if it starts with the
keyword as a word of its own but is neither of these nor a comment.
-/

namespace BraceTemplate

/-! ## Blanks and word characters -/

namespace Text

/-- Classes whose ranges lie apart have no character in common. -/
lemma inRanges_eq_false_of_apart {rs ws : List CharRange} {c : Char}
    (apart : ∀ r ∈ rs, ∀ w ∈ ws, r.2 < w.1 ∨ w.2 < r.1) (h : inRanges rs c = true) :
    inRanges ws c = false := by
  obtain ⟨r, hr, low, high⟩ := inRanges_eq_true_iff.1 h
  by_contra inside
  rw [Bool.not_eq_false, inRanges_eq_true_iff] at inside
  obtain ⟨w, hw, low', high'⟩ := inside
  have := apart r hr w hw
  omega

lemma isWordChar_eq_false_of_isBlank {c : Char} (h : isBlank c = true) :
    isWordChar c = false := by
  have ascii : inRanges asciiWordRanges c = false :=
    inRanges_eq_false_of_apart (by decide +kernel) h
  have beyond : inRanges wordRanges c = false :=
    inRanges_eq_false_of_apart (by decide +kernel) h
  rw [isWordChar, ascii, beyond, ite_self]

end Text

/-! ## Rows of characters and where they stop -/

section

variable {p : Char → Bool} {as as' bs bs' : List Char}

lemma takeWhile_append_stop (all : ∀ c ∈ as, p c = true) (stop : ∀ c ∈ bs.head?, p c = false) :
    (as ++ bs).takeWhile p = as := by
  rw [List.takeWhile_append_of_pos all]
  cases bs with
  | nil => simp
  | cons b bs => simp [stop b rfl]

lemma dropWhile_append_stop (all : ∀ c ∈ as, p c = true) (stop : ∀ c ∈ bs.head?, p c = false) :
    (as ++ bs).dropWhile p = bs := by
  rw [List.dropWhile_append_of_pos all]
  cases bs with
  | nil => simp
  | cons b bs => simp [stop b rfl]

lemma stop_dropWhile (cs : List Char) : ∀ c ∈ (cs.dropWhile p).head?, p c = false := by
  intro c first
  have stop := List.head?_dropWhile_not p cs
  rwa [show (cs.dropWhile p).head? = some c from first] at stop

lemma stop_rdropWhile (cs : List Char) : ∀ c ∈ (cs.rdropWhile p).getLast?, p c = false := by
  rw [List.rdropWhile, List.getLast?_reverse]
  exact stop_dropWhile cs.reverse

/-- A text is cut in one way into a row of one class and what stops it. -/
lemma eq_of_append_stop (same : as ++ bs = as' ++ bs') (all : ∀ c ∈ as, p c = true)
    (stop : ∀ c ∈ bs.head?, p c = false) (all' : ∀ c ∈ as', p c = true)
    (stop' : ∀ c ∈ bs'.head?, p c = false) : as = as' ∧ bs = bs' := by
  refine ⟨?_, ?_⟩
  · rw [← takeWhile_append_stop all stop, same, takeWhile_append_stop all' stop']
  · rw [← dropWhile_append_stop all stop, same, dropWhile_append_stop all' stop']

/-- The same from the other end. -/
lemma eq_of_stop_append (same : as ++ bs = as' ++ bs') (all : ∀ c ∈ bs, p c = true)
    (stop : ∀ c ∈ as.getLast?, p c = false) (all' : ∀ c ∈ bs', p c = true)
    (stop' : ∀ c ∈ as'.getLast?, p c = false) : as = as' ∧ bs = bs' := by
  have turned : bs.reverse ++ as.reverse = bs'.reverse ++ as'.reverse := by
    rw [← List.reverse_append, ← List.reverse_append, same]
  have ends := eq_of_append_stop turned (by simpa using all) (by simpa using stop)
    (by simpa using all') (by simpa using stop')
  exact ⟨List.reverse_inj.1 ends.2, List.reverse_inj.1 ends.1⟩

end

/-- A trimmed text does not end with a blank. -/
lemma not_isBlank_of_trimmed {cs : List Char} (trimmed : Text.trim cs = cs) :
    ∀ c ∈ cs.getLast?, Text.isBlank c = false := by
  have stop : ∀ c ∈ (Text.trim cs).getLast?, Text.isBlank c = false := stop_rdropWhile _
  rwa [trimmed] at stop

/-! ## The grammar of opening directives -/

/-- One blank or more. -/
structure Gap (cs : List Char) : Prop where
  full : cs ≠ []
  blank : ∀ c ∈ cs, Text.isBlank c = true

/-- Text that neither starts nor ends with a blank. -/
structure PathText (cs : List Char) : Prop where
  full : cs ≠ []
  starts : ∀ c ∈ cs.head?, Text.isBlank c = false
  ends : ∀ c ∈ cs.getLast?, Text.isBlank c = false

/-- A row of word characters. -/
structure ItemName (cs : List Char) : Prop where
  full : cs ≠ []
  word : ∀ c ∈ cs, Text.isWordChar c = true

/-- The body of a loop, with its parts. -/
structure LoopBody (body gap path gap' gap'' item : List Char) : Prop where
  spelled : body = "#loop".toList ++ (gap ++ path ++ gap' ++ "as".toList ++ gap'' ++ item)
  gap : Gap gap
  path : PathText path
  gap' : Gap gap'
  gap'' : Gap gap''
  item : ItemName item

/-- The body of a loop that has no path, with its parts. -/
structure PathlessLoop (body gap gap' item : List Char) : Prop where
  spelled : body = "#loop".toList ++ (gap ++ "as".toList ++ gap' ++ item)
  gap : Gap gap
  gap' : Gap gap'
  item : ItemName item

/-- The body of a condition, with its parts. -/
structure ConditionBody (body gap path : List Char) : Prop where
  spelled : body = "#if".toList ++ (gap ++ path)
  gap : Gap gap
  full : path ≠ []
  starts : ∀ c ∈ path.head?, Text.isBlank c = false

/-- The bodies that open a block, and what they open. -/
inductive OpeningBody (body : List Char) : Opening → Prop
  | loop {gap path gap' gap'' item : List Char} :
      LoopBody body gap path gap' gap'' item →
      OpeningBody body (.loop (String.ofList path) (String.ofList item))
  | blankPath {front gap' item : List Char} {c d : Char} :
      front ≠ [] → PathlessLoop body (front ++ [c, d]) gap' item →
      OpeningBody body (.loop (String.ofList [c]) (String.ofList item))
  | conditional {gap path : List Char} :
      ConditionBody body gap path → OpeningBody body (.conditional (String.ofList path))

/-! ## Parts found from the ends -/

lemma dropStart?_eq_some_iff {start cs rest : List Char} :
    dropStart? start cs = some rest ↔ cs = start ++ rest := by
  fun_induction dropStart? start cs with
  | case1 cs => simp [eq_comm]
  | case2 c start => simp
  | case3 c start cs ih => simp [ih]
  | case4 b start c cs differ =>
    simp only [reduceCtorEq, List.cons_append, List.cons.injEq, false_iff, not_and]
    intro same
    exact absurd same.symm differ

lemma Gap.head? {gap : List Char} (h : Gap gap) (rest : List Char) :
    (gap ++ rest).head?.any Text.isBlank = true := by
  obtain ⟨c, cs, rfl⟩ := List.exists_cons_of_ne_nil h.full
  simpa using h.blank c List.mem_cons_self

lemma Gap.reverse {gap : List Char} (h : Gap gap) : Gap gap.reverse :=
  ⟨by simpa using h.full, by simpa using h.blank⟩

lemma Gap.getLast? {gap : List Char} (h : Gap gap) (front : List Char) :
    (front ++ gap).getLast?.any Text.isBlank = true := by
  rw [List.getLast?_append_of_ne_nil _ h.full]
  cases last : gap.getLast? with
  | none => exact absurd (List.getLast?_eq_none_iff.1 last) h.full
  | some c => exact h.blank c (List.mem_of_getLast? last)

/-- Where a path stands between gaps, trimming finds it. -/
lemma trim_append {gap path gap' : List Char} (first : Gap gap) (middle : PathText path)
    (last : Gap gap') : Text.trim (gap ++ path ++ gap') = path := by
  have start : Text.trimStart (gap ++ path ++ gap') = path ++ gap' := by
    rw [List.append_assoc]
    refine dropWhile_append_stop first.blank ?_
    rw [List.head?_append_of_ne_nil _ middle.full]
    exact middle.starts
  have ended : (gap'.reverse ++ path.reverse).dropWhile Text.isBlank = path.reverse := by
    refine dropWhile_append_stop last.reverse.blank ?_
    rw [List.head?_reverse]
    exact middle.ends
  rw [Text.trim, start, Text.trimEnd, List.reverse_append, ended, List.reverse_reverse]

/-- A text with blanks at both ends and something between them is a path between gaps. -/
lemma exists_path_between {cs : List Char} (starts : cs.head?.any Text.isBlank = true)
    (ends : cs.getLast?.any Text.isBlank = true) (mixed : cs.all Text.isBlank = false) :
    ∃ gap gap', Gap gap ∧ PathText (Text.trim cs) ∧ Gap gap' ∧
      cs = gap ++ Text.trim cs ++ gap' := by
  let gap := cs.takeWhile Text.isBlank
  let gap' := (Text.trimStart cs).rtakeWhile Text.isBlank
  have front : gap ++ Text.trimStart cs = cs := List.takeWhile_append_dropWhile
  have back : Text.trim cs ++ gap' = Text.trimStart cs := List.rdropWhile_append_rtakeWhile
  have parts : cs = gap ++ Text.trim cs ++ gap' := by rw [List.append_assoc, back, front]
  have blank : ∀ c ∈ gap, Text.isBlank c = true := fun c there => List.mem_takeWhile_imp there
  have blank' : ∀ c ∈ gap', Text.isBlank c = true := fun c there => List.mem_rtakeWhile_imp there
  have full : Text.trim cs ≠ [] := by
    intro none
    rw [none, List.append_nil] at parts
    have all : cs.all Text.isBlank = true := by
      rw [parts, List.all_append, List.all_eq_true.2 blank, List.all_eq_true.2 blank',
        Bool.and_self]
    rw [mixed] at all
    cases all
  have stop : ∀ c ∈ (Text.trim cs).getLast?, Text.isBlank c = false := stop_rdropWhile _
  have start : ∀ c ∈ (Text.trim cs).head?, Text.isBlank c = false := by
    have first : (Text.trimStart cs).head? = (Text.trim cs).head? := by
      rw [← back, List.head?_append_of_ne_nil _ full]
    rw [← first]
    exact stop_dropWhile cs
  have gapFull : gap ≠ [] := by
    intro none
    rw [parts, none, List.nil_append, List.head?_append_of_ne_nil _ full] at starts
    obtain ⟨c, first, isBlank⟩ := (Option.any_eq_true _ _).1 starts
    rw [start c first] at isBlank
    cases isBlank
  have gapFull' : gap' ≠ [] := by
    intro none
    rw [parts, none, List.append_nil, List.getLast?_append_of_ne_nil _ full] at ends
    obtain ⟨c, last, isBlank⟩ := (Option.any_eq_true _ _).1 ends
    rw [stop c last] at isBlank
    cases isBlank
  exact ⟨gap, gap', ⟨gapFull, blank⟩, ⟨full, start, stop⟩, ⟨gapFull', blank'⟩, parts⟩

/-- Where a path stands between gaps, it is found. -/
lemma enclosedTarget?_append {gap path gap' : List Char} (first : Gap gap)
    (middle : PathText path) (last : Gap gap') :
    enclosedTarget? (gap ++ path ++ gap') = some path := by
  have mixed : (gap ++ path ++ gap').all Text.isBlank = false := by
    obtain ⟨c, cs, rfl⟩ := List.exists_cons_of_ne_nil middle.full
    have stop := middle.starts c rfl
    simp [stop]
  have starts : (gap ++ path ++ gap').head?.any Text.isBlank = true := by
    rw [List.append_assoc]
    exact first.head? _
  have ends : (gap ++ path ++ gap').getLast?.any Text.isBlank = true := last.getLast? _
  rw [enclosedTarget?, mixed, starts, ends, trim_append first middle last]
  rfl

lemma loopOpening?_append {front gap item : List Char} (between : Gap gap)
    (name : ItemName item) :
    loopOpening? (front ++ "as".toList ++ gap ++ item) =
      (enclosedTarget? front).map fun path => .loop (String.ofList path) (String.ofList item) := by
  have feed : Text.isWordChar '\n' = false := by decide
  have last : (front ++ "as".toList ++ gap ++ item).getLast? ≠ some '\n' := by
    rw [List.getLast?_append_of_ne_nil _ name.full]
    intro there
    have word := name.word '\n' (List.mem_of_getLast? there)
    rw [feed] at word
    cases word
  have turned : (front ++ "as".toList ++ gap ++ item).reverse =
      item.reverse ++ (gap.reverse ++ 's' :: 'a' :: front.reverse) := by
    simp
  have gapFirst : ∀ c ∈ (gap.reverse ++ 's' :: 'a' :: front.reverse).head?,
      Text.isWordChar c = false := by
    intro c there
    rw [List.head?_append_of_ne_nil _ (by simpa using between.full), List.head?_reverse] at there
    exact Text.isWordChar_eq_false_of_isBlank (between.blank c (List.mem_of_getLast? there))
  have words : ∀ c ∈ item.reverse, Text.isWordChar c = true := by simpa using name.word
  have noBlank : ∀ c ∈ ('s' :: 'a' :: front.reverse).head?, Text.isBlank c = false := by
    rintro _ ⟨⟩
    decide
  have starts : (gap.reverse ++ 's' :: 'a' :: front.reverse).head?.any Text.isBlank = true :=
    between.reverse.head? _
  rw [loopOpening?, dropFinalLineFeed, if_neg last, turned, takeWhile_append_stop words gapFirst,
    dropWhile_append_stop words gapFirst, dropWhile_append_stop between.reverse.blank noBlank,
    starts]
  simp [name.full]

lemma exists_last_two {cs : List Char} (long : 3 ≤ cs.length) :
    ∃ front c d, front ≠ [] ∧ cs = front ++ [c, d] := by
  have two : (cs.drop (cs.length - 2)).length = 2 := by
    rw [List.length_drop]
    omega
  obtain ⟨c, d, last⟩ := List.length_eq_two.1 two
  refine ⟨cs.take (cs.length - 2), c, d, ?_, ?_⟩
  · refine List.ne_nil_of_length_pos ?_
    rw [List.length_take]
    omega
  · rw [← last, List.take_append_drop]

/-- What is found between the keyword and the next word is a path between gaps, or the last blank
but one of three or more. -/
lemma enclosedTarget?_eq_some {cs path : List Char} (h : enclosedTarget? cs = some path) :
    (∃ gap gap', Gap gap ∧ PathText path ∧ Gap gap' ∧ cs = gap ++ path ++ gap') ∨
      ∃ front c d, front ≠ [] ∧ Gap (front ++ [c, d]) ∧ path = [c] ∧ cs = front ++ [c, d] := by
  rw [enclosedTarget?] at h
  split at h
  · rename_i blank
    split at h
    · rename_i long
      right
      obtain ⟨front, c, d, full, rfl⟩ := exists_last_two long
      have found : (front ++ [c, d])[(front ++ [c, d]).length - 2]? = some c := by simp
      rw [found] at h
      cases h
      exact ⟨front, c, d, full, ⟨by simp, List.all_eq_true.1 blank⟩, rfl, rfl⟩
    · cases h
  · rename_i mixed
    split at h
    · rename_i ends
      rw [Bool.and_eq_true] at ends
      obtain ⟨gap, gap', first, middle, last, parts⟩ :=
        exists_path_between ends.1 ends.2 (Bool.eq_false_iff.2 mixed)
      cases h
      exact .inl ⟨gap, gap', first, middle, last, parts⟩
    · cases h

lemma enclosedTarget?_blank {front : List Char} {c d : Char} (long : front ≠ [])
    (gap : Gap (front ++ [c, d])) : enclosedTarget? (front ++ [c, d]) = some [c] := by
  have blank : (front ++ [c, d]).all Text.isBlank = true := List.all_eq_true.2 gap.blank
  have size : 3 ≤ (front ++ [c, d]).length := by
    have := List.length_pos_of_ne_nil long
    simp only [List.length_append, List.length_cons, List.length_nil]
    omega
  rw [enclosedTarget?, if_pos blank, if_pos size]
  simp

/-- The parts of a loop's body that are found from its end. -/
lemma exists_of_loopOpening? {cs : List Char} {opening : Opening}
    (clear : cs.getLast? ≠ some '\n') (h : loopOpening? cs = some opening) :
    ∃ front gap item path, cs = front ++ "as".toList ++ gap ++ item ∧ Gap gap ∧ ItemName item ∧
      enclosedTarget? front = some path ∧
      opening = .loop (String.ofList path) (String.ofList item) := by
  have kept : dropFinalLineFeed cs = cs := if_neg clear
  simp only [loopOpening?, kept] at h
  split at h
  · cases h
  · rename_i found
    rw [Bool.or_eq_true, not_or, Bool.not_eq_true, Bool.not_eq_true, Bool.not_eq_false'] at found
    obtain ⟨full, starts⟩ := found
    split at h
    · rename_i front behind
      obtain ⟨path, enclosed, rfl⟩ := Option.map_eq_some_iff.1 h
      let item := cs.reverse.takeWhile Text.isWordChar
      let gap := (cs.reverse.dropWhile Text.isWordChar).takeWhile Text.isBlank
      have separator : gap ++ 's' :: 'a' :: front = cs.reverse.dropWhile Text.isWordChar := by
        rw [← behind]
        exact List.takeWhile_append_dropWhile
      have parts : cs = front.reverse ++ "as".toList ++ gap.reverse ++ item.reverse := by
        calc cs = (item ++ cs.reverse.dropWhile Text.isWordChar).reverse := by
              rw [List.takeWhile_append_dropWhile, List.reverse_reverse]
          _ = front.reverse ++ "as".toList ++ gap.reverse ++ item.reverse := by
              rw [← separator]
              simp
      have between : Gap gap := by
        refine ⟨?_, fun c there => List.mem_takeWhile_imp there⟩
        intro none
        rw [← separator, none] at starts
        cases starts
      have name : ItemName item.reverse := by
        refine ⟨?_, ?_⟩
        · exact List.reverse_ne_nil_iff.2 (List.isEmpty_eq_false_iff.1 full)
        · intro c there
          exact List.mem_takeWhile_imp (List.mem_reverse.1 there)
      exact ⟨front.reverse, gap.reverse, item.reverse, path, parts, between.reverse, name, enclosed,
        rfl⟩
    · cases h

/-! ## Openings -/

/-- Behind `#loop` a loop is found exactly if the rest has the parts of one. -/
lemma loopOpening?_eq_some_iff {cs : List Char} {opening : Opening}
    (clear : cs.getLast? ≠ some '\n') :
    loopOpening? cs = some opening ↔
      ∃ front gap item path, cs = front ++ "as".toList ++ gap ++ item ∧ Gap gap ∧ ItemName item ∧
        enclosedTarget? front = some path ∧
        opening = .loop (String.ofList path) (String.ofList item) := by
  constructor
  · exact exists_of_loopOpening? clear
  · rintro ⟨front, gap, item, path, rfl, between, name, enclosed, rfl⟩
    rw [loopOpening?_append between name, enclosed, Option.map_some]

/-- Behind `#if` a condition is found exactly if the rest is a gap and a path. -/
lemma conditionalOpening?_eq_some_iff {cs : List Char} {opening : Opening}
    (ends : ∀ c ∈ cs.getLast?, Text.isBlank c = false) :
    conditionalOpening? cs = some opening ↔
      ∃ gap path, cs = gap ++ path ∧ Gap gap ∧ path ≠ [] ∧
        (∀ c ∈ path.head?, Text.isBlank c = false) ∧
        opening = .conditional (String.ofList path) := by
  constructor
  · intro h
    have parts : cs.takeWhile Text.isBlank ++ Text.trimStart cs = cs :=
      List.takeWhile_append_dropWhile
    simp only [conditionalOpening?] at h
    split at h
    · cases h
    · rename_i starts
      rw [Bool.not_eq_true, Bool.not_eq_false'] at starts
      obtain ⟨c, first, blank⟩ := (Option.any_eq_true _ _).1 starts
      obtain ⟨rest, rfl⟩ := List.head?_eq_some_iff.1 first
      have gap : Gap ((c :: rest).takeWhile Text.isBlank) := by
        refine ⟨?_, fun d there => List.mem_takeWhile_imp there⟩
        rw [List.takeWhile_cons_of_pos blank]
        exact List.cons_ne_nil _ _
      split at h
      · rename_i full
        cases h
        have some : Text.trimStart (c :: rest) ≠ [] := by simpa using full
        exact ⟨_, _, parts.symm, gap, some, stop_dropWhile _, rfl⟩
      · -- the text ends with no blank, and so it is no row of blanks
        rename_i empty
        have none : Text.trimStart (c :: rest) = [] := by simpa using empty
        have blanks := List.dropWhile_eq_nil_iff.1 none
        obtain ⟨d, last⟩ : ∃ d, (c :: rest).getLast? = some d := ⟨_, List.getLast?_cons⟩
        have isBlank := blanks d (List.mem_of_getLast? last)
        rw [ends d last] at isBlank
        cases isBlank
  · rintro ⟨gap, path, rfl, between, full, starts, rfl⟩
    have found : Text.trimStart (gap ++ path) = path := dropWhile_append_stop between.blank starts
    have first := between.head? path
    simp only [conditionalOpening?, first, found]
    simp [full]

lemma opening?_eq_some_iff {cs : List Char} {opening : Opening}
    (ends : ∀ c ∈ cs.getLast?, Text.isBlank c = false) :
    opening? cs = some opening ↔ OpeningBody cs opening := by
  have endsBehind : ∀ {start rest : List Char}, cs = start ++ rest →
      ∀ c ∈ rest.getLast?, Text.isBlank c = false := by
    rintro start rest rfl c last
    refine ends c ?_
    rw [List.getLast?_append, Option.mem_def.1 last]
    rfl
  have clear : ∀ {start rest : List Char}, cs = start ++ rest → rest.getLast? ≠ some '\n' := by
    intro start rest parts feed
    have blank := endsBehind parts '\n' feed
    revert blank
    decide
  rw [opening?, Option.or_eq_some_iff]
  constructor
  · rintro (loop | ⟨-, conditional⟩)
    · obtain ⟨rest, start, found⟩ := Option.bind_eq_some_iff.1 loop
      have parts := dropStart?_eq_some_iff.1 start
      obtain ⟨front, gap, item, path, rfl, between, name, enclosed, rfl⟩ :=
        (loopOpening?_eq_some_iff (clear parts)).1 found
      obtain ⟨gap₁, gap₂, first, middle, last, rfl⟩ | ⟨front, c, d, long, blank, rfl, rfl⟩ :=
        enclosedTarget?_eq_some enclosed
      · exact .loop ⟨parts, first, middle, last, between, name⟩
      · exact .blankPath long ⟨parts, blank, between, name⟩
    · obtain ⟨rest, start, found⟩ := Option.bind_eq_some_iff.1 conditional
      have parts := dropStart?_eq_some_iff.1 start
      obtain ⟨gap, path, rfl, between, full, starts, rfl⟩ :=
        (conditionalOpening?_eq_some_iff (endsBehind parts)).1 found
      exact .conditional ⟨parts, between, full, starts⟩
  · rintro (@⟨gap, path, gap', gap'', item, body⟩ | @⟨front, gap', item, c, d, long, body⟩ |
      @⟨gap, path, body⟩)
    · have parts := body.spelled
      have found := (loopOpening?_eq_some_iff (clear parts)).2
        ⟨_, _, _, _, rfl, body.gap'', body.item,
          enclosedTarget?_append body.gap body.path body.gap', rfl⟩
      exact .inl (Option.bind_eq_some_iff.2 ⟨_, dropStart?_eq_some_iff.2 parts, found⟩)
    · have parts := body.spelled
      have found := (loopOpening?_eq_some_iff (clear parts)).2
        ⟨_, _, _, _, rfl, body.gap', body.item, enclosedTarget?_blank long body.gap, rfl⟩
      exact .inl (Option.bind_eq_some_iff.2 ⟨_, dropStart?_eq_some_iff.2 parts, found⟩)
    · have parts := body.spelled
      have found := (conditionalOpening?_eq_some_iff (endsBehind parts)).2
        ⟨_, _, rfl, body.gap, body.full, body.starts, rfl⟩
      have other : dropStart? "#loop".toList cs = none := by
        rw [parts]
        rfl
      refine .inr ⟨?_, Option.bind_eq_some_iff.2 ⟨_, dropStart?_eq_some_iff.2 parts, found⟩⟩
      rw [other, Option.bind_none]

lemma classify_eq_opens_iff {body : String} {opening : Opening} :
    classify body = .opens opening ↔ opening? body.toList = some opening := by
  constructor
  · fun_cases classify body with
    | case1 cs o found =>
      rintro ⟨⟩
      exact found
    | _ => rintro ⟨⟩
  · intro found
    simp only [classify, found]

/-! ## One way to take a body apart -/

/-- From its end: the name, the gap before it, and the word `as`. -/
lemma eq_of_ending {front gap item front' gap' item' : List Char}
    (same : front ++ "as".toList ++ gap ++ item = front' ++ "as".toList ++ gap' ++ item')
    (between : Gap gap) (name : ItemName item) (between' : Gap gap') (name' : ItemName item') :
    front = front' ∧ gap = gap' ∧ item = item' := by
  have wordStop : ∀ {front gap : List Char}, Gap gap →
      ∀ c ∈ (front ++ gap).getLast?, Text.isWordChar c = false := by
    intro front gap between c last
    have blank := between.getLast? front
    rw [Option.mem_def.1 last] at blank
    exact Text.isWordChar_eq_false_of_isBlank blank
  have letterStop : ∀ {front : List Char}, ∀ c ∈ (front ++ "as".toList).getLast?,
      Text.isBlank c = false := by
    intro front c last
    have letter : c = 's' := by simpa [eq_comm] using last
    subst letter
    decide
  obtain ⟨toGap, rfl⟩ :=
    eq_of_stop_append same name.word (wordStop between) name'.word (wordStop between')
  obtain ⟨toWord, rfl⟩ :=
    eq_of_stop_append toGap between.blank letterStop between'.blank letterStop
  exact ⟨List.append_cancel_right toWord, rfl, rfl⟩

/-- A body can be taken apart as a loop in one way only. -/
lemma LoopBody.unique {body gap₁ path gap₂ gap₃ item gap₁' path' gap₂' gap₃' item' : List Char}
    (h : LoopBody body gap₁ path gap₂ gap₃ item)
    (h' : LoopBody body gap₁' path' gap₂' gap₃' item') :
    gap₁ = gap₁' ∧ path = path' ∧ gap₂ = gap₂' ∧ gap₃ = gap₃' ∧ item = item' := by
  have pathStop : ∀ {front path : List Char}, PathText path →
      ∀ c ∈ (front ++ path).getLast?, Text.isBlank c = false := by
    intro front path middle
    rw [List.getLast?_append_of_ne_nil _ middle.full]
    exact middle.ends
  have behind := List.append_cancel_left (h.spelled.symm.trans h'.spelled)
  obtain ⟨toGap, rfl, rfl⟩ := eq_of_ending behind h.gap'' h.item h'.gap'' h'.item
  obtain ⟨toPath, rfl⟩ :=
    eq_of_stop_append toGap h.gap'.blank (pathStop h.path) h'.gap'.blank (pathStop h'.path)
  obtain ⟨rfl, rfl⟩ :=
    eq_of_append_stop toPath h.gap.blank h.path.starts h'.gap.blank h'.path.starts
  exact ⟨rfl, rfl, rfl, rfl, rfl⟩

/-- A body without a path has none, however it is taken apart. -/
lemma PathlessLoop.not_loopBody {body gap gap' item gap₁ path gap₂ gap₃ item' : List Char}
    (h : PathlessLoop body gap gap' item) : ¬ LoopBody body gap₁ path gap₂ gap₃ item' := by
  intro loop
  have behind := List.append_cancel_left (h.spelled.symm.trans loop.spelled)
  obtain ⟨front, -, -⟩ := eq_of_ending behind h.gap' h.item loop.gap'' loop.item
  obtain ⟨c, cs, shape⟩ := List.exists_cons_of_ne_nil loop.path.full
  have stop : Text.isBlank c = false := loop.path.starts c (by rw [shape]; rfl)
  have blank : Text.isBlank c = true := h.gap.blank c (by rw [front, shape]; simp)
  rw [stop] at blank
  cases blank

/-- A body that starts with `#loop` does not start with `#if`. -/
lemma PathlessLoop.not_conditionBody {body gap gap' item gap₁ path : List Char}
    (h : PathlessLoop body gap gap' item) : ¬ ConditionBody body gap₁ path := by
  intro condition
  have same := h.spelled.symm.trans condition.spelled
  simp at same

/-- Without a path a block is opened exactly if three blanks or more stand in its place. -/
lemma PathlessLoop.opens_iff {body gap gap' item : List Char}
    (h : PathlessLoop body gap gap' item) :
    (∃ opening, OpeningBody body opening) ↔ 3 ≤ gap.length := by
  constructor
  · rintro ⟨_, loop | ⟨long, other⟩ | condition⟩
    · exact absurd loop h.not_loopBody
    · have behind := List.append_cancel_left (h.spelled.symm.trans other.spelled)
      obtain ⟨rfl, -, -⟩ := eq_of_ending behind h.gap' h.item other.gap' other.item
      have := List.length_pos_of_ne_nil long
      simp only [List.length_append, List.length_cons, List.length_nil]
      omega
    · exact absurd condition h.not_conditionBody
  · intro long
    obtain ⟨front, c, d, full, rfl⟩ := exists_last_two long
    exact ⟨_, .blankPath full h⟩

/-! ## Malformed bodies -/

/-- The body is the opening keyword of a kind, alone or followed by a blank. -/
def KeywordBody (kind : BlockKind) (body : List Char) : Prop :=
  ∃ rest, body = '#' :: kind.keyword.toList ++ rest ∧ ∀ c ∈ rest.head?, Text.isBlank c = true

/-- The body starts and ends as a comment. -/
def CommentBody (body : List Char) : Prop := body.head? = some '#' ∧ body.getLast? = some '#'

lemma KeywordBody.unique {kind kind' : BlockKind} {body : List Char} (h : KeywordBody kind body)
    (h' : KeywordBody kind' body) : kind = kind' := by
  obtain ⟨rest, spelled, -⟩ := h
  obtain ⟨rest', spelled', -⟩ := h'
  have same := spelled.symm.trans spelled'
  cases kind <;> cases kind' <;> first | rfl | simp [BlockKind.keyword] at same

lemma openingKeyword?_eq_some_iff {cs : List Char} {kind : BlockKind} :
    openingKeyword? cs = some kind ↔ KeywordBody kind cs := by
  let fits (k : BlockKind) : Bool :=
    (dropStart? ('#' :: k.keyword.toList) cs).any fun rest => rest.head?.all Text.isBlank
  have fits_iff : ∀ k, fits k = true ↔ KeywordBody k cs := by
    intro k
    rw [Option.any_eq_true]
    refine exists_congr fun rest => and_congr dropStart?_eq_some_iff ?_
    simp [Option.all_eq_true]
  have first : openingKeyword? cs = [BlockKind.loop, .conditional].find? fits := rfl
  rw [first]
  constructor
  · intro found
    exact (fits_iff kind).1 (List.find?_some found)
  · intro keyword
    cases found : [BlockKind.loop, .conditional].find? fits with
    | none =>
      have listed : kind ∈ [BlockKind.loop, .conditional] := by cases kind <;> simp
      exact absurd ((fits_iff kind).2 keyword) (List.find?_eq_none.1 found kind listed)
    | some other => rw [((fits_iff other).1 (List.find?_some found)).unique keyword]

lemma PathlessLoop.keywordBody {body gap gap' item : List Char}
    (h : PathlessLoop body gap gap' item) : KeywordBody .loop body := by
  refine ⟨gap ++ "as".toList ++ gap' ++ item, h.spelled, ?_⟩
  have first := h.gap.head? ("as".toList ++ gap' ++ item)
  obtain ⟨c, there, blank⟩ := (Option.any_eq_true _ _).1 first
  intro d here
  simp only [List.append_assoc] at here there
  rw [here] at there
  cases there
  exact blank

/-- A body that ends with a name is no comment. -/
lemma PathlessLoop.not_commentBody {body gap gap' item : List Char}
    (h : PathlessLoop body gap gap' item) : ¬ CommentBody body := by
  rintro ⟨-, last⟩
  rw [h.spelled, ← List.append_assoc, List.getLast?_append_of_ne_nil _ h.item.full] at last
  have word := h.item.word '#' (List.mem_of_getLast? last)
  revert word
  decide

lemma classify_eq_malformed_iff {body : String} {kind : BlockKind} :
    classify body = .malformed kind ↔
      opening? body.toList = none ∧ ¬ CommentBody body.toList ∧ KeywordBody kind body.toList := by
  rw [← openingKeyword?_eq_some_iff]
  constructor
  · fun_cases classify body with
    | case5 cs none noLoop noIf noComment k found =>
      rintro ⟨⟩
      exact ⟨none, noComment, found⟩
    | _ => rintro ⟨⟩
  · rintro ⟨unopened, noComment, keyword⟩
    have first : body.toList.head? = some '#' := by
      obtain ⟨rest, spelled, -⟩ := openingKeyword?_eq_some_iff.1 keyword
      rw [spelled]
      rfl
    have notLoop : body ≠ "/loop" := by
      rintro rfl
      cases first
    have notIf : body ≠ "/if" := by
      rintro rfl
      cases first
    rw [CommentBody] at noComment
    simp only [classify, unopened, if_neg notLoop, if_neg notIf, if_neg noComment, keyword]

/-! ## Main result -/

/-- **What opens a block, and what only tries to.** -/
theorem opening_grammar {body : String} (trimmed : Text.trim body.toList = body.toList) :
    (∀ opening, classify body = .opens opening ↔ OpeningBody body.toList opening) ∧
    (∀ kind, classify body = .malformed kind ↔
      (¬ ∃ opening, OpeningBody body.toList opening) ∧ ¬ CommentBody body.toList ∧
        KeywordBody kind body.toList) ∧
    (∀ gap₁ path gap₂ gap₃ item gap₁' path' gap₂' gap₃' item',
      LoopBody body.toList gap₁ path gap₂ gap₃ item →
      LoopBody body.toList gap₁' path' gap₂' gap₃' item' →
      gap₁ = gap₁' ∧ path = path' ∧ gap₂ = gap₂' ∧ gap₃ = gap₃' ∧ item = item') ∧
    ∀ gap gap' item, PathlessLoop body.toList gap gap' item →
      (classify body = .malformed .loop ↔ gap.length < 3) := by
  have ends := not_isBlank_of_trimmed trimmed
  have opens : ∀ opening, classify body = .opens opening ↔ OpeningBody body.toList opening := by
    intro opening
    rw [classify_eq_opens_iff, opening?_eq_some_iff ends]
  have malformed : ∀ kind, classify body = .malformed kind ↔
      (¬ ∃ opening, OpeningBody body.toList opening) ∧ ¬ CommentBody body.toList ∧
        KeywordBody kind body.toList := by
    intro kind
    have unopened : opening? body.toList = none ↔ ¬ ∃ opening, OpeningBody body.toList opening := by
      simp only [← opening?_eq_some_iff ends, Option.eq_none_iff_forall_ne_some, not_exists, ne_eq]
    rw [classify_eq_malformed_iff, unopened]
  refine ⟨opens, malformed, ?_, ?_⟩
  · intro gap₁ path gap₂ gap₃ item gap₁' path' gap₂' gap₃' item' h h'
    exact h.unique h'
  · intro gap gap' item h
    rw [malformed, h.opens_iff, Nat.not_le, and_iff_left ⟨h.not_commentBody, h.keywordBody⟩]

/-- The word `as` may stand in a path: the last one is the keyword. -/
theorem word_in_path_opens :
    Text.trim "#loop rows as seen as  row".toList = "#loop rows as seen as  row".toList ∧
      classify "#loop rows as seen as  row" = .opens (.loop "rows as seen" "row") := by
  have trimmed : Text.trim "#loop rows as seen as  row".toList =
      "#loop rows as seen as  row".toList := by cbv
  have parts : LoopBody "#loop rows as seen as  row".toList [' '] "rows as seen".toList [' ']
      [' ', ' '] "row".toList := by
    refine ⟨rfl, ⟨?_, ?_⟩, ⟨?_, ?_, ?_⟩, ⟨?_, ?_⟩, ⟨?_, ?_⟩, ⟨?_, ?_⟩⟩ <;> simp <;> decide
  exact ⟨trimmed, ((opening_grammar trimmed).1 _).2 (.loop parts)⟩

/-- Three blanks between `#loop` and `as` open a loop, though no path stands there. -/
theorem blanks_for_path_open :
    Text.trim "#loop   as x".toList = "#loop   as x".toList ∧
      (∀ gap₁ path gap₂ gap₃ item, ¬ LoopBody "#loop   as x".toList gap₁ path gap₂ gap₃ item) ∧
      (∀ gap path, ¬ ConditionBody "#loop   as x".toList gap path) ∧
      ¬ CommentBody "#loop   as x".toList ∧ KeywordBody .loop "#loop   as x".toList ∧
      classify "#loop   as x" = .opens (.loop " " "x") ∧
      classify "#loop   as x" ≠ .malformed .loop := by
  have pathless : PathlessLoop "#loop   as x".toList [' ', ' ', ' '] [' '] ['x'] := by
    refine ⟨rfl, ⟨?_, ?_⟩, ⟨?_, ?_⟩, ⟨?_, ?_⟩⟩ <;> simp <;> decide
  have opened : classify "#loop   as x" = .opens (.loop " " "x") := by cbv
  refine ⟨by cbv, ?_, ?_, pathless.not_commentBody, pathless.keywordBody, opened, ?_⟩
  · intro gap₁ path gap₂ gap₃ item
    exact pathless.not_loopBody
  · intro gap path
    exact pathless.not_conditionBody
  · rw [opened]
    rintro ⟨⟩

end BraceTemplate
