import Mathlib
import BraceTemplate.Proofs.Places

/-!
# Locations

The line and the column of an offset are found in two ways, in a table of the lines' starts and by
looking at the text before the offset.  Both give the same (`locate_eq_position`).  A location can
be turned back into its offset, which is the start of the line and the column (`lineStart_iff`), and
locations stand in the order of their offsets (`locate_lt_iff`).

The nodes of a template and the faults of a source carry the places of their offsets
(`node_located`, `fault_located`).
-/

namespace BraceTemplate

/-! ## Starts of lines -/

/-- Where the lines of a text start: the first at its start, and each other one behind a line feed,
with a number that counts the line feeds in front. -/
inductive LineStart (source : List Char) : Nat → Nat → Prop
  | first : LineStart source 1 0
  | next {before after : List Char} : source = before ++ '\n' :: after →
      LineStart source (before.count '\n' + 2) (before.length + 1)

/-- The offset behind a line feed is listed behind those of the line feeds in front of it. -/
lemma getElem?_startsBehind (offset : Nat) (before after : List Char) :
    (startsBehind offset (before ++ '\n' :: after))[before.count '\n']? =
      some (offset + before.length + 1) := by
  rw [startsBehind_append, List.getElem?_append_right (length_startsBehind offset before).le,
    length_startsBehind, Nat.sub_self]
  simp [startsBehind]

lemma exists_of_getElem?_startsBehind {offset k s : Nat} {cs : List Char}
    (listed : (startsBehind offset cs)[k]? = some s) :
    ∃ before after, cs = before ++ '\n' :: after ∧ before.count '\n' = k ∧
      offset + before.length + 1 = s := by
  induction cs generalizing offset k with
  | nil => simp [startsBehind] at listed
  | cons c cs ih =>
    unfold startsBehind at listed
    by_cases feed : c = '\n'
    · rw [if_pos feed] at listed
      subst feed
      cases k with
      | zero =>
        refine ⟨[], cs, rfl, rfl, ?_⟩
        simpa using listed
      | succ k =>
        obtain ⟨before, after, rfl, count, place⟩ := ih listed
        refine ⟨'\n' :: before, after, rfl, ?_, ?_⟩
        · rw [List.count_cons_self, count]
        · rw [List.length_cons]
          omega
    · rw [if_neg feed] at listed
      obtain ⟨before, after, rfl, count, place⟩ := ih listed
      refine ⟨c :: before, after, rfl, ?_, ?_⟩
      · rw [List.count_cons_of_ne feed, count]
      · rw [List.length_cons]
        omega

/-- **The table of a source lists the starts of its lines.** -/
theorem getElem?_ofSource_iff {source : List Char} {k s : Nat} :
    (LineTable.ofSource source).starts[k]? = some s ↔ LineStart source (k + 1) s := by
  have entries : (LineTable.ofSource source).starts[k]? = (0 :: startsBehind 0 source)[k]? := by
    simp [LineTable.ofSource]
  rw [entries]
  constructor
  · intro listed
    cases k with
    | zero =>
      obtain rfl : 0 = s := by simpa using listed
      exact .first
    | succ k =>
      obtain ⟨before, after, rfl, rfl, rfl⟩ := exists_of_getElem?_startsBehind listed
      rw [Nat.zero_add]
      exact .next rfl
  · intro start
    generalize number : k + 1 = line at start
    cases start with
    | first =>
      obtain rfl : k = 0 := by omega
      rfl
    | @next before after shape =>
      obtain rfl : k = before.count '\n' + 1 := by omega
      rw [shape, List.getElem?_cons_succ, getElem?_startsBehind, Nat.zero_add]

/-- A line has one start. -/
lemma LineStart.unique {source : List Char} {line s t : Nat} (one : LineStart source line s)
    (other : LineStart source line t) : s = t := by
  obtain ⟨k, rfl⟩ : ∃ k, line = k + 1 := by
    cases one with
    | first => exact ⟨0, rfl⟩
    | next => exact ⟨_, rfl⟩
  have listed := getElem?_ofSource_iff.2 one
  rw [getElem?_ofSource_iff.2 other] at listed
  exact (Option.some.inj listed).symm

/-! ## Locations and offsets -/

section

variable {source : List Char} {i j : Nat}

lemma position_eq_take (within : i ≤ source.length) :
    (LineTable.ofSource source).position i = Position.start.advance (source.take i) := by
  have found := LineTable.position_eq_advance (source.take i) (source.drop i)
  rwa [List.take_append_drop, List.length_take_of_le within] at found

/-- **The table and the text give an offset one location.** -/
theorem locate_eq_position (within : i ≤ source.length) :
    locate source i = (((LineTable.ofSource source).position i).line,
      ((LineTable.ofSource source).position i).column) := by
  rw [locate_eq, position_eq_take within]

/-- The offset of a location is the start of its line and its column. -/
lemma lineStart_iff (within : i ≤ source.length) {s : Nat} :
    LineStart source (locate source i).1 s ↔ s + (locate source i).2 = i := by
  obtain ⟨line, start, listed, sum⟩ := LineTable.line_of_advance (source.take i) (source.drop i)
  rw [List.take_append_drop] at listed
  rw [List.length_take_of_le within] at sum
  have positive : 0 < (Position.start.advance (source.take i)).line := by
    rw [Position.advance_line]
    exact Nat.add_pos_left Nat.one_pos _
  have starts := getElem?_ofSource_iff.1 listed
  rw [Nat.sub_add_cancel positive] at starts
  rw [locate_eq]
  constructor
  · intro other
    rw [← starts.unique other]
    exact sum
  · intro same
    obtain rfl : start = s := by
      dsimp only at same
      omega
    exact starts

lemma before_of_lt (within : j ≤ source.length) (lt : i < j) :
    (Position.start.advance (source.take i)).Before (Position.start.advance (source.take j)) := by
  have split : source.take j = source.take i ++ (source.take j).drop i := by
    conv_lhs => rw [← List.take_append_drop i (source.take j)]
    rw [List.take_take, Nat.min_eq_left lt.le]
  have between : (source.take j).drop i ≠ [] := by
    apply List.ne_nil_of_length_pos
    rw [List.length_drop, List.length_take_of_le within]
    omega
  rw [split, Position.advance_append]
  exact Position.before_advance between

/-- **Locations stand in the order of their offsets.** -/
theorem locate_lt_iff (first : i ≤ source.length) (second : j ≤ source.length) :
    Prod.Lex (· < ·) (· < ·) (locate source i) (locate source j) ↔ i < j := by
  rw [locate_eq, locate_eq, Prod.lex_def]
  constructor
  · intro before
    by_contra later
    rcases Nat.lt_or_eq_of_le (Nat.not_lt.1 later) with lt | rfl
    · exact ((before_of_lt first lt).trans before).ne rfl
    · exact Position.Before.ne before rfl
  · exact before_of_lt second

lemma locate_inj (first : i ≤ source.length) (second : j ≤ source.length) :
    locate source i = locate source j ↔ i = j := by
  constructor
  · intro same
    rcases Nat.lt_trichotomy i j with lt | eq | gt
    · have apart := (before_of_lt second lt).ne
      rw [← locate_eq, ← locate_eq] at apart
      exact absurd same apart
    · exact eq
    · have apart := (before_of_lt first gt).ne
      rw [← locate_eq, ← locate_eq] at apart
      exact absurd same.symm apart
  · rintro rfl
    rfl

end

/-! ## Places of nodes and faults -/

/-- A position stands within a source, and its line and column are those of its offset. -/
structure Located (source : List Char) (p : Position) : Prop where
  within : p.offset ≤ source.length
  place : locate source p.offset = (p.line, p.column)

lemma located_advance (before after : List Char) :
    Located (before ++ after) (Position.start.advance before) := by
  have offset : (Position.start.advance before).offset = before.length := by
    rw [Position.advance_offset, Position.start, Nat.zero_add]
  constructor
  · rw [offset, List.length_append]
    omega
  · rw [offset, locate_eq, List.take_left]

/-- A node starts where its offset is. -/
lemma node_located {source : String} {d : Document} (accepted : parse source = .ok d) {n : Node}
    (visited : n ∈ d.inOrder) : Located source.toList n.span.start := by
  have whole : Derives .start (scan source.toList) d.nodes := (parse_eq_ok_iff.1 accepted).2
  obtain ⟨before, piece, after, shape, start, -⟩ := whole.exists_piece visited
  rw [start, ← sourceOf_scan source.toList, shape, sourceOf_append]
  exact located_advance _ _

/-- A fault is noticed where its offset is. -/
lemma fault_located {source : String} {f : SyntaxFault} (refused : parse source = .error f) :
    Located source.toList f.position := by
  obtain ⟨before, after, shape, place⟩ := directiveAt_of_parse_eq_error refused
  rw [shape, place]
  exact located_advance _ _

/-! ## Main result -/

/-- **The two computations of a location agree, and locations are as good as offsets.**  So every
node of a template and every fault of a source has the line and the column of its offset. -/
theorem locations_agree (source : String) :
    (∀ i ≤ source.toList.length,
      locate source.toList i = (((LineTable.ofSource source.toList).position i).line,
        ((LineTable.ofSource source.toList).position i).column) ∧
      ∀ s, LineStart source.toList (locate source.toList i).1 s ↔
        s + (locate source.toList i).2 = i) ∧
    (∀ k s, (LineTable.ofSource source.toList).starts[k]? = some s ↔
      LineStart source.toList (k + 1) s) ∧
    (∀ i ≤ source.toList.length, ∀ j ≤ source.toList.length,
      (locate source.toList i = locate source.toList j ↔ i = j) ∧
      (Prod.Lex (· < ·) (· < ·) (locate source.toList i) (locate source.toList j) ↔ i < j)) ∧
    (∀ d, parse source = .ok d → d.span.start.offset = 0 ∧ Located source.toList d.span.start ∧
      ∀ n ∈ d.inOrder, Located source.toList n.span.start) ∧
    ∀ f, parse source = .error f → Located source.toList f.position ∧
      ∀ name, (f.diagnose source name).position = f.position.offset ∧
        (f.diagnose source name).place = (f.position.line, f.position.column) := by
  refine ⟨?_, fun k s => getElem?_ofSource_iff, ?_, ?_, ?_⟩
  · intro i within
    exact ⟨locate_eq_position within, fun s => lineStart_iff within⟩
  · intro i first j second
    exact ⟨locate_inj first second, locate_lt_iff first second⟩
  · intro d accepted
    exact ⟨rfl, located_advance [] source.toList, fun n visited => node_located accepted visited⟩
  · intro f refused
    have located := fault_located refused
    exact ⟨located, fun name => ⟨rfl, located.place⟩⟩

/-- A block on the second line of a source. -/
def indentedBlock : String := "a\n\x7b\x7b#if x\x7d\x7d\n\n\x7b\x7by\x7d\x7d"

/-- A line feed still stands on the line that it ends.  Once the block is closed, its variable is at
the start of the fourth line; left open, the block itself is the fault. -/
theorem block_located :
    locate indentedBlock.toList 1 = (1, 1) ∧ LineStart indentedBlock.toList 4 13 ∧
    (∃ d n, parse (indentedBlock ++ "\x7b\x7b/if\x7d\x7d") = .ok d ∧ n ∈ d.inOrder ∧
      n.span.start.offset = 13 ∧
      locate (indentedBlock ++ "\x7b\x7b/if\x7d\x7d").toList 13 =
        (n.span.start.line, n.span.start.column)) ∧
    ∃ f, parse indentedBlock = .error f ∧
      locate indentedBlock.toList 2 = (f.position.line, f.position.column) := by
  let closed := indentedBlock ++ "\x7b\x7b/if\x7d\x7d"
  let n : Node := .conditional ⟨⟨2, 2, 0⟩, 25⟩ "#if x" "x"
    [.text ⟨⟨11, 2, 9⟩, 13⟩ "\n\n", .variable ⟨⟨13, 4, 0⟩, 18⟩ "y"]
  have parsed : parse closed = .ok ⟨25, [.text ⟨⟨0, 1, 0⟩, 2⟩ "a\n", n]⟩ := by cbv
  have refused : parse indentedBlock = .error ⟨.unclosed [.conditional], ⟨2, 2, 0⟩⟩ := by cbv
  have there : Node.variable ⟨⟨13, 4, 0⟩, 18⟩ "y" ∈
      (Document.mk 25 [.text ⟨⟨0, 1, 0⟩, 2⟩ "a\n", n]).inOrder := by
    simp [Document.inOrder, mem_visit_cons, n, Node.children, visit_nil]
  obtain ⟨places, lines, -, -, faults⟩ := locations_agree indentedBlock
  obtain ⟨-, -, -, nodes, -⟩ := locations_agree closed
  refine ⟨?_, ?_, ?_, ?_⟩
  · exact (places 1 (by decide)).1.trans (by cbv)
  · exact (lines 3 13).1 (by decide)
  · exact ⟨_, _, parsed, there, rfl, ((nodes _ parsed).2.2 _ there).place⟩
  · exact ⟨_, refused, (faults _ refused).1.place⟩

end BraceTemplate
