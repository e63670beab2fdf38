import Mathlib.Data.List.Induction
import BraceTemplate.Proofs.Outcome
import BraceTemplate.Template.Parse

/-!
# Places found by bisection

The reader of a source finds the place of an offset in a table of lines.  The bisection counts the
entries that are not above the offset (`bisect_spec`), and the entries of a text are the start of
its first line and the offsets behind its line feeds.  So the place found is the one that counting
through the text leads to (`position_eq_advance`), and a source is read as if the places were
counted on from piece to piece (`parse_eq_foldlM_read`).
-/

namespace BraceTemplate

/-! ## Offsets behind line feeds -/

lemma startsBehind_append (offset : Nat) (as bs : List Char) :
    startsBehind offset (as ++ bs) =
      startsBehind offset as ++ startsBehind (offset + as.length) bs := by
  induction as generalizing offset with
  | nil => rfl
  | cons a as ih =>
    have shift : offset + 1 + as.length = offset + (as.length + 1) := by omega
    simp only [List.cons_append, startsBehind, ih, List.length_cons, shift]
    split <;> rfl

lemma le_of_mem_startsBehind {offset s : Nat} {cs : List Char} (h : s ∈ startsBehind offset cs) :
    s ≤ offset + cs.length := by
  induction cs generalizing offset with
  | nil => simp [startsBehind] at h
  | cons c cs ih =>
    rw [List.length_cons]
    unfold startsBehind at h
    split at h
    · rcases List.mem_cons.1 h with rfl | later
      · omega
      · have := ih later
        omega
    · have := ih h
      omega

lemma length_startsBehind (offset : Nat) (cs : List Char) :
    (startsBehind offset cs).length = cs.count '\n' := by
  induction cs generalizing offset with
  | nil => rfl
  | cons c cs ih =>
    unfold startsBehind
    by_cases feed : c = '\n'
    · rw [if_pos feed, feed, List.length_cons, ih, List.count_cons_self]
    · rw [if_neg feed, ih, List.count_cons_of_ne feed]

/-- The last line of a text starts as many characters before its end as it has. -/
lemma getLast?_starts_add_column (before : List Char) :
    ∃ s, (0 :: startsBehind 0 before).getLast? = some s ∧
      s + (Position.start.advance before).column = before.length := by
  induction before using List.reverseRecOn with
  | nil => exact ⟨0, rfl, rfl⟩
  | append_singleton before c ih =>
    obtain ⟨s, last, sum⟩ := ih
    have place : Position.start.advance (before ++ [c]) = (Position.start.advance before).step c :=
      Position.advance_append .start before [c]
    rw [startsBehind_append, place, Position.step, List.length_append, List.length_singleton]
    by_cases feed : c = '\n'
    · refine ⟨before.length + 1, ?_, ?_⟩
      · have behind : startsBehind (0 + before.length) [c] = [before.length + 1] := by
          simp [startsBehind, feed]
        rw [behind, ← List.cons_append]
        exact List.getLast?_concat
      · rw [if_pos feed]
        rfl
    · refine ⟨s, ?_, ?_⟩
      · simpa [startsBehind, feed] using last
      · rw [if_neg feed]
        dsimp only
        omega

/-! ## Bisection -/

namespace LineTable

/-- **A bisection finds how many entries are not above an offset.** -/
theorem bisect_spec {starts : Array Nat} (ascending : starts.toList.Pairwise (· < ·))
    {offset low high : Nat} (bound : high ≤ starts.size) (ordered : low ≤ high)
    (below : ∀ i, (h : i < starts.size) → i < low → starts[i] ≤ offset)
    (above : ∀ i, (h : i < starts.size) → high ≤ i → offset < starts[i]) :
    bisect starts offset low high bound ≤ starts.size ∧ ∀ i, (h : i < starts.size) →
      (starts[i] ≤ offset ↔ i < bisect starts offset low high bound) := by
  have monotone : ∀ i j, (hi : i < starts.size) → (hj : j < starts.size) → i ≤ j →
      starts[i] ≤ starts[j] := by
    intro i j hi hj le
    rcases Nat.lt_or_eq_of_le le with lt | rfl
    · have less := List.pairwise_iff_getElem.1 ascending i j (by simpa) (by simpa) lt
      exact Nat.le_of_lt (by simpa using less)
    · exact Nat.le_refl _
  fun_induction bisect starts offset low high bound with
  | case1 low high bound apart middle earlier ih =>
    refine ih (by omega) below fun i h later => ?_
    exact Nat.lt_of_lt_of_le earlier (monotone _ _ _ h later)
  | case2 low high bound apart middle later ih =>
    refine ih (by omega) (fun i h earlier => ?_) above
    have inside : middle < starts.size := by omega
    have step := monotone i middle h inside (by omega)
    omega
  | case3 low high bound closed =>
    refine ⟨by omega, fun i h => ⟨fun le => ?_, below i h⟩⟩
    by_contra later
    have := above i h (by omega)
    omega

/-- The line of an offset is the number of the lines that start at the offset or before it. -/
lemma line_eq (t : LineTable) {offset : Nat} {front back : List Nat}
    (shape : t.starts.toList = front ++ back) (below : ∀ s ∈ front, s ≤ offset)
    (above : ∀ s ∈ back, offset < s) : t.line offset = front.length := by
  obtain ⟨bound, counts⟩ : t.line offset ≤ t.starts.size ∧ ∀ i, (h : i < t.starts.size) →
      (t.starts[i] ≤ offset ↔ i < t.line offset) :=
    bisect_spec t.ascending (Nat.le_refl _) (Nat.zero_le _)
      (fun i _ none => absurd none (Nat.not_lt_zero i))
      (fun i inside none => absurd inside (Nat.not_lt.2 none))
  have size : t.starts.size = front.length + back.length := by
    rw [← Array.length_toList, shape, List.length_append]
  have entry : ∀ i, (h : i < t.starts.size) → (front ++ back)[i]? = some t.starts[i] := by
    intro i h
    rw [← shape, Array.getElem?_toList, Array.getElem?_eq_getElem h]
  rcases Nat.lt_trichotomy (t.line offset) front.length with fewer | same | more
  · have there := entry (t.line offset) (by omega)
    rw [List.getElem?_append_left fewer] at there
    have within := (counts _ _).1 (below _ (List.mem_of_getElem? there))
    omega
  · exact same
  · have there := entry front.length (by omega)
    rw [List.getElem?_append_right (Nat.le_refl _)] at there
    have behind := above _ (List.mem_of_getElem? there)
    have within := (counts front.length (by omega)).2 more
    omega

/-- The line that a place is on, and where that line starts. -/
lemma line_of_advance (before after : List Char) :
    (ofSource (before ++ after)).line before.length = (Position.start.advance before).line ∧
      ∃ s, (ofSource (before ++ after)).starts[(Position.start.advance before).line - 1]? = some s ∧
        s + (Position.start.advance before).column = before.length := by
  have shape : (ofSource (before ++ after)).starts.toList =
      (0 :: startsBehind 0 before) ++ startsBehind before.length after := by
    simp [ofSource, startsBehind_append]
  have number : (Position.start.advance before).line = (startsBehind 0 before).length + 1 := by
    rw [Position.advance_line, Position.start, length_startsBehind, Nat.add_comm]
  rw [number, Nat.add_sub_cancel]
  constructor
  · refine line_eq _ shape (fun s there => ?_) fun s there => lt_of_mem_startsBehind there
    rcases List.mem_cons.1 there with rfl | there
    · exact Nat.zero_le _
    · have := le_of_mem_startsBehind there
      omega
  · obtain ⟨s, last, sum⟩ := getLast?_starts_add_column before
    refine ⟨s, ?_, sum⟩
    rw [← Array.getElem?_toList, shape, List.getElem?_append_left (by simp)]
    rw [List.getLast?_eq_getElem?] at last
    simpa using last

/-- **The place found in the table of a source is the one that counting leads to.** -/
theorem position_eq_advance (before after : List Char) :
    (ofSource (before ++ after)).position before.length = Position.start.advance before := by
  obtain ⟨line, s, start, sum⟩ := line_of_advance before after
  have offset : (Position.start.advance before).offset = before.length := by
    rw [Position.advance_offset, Position.start, Nat.zero_add]
  rw [position, line, Array.getD_eq_getD_getElem?, start]
  generalize Position.start.advance before = place at offset sum ⊢
  obtain ⟨_, _, _⟩ := place
  simp only [Option.getD_some, Position.mk.injEq] at offset sum ⊢
  exact ⟨offset.symm, trivial, by omega⟩

end LineTable

/-! ## Reading with a table -/

namespace Reader

lemma position_of_closeBlock {r r' : Reader} {stop : Position} {body : String} {kind : BlockKind}
    (done : r.closeBlock stop body kind = .ok r') : r'.position = stop := by
  unfold closeBlock at done
  split at done
  · split at done
    · cases done
      rfl
    · cases done
  · cases done

/-- A piece that is read leads to the place behind it. -/
lemma position_of_read {r r' : Reader} {piece : Piece} (done : r.read piece = .ok r') :
    r'.position = r.position.advance piece.source := by
  unfold read readTo at done
  split at done
  · cases done
    rfl
  · cases done
  · dsimp only at done
    split at done <;> try cases done <;> rfl
    exact position_of_closeBlock done

/-- In the table of a source, the places found while reading it are those counted on to. -/
lemma foldlM_readWith_eq {source before : List Char} {pieces : List Piece}
    (spells : source = before ++ pieces.flatMap Piece.source) {r : Reader}
    (place : r.position = Position.start.advance before) :
    pieces.foldlM (readWith (LineTable.ofSource source)) r = pieces.foldlM read r := by
  induction pieces generalizing before r with
  | nil => rfl
  | cons piece pieces ih =>
    rw [List.flatMap_cons, ← List.append_assoc] at spells
    have offset : r.position.offset + piece.source.length = (before ++ piece.source).length := by
      rw [place, Position.advance_offset, Position.start, Nat.zero_add, List.length_append]
    have counted : r.position.advance piece.source =
        Position.start.advance (before ++ piece.source) := by
      rw [place, Position.advance_append]
    have same : r.readWith (LineTable.ofSource source) piece = r.read piece := by
      rw [readWith, read, offset, spells, LineTable.position_eq_advance, counted]
    rw [List.foldlM_cons, List.foldlM_cons, same]
    cases done : r.read piece with
    | error f => rfl
    | ok r' => exact ih spells ((position_of_read done).trans counted)

end Reader

/-- **A source is read as if places were counted on from piece to piece.** -/
theorem parse_eq_foldlM_read (source : String) :
    parse source = ((scan source.toList).foldlM Reader.read Reader.start >>= Reader.finish) := by
  have spells : source.toList = [] ++ (scan source.toList).flatMap Piece.source :=
    (flatMap_source_scan source.toList).symm
  rw [parse, Reader.foldlM_readWith_eq spells rfl]

end BraceTemplate
