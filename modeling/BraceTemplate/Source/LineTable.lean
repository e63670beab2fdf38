import BraceTemplate.Source.Position

/-!
# Tables of lines

A table of lines lists the offsets at which the lines of a text start.  It is made once for a text,
and the line of an offset is then found by bisection: it is the last one that starts at the offset
or before it.
-/

namespace BraceTemplate

/-- The offsets behind the line feeds of a text that starts at an offset. -/
def startsBehind (offset : Nat) : List Char → List Nat
  | [] => []
  | c :: rest =>
    if c = '\n' then (offset + 1) :: startsBehind (offset + 1) rest
    else startsBehind (offset + 1) rest

theorem lt_of_mem_startsBehind {offset s : Nat} {cs : List Char} (h : s ∈ startsBehind offset cs) :
    offset < s := by
  induction cs generalizing offset with
  | nil => simp [startsBehind] at h
  | cons c cs ih =>
    unfold startsBehind at h
    split at h
    · rcases List.mem_cons.1 h with rfl | later
      · omega
      · have := ih later
        omega
    · have := ih h
      omega

theorem pairwise_startsBehind (offset : Nat) (cs : List Char) :
    (startsBehind offset cs).Pairwise (· < ·) := by
  induction cs generalizing offset with
  | nil => exact .nil
  | cons c cs ih =>
    unfold startsBehind
    split
    · exact .cons (fun s later => lt_of_mem_startsBehind later) (ih _)
    · exact ih _

/-- Where the lines of a text start, in ascending order. -/
structure LineTable where
  starts : Array Nat
  ascending : starts.toList.Pairwise (· < ·)

namespace LineTable

/-- The table of a text.  The first line starts at its start, and the others behind line feeds. -/
def ofSource (source : List Char) : LineTable where
  starts := (0 :: startsBehind 0 source).toArray
  ascending := .cons (fun _ => lt_of_mem_startsBehind) (pairwise_startsBehind 0 source)

/-- How many of the entries are not above an offset, if those in front of `low` are not and those
from `high` on are. -/
def bisect (starts : Array Nat) (offset low high : Nat) (bound : high ≤ starts.size) : Nat :=
  if apart : low < high then
    let middle := (low + high) / 2
    if offset < starts[middle] then bisect starts offset low middle (by omega)
    else bisect starts offset (middle + 1) high bound
  else low
termination_by high - low

/-- The line of an offset, counted from one. -/
def line (t : LineTable) (offset : Nat) : Nat :=
  bisect t.starts offset 0 t.starts.size (Nat.le_refl _)

/-- The place of an offset: its line, and the characters since the start of that line. -/
def position (t : LineTable) (offset : Nat) : Position :=
  ⟨offset, t.line offset, offset - t.starts.getD (t.line offset - 1) 0⟩

end LineTable

end BraceTemplate
