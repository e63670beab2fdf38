/-!
# Positions in a source text

A position is counted in three ways at once: characters from the start, line feeds passed, and
characters since the last of them.  Reading advances a position character by character; `locate`
finds line and column of an offset from the text itself.  Both describe the same place.
-/

namespace BraceTemplate

/-- A place in a source text: offset from zero, line from one, column from zero. -/
structure Position where
  offset : Nat
  line : Nat
  column : Nat
deriving DecidableEq, Repr

namespace Position

/-- The start of a text. -/
def start : Position := ⟨0, 1, 0⟩

/-- The place after one more character. -/
def step (p : Position) (c : Char) : Position :=
  if c = '\n' then ⟨p.offset + 1, p.line + 1, 0⟩ else ⟨p.offset + 1, p.line, p.column + 1⟩

/-- The place after some more text. -/
def advance (p : Position) (cs : List Char) : Position := cs.foldl step p

theorem advance_append (p : Position) (as bs : List Char) :
    p.advance (as ++ bs) = (p.advance as).advance bs :=
  List.foldl_append

theorem advance_offset (p : Position) (cs : List Char) :
    (p.advance cs).offset = p.offset + cs.length := by
  induction cs generalizing p with
  | nil => rfl
  | cons c cs ih =>
    rw [advance, List.foldl_cons, ← advance, ih, step]
    split <;> simp only [List.length_cons] <;> omega

theorem advance_line (p : Position) (cs : List Char) :
    (p.advance cs).line = p.line + cs.count '\n' := by
  induction cs generalizing p with
  | nil => rfl
  | cons c cs ih =>
    rw [advance, List.foldl_cons, ← advance, ih, step]
    by_cases feed : c = '\n'
    · simp only [if_pos feed]
      rw [feed, List.count_cons_self]
      omega
    · simp only [if_neg feed]
      rw [List.count_cons_of_ne feed]

end Position

/-- Line and column of an offset: the line feeds before it, counted from one, and the characters
since the last of them.  Offsets outside the text count as its ends. -/
def locate (source : List Char) (offset : Int) : Nat × Nat :=
  let before := source.take offset.toNat
  (before.count '\n' + 1, (before.reverse.takeWhile (· ≠ '\n')).length)

end BraceTemplate
