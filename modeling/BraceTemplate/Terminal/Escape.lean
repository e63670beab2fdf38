/-!
# Removing control sequences

A control sequence starts with the escape character.  It is either one more character between `@`
and `_` other than an opening square bracket, or an opening square bracket, parameters, intermediate
characters and a final character.  Removal is one pass from left to right: what is removed is not
read again.
-/

namespace BraceTemplate.Terminal

/-- Whether a character lies between two others. -/
def between (low high c : Char) : Bool := low ≤ c && c ≤ high

/-- What follows a control sequence whose escape character has been read; none if there is no
control sequence here. -/
def afterSequence? : List Char → Option (List Char)
  | '[' :: rest =>
    match (rest.dropWhile (between '0' '?')).dropWhile (between ' ' '/') with
    | c :: rest => if between '@' '~' c then some rest else none
    | [] => none
  | c :: rest => if between '@' '_' c then some rest else none
  | [] => none

theorem length_dropWhile_le (p : Char → Bool) (cs : List Char) :
    (cs.dropWhile p).length ≤ cs.length :=
  (List.dropWhile_sublist p).length_le

theorem length_lt_of_afterSequence? {cs rest : List Char} (h : afterSequence? cs = some rest) :
    rest.length < cs.length := by
  unfold afterSequence? at h
  split at h
  · rename_i body
    have shorter := length_dropWhile_le (between ' ' '/') (body.dropWhile (between '0' '?'))
    have short := length_dropWhile_le (between '0' '?') body
    split at h
    · rename_i c tail eq
      rw [eq] at shorter
      split at h
      · simp only [Option.some.injEq] at h
        subst h
        simp only [List.length_cons] at shorter ⊢
        omega
      · simp at h
    · simp at h
  · split at h
    · simp only [Option.some.injEq] at h
      subst h
      simp
    · simp at h
  · simp at h

/-- A text without its control sequences. -/
def stripSequences : List Char → List Char
  | [] => []
  | c :: rest =>
    if c = '\x1b' then
      match _ : afterSequence? rest with
      | some after => stripSequences after
      | none => c :: stripSequences rest
    else c :: stripSequences rest
termination_by cs => cs.length
decreasing_by
  · have := length_lt_of_afterSequence? ‹_›
    simp only [List.length_cons]
    omega
  all_goals simp

/-- A string without its control sequences. -/
def strip (s : String) : String := String.ofList (stripSequences s.toList)

end BraceTemplate.Terminal
