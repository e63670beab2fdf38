/-!
# Cutting a source into pieces

A template alternates between text and directives.  A directive opens at the leftmost doubled
opening brace and closes at the leftmost doubled closing brace after it; the text between directives
is kept as it stands.  An opening without a closing takes the rest of the source with it.

Nothing is lost: the pieces, written one after the other, are the source.
-/

namespace BraceTemplate

/-- A stretch of a source. -/
inductive Piece
  | text (content : List Char)
  | directive (inner : List Char)
  | unterminated (rest : List Char)
deriving DecidableEq, Repr

namespace Piece

/-- The characters of the source that a piece stands for. -/
def source : Piece → List Char
  | .text content => content
  | .directive inner => '\x7b' :: '\x7b' :: inner ++ ['\x7d', '\x7d']
  | .unterminated rest => '\x7b' :: '\x7b' :: rest

end Piece

/-- What stands before and after the leftmost doubled `mark`. -/
def cutAt (mark : Char) : List Char → Option (List Char × List Char)
  | c :: d :: rest =>
    if c = mark ∧ d = mark then some ([], rest)
    else (cutAt mark (d :: rest)).map fun (before, after) => (c :: before, after)
  | _ => none

theorem eq_of_cutAt {mark : Char} {cs before after : List Char}
    (h : cutAt mark cs = some (before, after)) : cs = before ++ mark :: mark :: after := by
  fun_induction cutAt mark cs generalizing before after with
  | case1 c d rest same =>
    obtain ⟨rfl, rfl⟩ := same
    simp only [Option.some.injEq, Prod.mk.injEq] at h
    obtain ⟨rfl, rfl⟩ := h
    rfl
  | case2 c d rest differ ih =>
    obtain ⟨⟨b, a⟩, found, same⟩ := Option.map_eq_some_iff.1 h
    simp only [Prod.mk.injEq] at same
    obtain ⟨rfl, rfl⟩ := same
    rw [ih found]
    rfl
  | case3 => simp at h

/-- The piece for some text, none if it is empty. -/
def textPiece (cs : List Char) : List Piece := if cs.isEmpty then [] else [.text cs]

/-- The pieces of a source. -/
def scan (source : List Char) : List Piece :=
  match _ : cutAt '\x7b' source with
  | none => textPiece source
  | some (before, after) =>
    match _ : cutAt '\x7d' after with
    | none => textPiece before ++ [.unterminated after]
    | some (inner, rest) => textPiece before ++ .directive inner :: scan rest
termination_by source.length
decreasing_by
  rename_i opened closed
  have lengths := congrArg List.length (eq_of_cutAt opened)
  have := congrArg List.length (eq_of_cutAt closed)
  simp only [List.length_append, List.length_cons] at this lengths
  omega

theorem flatMap_source_textPiece (cs : List Char) : (textPiece cs).flatMap Piece.source = cs := by
  cases cs <;> simp [textPiece, Piece.source]

/-- The pieces spell the source. -/
theorem flatMap_source_scan (source : List Char) : (scan source).flatMap Piece.source = source := by
  fun_induction scan source with
  | case1 source closed => exact flatMap_source_textPiece source
  | case2 source before after opened closed =>
    rw [List.flatMap_append, flatMap_source_textPiece, eq_of_cutAt opened]
    simp [Piece.source]
  | case3 source before after opened inner rest closed ih =>
    rw [List.flatMap_append, flatMap_source_textPiece, List.flatMap_cons, ih, eq_of_cutAt opened,
      eq_of_cutAt closed]
    simp [Piece.source]

end BraceTemplate
