import BraceTemplate.Proofs.Relocating

/-!
# Templates behind other text

A template may stand further back in a longer source, behind some other text.  Its nodes are then
the same but for their places: offsets grow by the length of that text, lines by its line feeds, and
on the first line columns by what that text has put on it (`Position.behind`).

That is a relocation (`behindAll_eq_relocateAll`).  So the pieces of a template make the moved
forest when reading starts behind the text (`Derives.behind`), and a moved forest is rendered as
before, but for the places of the directives that fail (`renderAll_behind`).
-/

namespace BraceTemplate

/-! ## Positions -/

namespace Position

/-- The place that a position has when its source stands behind some text. -/
def behind (before : List Char) (p : Position) : Position where
  offset := p.offset + before.length
  line := p.line + before.count '\n'
  column := if p.line = 1 then (start.advance before).column + p.column else p.column

/-- A source behind some text starts where that text ends. -/
lemma behind_start (before : List Char) : start.behind before = start.advance before := by
  have offset := advance_offset start before
  have line := advance_line start before
  cases place : start.advance before with
  | mk o l c =>
    rw [place] at offset line
    simp only at offset line
    rw [offset, line, behind, place]
    simp [start]

/-- Lines are counted from one, so the first line has no number but that one. -/
lemma behind_step (before : List Char) {p : Position} (counted : 1 ≤ p.line) (c : Char) :
    (p.step c).behind before = (p.behind before).step c := by
  by_cases feed : c = '\n'
  · have later : p.line + 1 ≠ 1 := by omega
    simp only [step, if_pos feed, behind, if_neg later]
    congr 1 <;> omega
  · simp only [step, if_neg feed, behind]
    congr 1
    · omega
    · split <;> omega

lemma behind_advance (before : List Char) {p : Position} (counted : 1 ≤ p.line) (cs : List Char) :
    (p.advance cs).behind before = (p.behind before).advance cs := by
  induction cs generalizing p with
  | nil => rfl
  | cons c cs ih =>
    have next : 1 ≤ (p.step c).line := by
      rw [step]
      split <;> simp only <;> omega
    rw [advance, List.foldl_cons, ← advance, ih next, behind_step before counted]
    rfl

end Position

/-! ## Nodes -/

/-- A span in a source that stands behind some text. -/
def Span.behind (before : List Char) (span : Span) : Span :=
  ⟨span.start.behind before, span.stop + before.length⟩

mutual
/-- A node in a source that stands behind some text. -/
def Node.behind (before : List Char) : Node → Node
  | .text span content => .text (span.behind before) content
  | .comment span body => .comment (span.behind before) body
  | .variable span name => .variable (span.behind before) name
  | .accessor span body => .accessor (span.behind before) body
  | .loop span body target item children =>
    .loop (span.behind before) body target item (behindAll before children)
  | .conditional span body target children =>
    .conditional (span.behind before) body target (behindAll before children)

def behindAll (before : List Char) : List Node → List Node
  | [] => []
  | n :: rest => n.behind before :: behindAll before rest
end

/-- The end of a rendering, for a template in a source that stands behind some text. -/
def Stop.behind (before : List Char) : Stop → Stop
  | .fault f site => .fault f (site.behind before)
  | .number n => .number n
  | .writing w => .writing w

/-! ## Moving as a relocation -/

/-- The places in a source that stands behind some text. -/
def Relocation.behind (before : List Char) : Relocation :=
  ⟨Position.behind before, (· + before.length)⟩

lemma Relocation.behind_along (before : List Char) {p : Position} (counted : 1 ≤ p.line)
    (cs : List Char) : (Relocation.behind before).Along p (p.behind before) cs := by
  intro xs _
  have place := Position.behind_advance before counted xs
  exact ⟨place, congrArg Position.offset place⟩

lemma behindAll_eq_relocateAll (before : List Char) (nodes : List Node) :
    behindAll before nodes = relocateAll (.behind before) nodes := by
  induction nodes using forest_induction with
  | nil => rw [behindAll, relocateAll]
  | cons n rest ihBelow ihRest =>
    rw [behindAll, relocateAll, ihRest]
    congr 1
    cases n with
    | loop span body target item children | conditional span body target children =>
      rw [Node.behind, Node.relocate, show behindAll before children = _ from ihBelow]
      rfl
    | _ =>
      rw [Node.behind, Node.relocate]
      rfl

lemma Stop.behind_eq_relocate (before : List Char) :
    Stop.behind before = Stop.relocate (.behind before) := by
  funext stop
  cases stop <;> rfl

/-- Read from behind some text, pieces make the moved forest. -/
lemma Derives.behind (before : List Char) {p : Position} {ps : List Piece} {nodes : List Node}
    (h : Derives p ps nodes) (counted : 1 ≤ p.line) :
    Derives (p.behind before) ps (behindAll before nodes) := by
  rw [behindAll_eq_relocateAll]
  exact h.relocate (Relocation.behind_along before counted _)

/-- **A moved forest is rendered as before, but for the places of its failures.** -/
theorem renderAll_behind (g : Graph) (mode : Mode) (before : List Char) (s : Scope)
    (nodes : List Node) :
    renderAll g mode s (behindAll before nodes) =
      (renderAll g mode s nodes).mapError (Stop.behind before) := by
  rw [behindAll_eq_relocateAll, Stop.behind_eq_relocate]
  exact renderAll_relocate (.behind before) g mode s nodes

end BraceTemplate
