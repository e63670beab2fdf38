import BraceTemplate.Proofs.LineTables
import BraceTemplate.Proofs.Scanning

/-!
# The grammar of templates

`parse` reads pieces from left to right and keeps a stack of half-built blocks.  This file states
the grammar that the stack implements, as a recursive one:

`forest ::= (leaf | opening forest closing)*`

where a leaf is text, a comment, a variable or an accessor, and the closing directive is of the kind
that was opened.

* `Piece.role` is what a piece is to the grammar.
* `Derives` is the grammar with its trees: which pieces, from which position on, make which forest.
* `Balanced` is the grammar of the brackets alone, and decides by itself whether a source is
  accepted.
* `Reader.Holds` is the invariant of the stack: what each open block has collected is a forest of
  the pieces read since it was opened.

The main result `parse_iff_grammar` puts them together: a source is accepted exactly if its pieces
are all readable and its brackets balanced, and the tree is then the one forest of its pieces.
-/

namespace BraceTemplate

/-! ## What a piece is to the grammar -/

/-- The body of a directive: the text between its braces, trimmed. -/
def directiveBody (inner : List Char) : String := String.ofList (Text.trim inner)

/-- The part that a piece plays in a tree. -/
inductive Role
  | leaf (node : Span → Node)
  | opens (body : String) (opening : Opening)
  | closes (body : String) (kind : BlockKind)
  | refused (cause : SyntaxCause)

/-- The role of a directive with a body. -/
def directiveRole (body : String) : Directive → Role
  | .opens opening => .opens body opening
  | .closes kind => .closes body kind
  | .comment => .leaf (.comment · body)
  | .malformed kind => .refused (.malformed kind)
  | .unexpectedClose _ => .refused (.unexpectedClose body)
  | .accessor => .leaf (.accessor · body)
  | .variable => .leaf (.variable · body)

namespace Piece

/-- The role of a piece: directives play the one that their body is classified for. -/
def role : Piece → Role
  | .text content => .leaf (.text · (String.ofList content))
  | .directive inner => directiveRole (directiveBody inner) (classify (directiveBody inner))
  | .unterminated _ => .refused .unmatchedOpen

end Piece

/-- A leaf is a run of text or a directive; its node keeps the text, or the directive's body. -/
lemma exists_of_role_leaf {piece : Piece} {node : Span → Node} (h : piece.role = .leaf node) :
    (∃ content, piece = .text content ∧ node = (.text · (String.ofList content))) ∨
      ∃ inner, piece = .directive inner ∧
        (node = (.comment · (directiveBody inner)) ∨ node = (.variable · (directiveBody inner)) ∨
          node = (.accessor · (directiveBody inner))) := by
  cases piece with
  | text content =>
    cases h
    exact .inl ⟨content, rfl, rfl⟩
  | unterminated rest => cases h
  | directive inner =>
    refine .inr ⟨inner, rfl, ?_⟩
    simp only [Piece.role] at h
    cases meaning : classify (directiveBody inner) <;> rw [meaning] at h <;> cases h
    · exact .inl rfl
    · exact .inr (.inr rfl)
    · exact .inr (.inl rfl)

lemma exists_of_role_opens {piece : Piece} {body : String} {opening : Opening}
    (h : piece.role = .opens body opening) :
    ∃ inner, piece = .directive inner ∧ directiveBody inner = body := by
  cases piece with
  | text content => cases h
  | unterminated rest => cases h
  | directive inner =>
    refine ⟨inner, rfl, ?_⟩
    simp only [Piece.role] at h
    cases meaning : classify (directiveBody inner) <;> rw [meaning] at h <;> cases h
    rfl

lemma exists_of_role_closes {piece : Piece} {body : String} {kind : BlockKind}
    (h : piece.role = .closes body kind) :
    ∃ inner, piece = .directive inner ∧ directiveBody inner = body ∧
      classify body = .closes kind := by
  cases piece with
  | text content => cases h
  | unterminated rest => cases h
  | directive inner =>
    refine ⟨inner, rfl, ?_⟩
    simp only [Piece.role] at h
    cases meaning : classify (directiveBody inner) <;> rw [meaning] at h <;> cases h
    exact ⟨rfl, meaning⟩

lemma span_of_role_leaf {piece : Piece} {node : Span → Node} (h : piece.role = .leaf node)
    (span : Span) : (node span).span = span := by
  obtain ⟨content, rfl, rfl⟩ | ⟨inner, rfl, rfl | rfl | rfl⟩ := exists_of_role_leaf h <;> rfl

lemma children_of_role_leaf {piece : Piece} {node : Span → Node} (h : piece.role = .leaf node)
    (span : Span) : (node span).children = [] := by
  obtain ⟨content, rfl, rfl⟩ | ⟨inner, rfl, rfl | rfl | rfl⟩ := exists_of_role_leaf h <;> rfl

@[simp] lemma span_ofBlock (span : Span) (body : String) (children : List Node)
    (opening : Opening) : (Node.ofBlock span body children opening).span = span := by
  cases opening <;> rfl

@[simp] lemma children_ofBlock (span : Span) (body : String) (children : List Node)
    (opening : Opening) : (Node.ofBlock span body children opening).children = children := by
  cases opening <;> rfl

/-- The source that some pieces stand for. -/
def sourceOf (pieces : List Piece) : List Char := pieces.flatMap Piece.source

@[simp] lemma sourceOf_nil : sourceOf [] = [] := rfl

@[simp] lemma sourceOf_cons (piece : Piece) (pieces : List Piece) :
    sourceOf (piece :: pieces) = piece.source ++ sourceOf pieces :=
  List.flatMap_cons

@[simp] lemma sourceOf_append (ps qs : List Piece) :
    sourceOf (ps ++ qs) = sourceOf ps ++ sourceOf qs :=
  List.flatMap_append

lemma sourceOf_scan (source : List Char) : sourceOf (scan source) = source :=
  flatMap_source_scan source

/-- What reading a piece does, by its role. -/
lemma Reader.read_eq (r : Reader) (piece : Piece) :
    r.read piece = match piece.role with
      | .leaf node => .ok (r.add (r.position.advance piece.source) node)
      | .opens body opening => .ok (r.openBlock (r.position.advance piece.source) body opening)
      | .closes body kind => r.closeBlock (r.position.advance piece.source) body kind
      | .refused cause => .error ⟨cause, r.position⟩ := by
  cases piece with
  | text content => rfl
  | unterminated rest => rfl
  | directive inner =>
    simp only [Reader.read, Reader.readTo, Piece.role, directiveBody]
    cases classify (String.ofList (Text.trim inner)) <;> rfl

/-! ## The grammar and its trees -/

/-- The forest that some pieces make when the first of them starts at a position. -/
inductive Derives : Position → List Piece → List Node → Prop
  | nil (p : Position) : Derives p [] []
  | leaf {p : Position} {piece : Piece} {node : Span → Node} {rest : List Piece}
      {nodes : List Node} :
      piece.role = .leaf node → Derives (p.advance piece.source) rest nodes →
      Derives p (piece :: rest) (node ⟨p, (p.advance piece.source).offset⟩ :: nodes)
  | block {p : Position} {first last : Piece} {body closing : String} {opening : Opening}
      {inside rest : List Piece} {children nodes : List Node} :
      first.role = .opens body opening → Derives (p.advance first.source) inside children →
      last.role = .closes closing opening.kind →
      Derives (p.advance (sourceOf (first :: inside ++ [last]))) rest nodes →
      Derives p (first :: inside ++ last :: rest)
        (Node.ofBlock ⟨p, (p.advance (sourceOf (first :: inside ++ [last]))).offset⟩ body children
          opening :: nodes)

/-- Forests of adjacent pieces stand side by side. -/
lemma Derives.append {p : Position} {ps qs : List Piece} {ns ms : List Node}
    (front : Derives p ps ns) (back : Derives (p.advance (sourceOf ps)) qs ms) :
    Derives p (ps ++ qs) (ns ++ ms) := by
  induction front with
  | nil p => exact back
  | leaf isLeaf _ ih =>
    rw [sourceOf_cons, Position.advance_append] at back
    exact .leaf isLeaf (ih back)
  | @block p first last _ _ _ inside rest _ _ opens within closes _ _ ih =>
    have shape : sourceOf (first :: inside ++ last :: rest) =
        sourceOf (first :: inside ++ [last]) ++ sourceOf rest := by simp
    rw [shape, Position.advance_append] at back
    rw [List.append_assoc, List.cons_append]
    exact .block opens within closes (ih back)

/-- One leaf is a forest. -/
lemma derives_leaf {p : Position} {piece : Piece} {node : Span → Node}
    (isLeaf : piece.role = .leaf node) :
    Derives p [piece] [node ⟨p, (p.advance piece.source).offset⟩] :=
  .leaf isLeaf (.nil _)

/-- One block is a forest. -/
lemma derives_block {p : Position} {first last : Piece} {body closing : String}
    {opening : Opening} {inside : List Piece} {children : List Node}
    (opens : first.role = .opens body opening)
    (within : Derives (p.advance first.source) inside children)
    (closes : last.role = .closes closing opening.kind) :
    Derives p (first :: inside ++ [last])
      [Node.ofBlock ⟨p, (p.advance (sourceOf (first :: inside ++ [last]))).offset⟩ body children
        opening] :=
  .block opens within closes (.nil _)

/-! ## The stack of open blocks -/

/-- What a reader has read: the nodes of the innermost block are the forest of the pieces since its
opening, and the reader as it was before that opening holds the pieces up to it. -/
inductive Reader.Holds : Reader → List Piece → Prop
  | outermost {ps : List Piece} {nodes : List Node} :
      Derives .start ps nodes →
      Holds ⟨Position.start.advance (sourceOf ps), nodes.reverse, []⟩ ps
  | inside {p : Position} {before : List Node} {frames : List Frame} {outer : List Piece}
      {first : Piece} {body : String} {opening : Opening} {ps : List Piece} {nodes : List Node} :
      Holds ⟨p, before, frames⟩ outer → first.role = .opens body opening →
      Derives (p.advance first.source) ps nodes →
      Holds ⟨(p.advance first.source).advance (sourceOf ps), nodes.reverse,
        ⟨opening, body, p, before⟩ :: frames⟩ (outer ++ first :: ps)

namespace Reader

lemma holds_start : start.Holds [] := .outermost (.nil _)

/-- A forest read at the end joins the innermost block. -/
lemma Holds.grow {r : Reader} {ps qs : List Piece} {nodes : List Node} (h : r.Holds ps)
    (more : Derives r.position qs nodes) :
    Holds ⟨r.position.advance (sourceOf qs), nodes.reverse ++ r.recent, r.frames⟩ (ps ++ qs) := by
  cases h with
  | outermost front =>
    have all := front.append more
    simpa only [sourceOf_append, Position.advance_append, List.reverse_append] using
      Holds.outermost all
  | @inside p before frames outer first body opening ps front outside opens within =>
    have all := within.append more
    simpa only [sourceOf_append, Position.advance_append, List.reverse_append, List.append_assoc,
      List.cons_append] using Holds.inside outside opens all

/-- Reading a piece keeps the invariant. -/
lemma Holds.step {r r' : Reader} {ps : List Piece} {piece : Piece} (h : r.Holds ps)
    (done : r.read piece = .ok r') : r'.Holds (ps ++ [piece]) := by
  rw [read_eq] at done
  cases role : piece.role with
  | leaf node =>
    rw [role] at done
    cases done
    simpa [add] using h.grow (derives_leaf role)
  | opens body opening =>
    rw [role] at done
    cases done
    simpa [openBlock, Position.advance] using Holds.inside h role (.nil _)
  | closes closing kind =>
    simp only [role, closeBlock] at done
    cases h with
    | outermost front => cases done
    | @inside p before frames outer first body opening ps nodes outside opens within =>
      simp only at done
      split at done
      · rename_i fits
        cases done
        rw [← fits] at role
        simpa [Position.advance_append] using outside.grow (derives_block opens within role)
      · cases done
  | refused cause =>
    rw [role] at done
    cases done

/-- Reading any row of pieces keeps the invariant. -/
lemma Holds.run {r r' : Reader} {ps qs : List Piece} (h : r.Holds ps)
    (run : qs.foldlM read r = .ok r') : r'.Holds (ps ++ qs) := by
  induction qs generalizing r ps with
  | nil =>
    cases run
    simpa using h
  | cons piece qs ih =>
    rw [List.foldlM_cons, bind_eq_ok_iff] at run
    obtain ⟨next, step, rest⟩ := run
    simpa using ih (h.step step) rest

/-- A forest is read to its end from any state. -/
lemma foldlM_read_of_derives {p : Position} {ps : List Piece} {nodes : List Node}
    (h : Derives p ps nodes) (recent : List Node) (frames : List Frame) :
    ps.foldlM read ⟨p, recent, frames⟩ =
      .ok ⟨p.advance (sourceOf ps), nodes.reverse ++ recent, frames⟩ := by
  induction h generalizing recent frames with
  | nil p => rfl
  | leaf isLeaf _ ih =>
    rw [List.foldlM_cons, read_eq, isLeaf]
    simp only [add]
    rw [ok_bind, ih]
    simp [Position.advance_append]
  | @block p first last body closing opening inside rest children nodes
      opens _ closes _ ihIn ihOut =>
    rw [List.cons_append, List.foldlM_cons, read_eq, opens]
    simp only [openBlock]
    rw [ok_bind, List.foldlM_append, ihIn, ok_bind, List.foldlM_cons, read_eq, closes]
    simp only [closeBlock, if_true]
    rw [ok_bind]
    have place : ((p.advance first.source).advance (sourceOf inside)).advance last.source =
        p.advance (sourceOf (first :: inside ++ [last])) := by simp [Position.advance_append]
    rw [place, List.append_nil, List.reverse_reverse, ihOut]
    simp [Position.advance_append]

end Reader

/-- A source is read as a template exactly if its pieces make a forest, and as that forest. -/
lemma parse_eq_ok_iff {source : String} {d : Document} :
    parse source = .ok d ↔
      d.length = source.toList.length ∧ Derives .start (scan source.toList) d.nodes := by
  rw [parse_eq_foldlM_read, bind_eq_ok_iff]
  constructor
  · rintro ⟨r, run, finished⟩
    have holds := Reader.holds_start.run run
    have spelled := sourceOf_scan source.toList
    rw [List.nil_append] at holds
    generalize scan source.toList = pieces at holds spelled ⊢
    cases holds with
    | outermost whole =>
      cases finished
      rw [List.reverse_reverse]
      refine ⟨?_, whole⟩
      rw [Position.advance_offset, spelled, Position.start, Nat.zero_add]
    | inside => cases finished
  · rintro ⟨size, whole⟩
    have run := Reader.foldlM_read_of_derives whole [] []
    rw [sourceOf_scan, List.append_nil] at run
    refine ⟨_, run, ?_⟩
    rw [Reader.finish, List.reverse_reverse, Position.advance_offset, Position.start, Nat.zero_add,
      ← size]

/-- The pieces of a source make at most one forest. -/
lemma Derives.unique {source : String} {ns ms : List Node}
    (one : Derives .start (scan source.toList) ns)
    (other : Derives .start (scan source.toList) ms) :
    ns = ms := by
  have first := (parse_eq_ok_iff (d := ⟨source.toList.length, ns⟩)).2 ⟨rfl, one⟩
  have second := (parse_eq_ok_iff (d := ⟨source.toList.length, ms⟩)).2 ⟨rfl, other⟩
  rw [first] at second
  cases second
  rfl

/-! ## The grammar of the brackets -/

/-- An opening or a closing directive, by the kind of its block. -/
inductive Bracket
  | opens (kind : BlockKind)
  | closes (kind : BlockKind)
deriving DecidableEq, Repr

/-- Every closing directive closes the innermost block that is open, and none stays open. -/
inductive Balanced : List Bracket → Prop
  | nil : Balanced []
  | block {kind : BlockKind} {inside rest : List Bracket} :
      Balanced inside → Balanced rest →
      Balanced (.opens kind :: inside ++ .closes kind :: rest)

namespace Piece

/-- The bracket that a piece is, if it is one. -/
def bracket? (piece : Piece) : Option Bracket :=
  match piece.role with
  | .opens _ opening => some (.opens opening.kind)
  | .closes _ kind => some (.closes kind)
  | _ => none

/-- A piece is readable unless it is an opening brace without a closing one, a malformed directive,
or a directive that closes what nothing can open. -/
def Readable (piece : Piece) : Prop := ∀ cause, piece.role ≠ .refused cause

lemma bracket?_eq_opens {piece : Piece} {kind : BlockKind}
    (h : piece.bracket? = some (.opens kind)) :
    ∃ body opening, piece.role = .opens body opening ∧ opening.kind = kind := by
  rw [bracket?] at h
  split at h
  · rename_i body opening role
    cases h
    exact ⟨body, opening, role, rfl⟩
  · cases h
  · cases h

lemma bracket?_eq_closes {piece : Piece} {kind : BlockKind}
    (h : piece.bracket? = some (.closes kind)) : ∃ body, piece.role = .closes body kind := by
  rw [bracket?] at h
  split at h
  · cases h
  · rename_i body kind' role
    cases h
    exact ⟨body, role⟩
  · cases h

/-- A readable piece that is no bracket is a leaf. -/
lemma exists_leaf {piece : Piece} (readable : piece.Readable) (h : piece.bracket? = none) :
    ∃ node, piece.role = .leaf node := by
  rw [bracket?] at h
  cases role : piece.role with
  | leaf node => exact ⟨node, rfl⟩
  | opens body opening => rw [role] at h; cases h
  | closes body kind => rw [role] at h; cases h
  | refused cause => exact absurd role (readable cause)

end Piece

/-- The brackets among some pieces. -/
def bracketsOf (pieces : List Piece) : List Bracket := pieces.filterMap Piece.bracket?

/-- The pieces of a forest are readable. -/
lemma Derives.readable {p : Position} {ps : List Piece} {nodes : List Node}
    (h : Derives p ps nodes) : ∀ piece ∈ ps, piece.Readable := by
  induction h with
  | nil p => simp
  | leaf isLeaf _ ih =>
    rintro piece (_ | ⟨_, later⟩) cause
    · simp [isLeaf]
    · exact ih piece later cause
  | block opens _ closes _ ihIn ihOut =>
    intro piece here cause
    simp only [List.cons_append, List.mem_cons, List.mem_append] at here
    rcases here with rfl | within | rfl | later
    · simp [opens]
    · exact ihIn piece within cause
    · simp [closes]
    · exact ihOut piece later cause

/-- The brackets of a forest are balanced. -/
lemma Derives.balanced {p : Position} {ps : List Piece} {nodes : List Node}
    (h : Derives p ps nodes) : Balanced (bracketsOf ps) := by
  induction h with
  | nil p => exact .nil
  | leaf isLeaf _ ih =>
    rw [bracketsOf, List.filterMap_cons_none (by rw [Piece.bracket?, isLeaf])]
    exact ih
  | @block _ first last _ _ opening _ _ _ _ opens _ closes _ ihIn ihOut =>
    have front : first.bracket? = some (.opens opening.kind) := by rw [Piece.bracket?, opens]
    have back : last.bracket? = some (.closes opening.kind) := by rw [Piece.bracket?, closes]
    rw [bracketsOf, List.cons_append, List.filterMap_cons_some front, List.filterMap_append,
      List.filterMap_cons_some back]
    exact .block ihIn ihOut

/-- Readable pieces without brackets are a row of leaves. -/
lemma exists_derives_of_leaves {ps : List Piece} (p : Position)
    (readable : ∀ piece ∈ ps, piece.Readable) (h : ∀ piece ∈ ps, piece.bracket? = none) :
    ∃ nodes, Derives p ps nodes := by
  induction ps generalizing p with
  | nil => exact ⟨[], .nil p⟩
  | cons piece ps ih =>
    rw [List.forall_mem_cons] at readable h
    obtain ⟨node, isLeaf⟩ := Piece.exists_leaf readable.1 h.1
    obtain ⟨nodes, rest⟩ := ih (p.advance piece.source) readable.2 h.2
    exact ⟨_, .leaf isLeaf rest⟩

/-- Readable pieces with balanced brackets make a forest. -/
lemma exists_derives_of_balanced {ps : List Piece} (p : Position)
    (readable : ∀ piece ∈ ps, piece.Readable) (balanced : Balanced (bracketsOf ps)) :
    ∃ nodes, Derives p ps nodes := by
  generalize same : bracketsOf ps = brackets at balanced
  induction balanced generalizing p ps with
  | nil => exact exists_derives_of_leaves p readable (List.filterMap_eq_nil_iff.1 same)
  | @block kind inner _ _ _ ihIn ihOut =>
    -- split the pieces where the block opens, and the rest where it closes
    obtain ⟨leaves, first, ps', rfl, plain, isOpen, same⟩ := List.filterMap_eq_cons_iff.1 same
    obtain ⟨inside, ps'', rfl, within, same⟩ := List.filterMap_eq_append_iff.1 same
    obtain ⟨leaves', last, rest, rfl, plain', isClose, after⟩ := List.filterMap_eq_cons_iff.1 same
    obtain ⟨body, opening, opens, rfl⟩ := Piece.bracket?_eq_opens isOpen
    obtain ⟨closing, closes⟩ := Piece.bracket?_eq_closes isClose
    have covered : bracketsOf (inside ++ leaves') = inner := by
      rw [bracketsOf, List.filterMap_append, within, List.filterMap_eq_nil_iff.2 plain',
        List.append_nil]
    have leafy : ∀ q ∈ leaves, q.Readable := by
      intro q here
      exact readable q (by simp [here])
    have inner' : ∀ q ∈ inside ++ leaves', q.Readable := by
      intro q here
      rw [List.mem_append] at here
      rcases here with here | here
      · exact readable q (by simp [here])
      · exact readable q (by simp [here])
    have outer : ∀ q ∈ rest, q.Readable := by
      intro q here
      exact readable q (by simp [here])
    let opened := p.advance (sourceOf leaves)
    obtain ⟨ns, front⟩ := exists_derives_of_leaves p leafy plain
    obtain ⟨children, middle⟩ := ihIn (opened.advance first.source) inner' covered
    obtain ⟨ms, back⟩ :=
      ihOut (opened.advance (sourceOf (first :: (inside ++ leaves') ++ [last]))) outer after
    have whole := front.append (.block opens middle closes back)
    rw [List.cons_append, List.append_assoc] at whole
    exact ⟨_, whole⟩

/-! ## What a tree shows -/

/-- What a source shows at one place: a run of text, or the body of a directive. -/
inductive Label
  | text (content : String)
  | directive (body : String)
deriving DecidableEq, Repr

/-- The label of a piece that has an end. -/
def Piece.label? : Piece → Option Label
  | .text content => some (.text (String.ofList content))
  | .directive inner => some (.directive (directiveBody inner))
  | .unterminated _ => none

/-- The body of the directive that closes a block. -/
def BlockKind.closingBody (kind : BlockKind) : String := "/" ++ kind.keyword

mutual
/-- The labels of a node and all below it in document order; a block stands between the labels of
its two directives. -/
def Node.labels : Node → List Label
  | .text _ content => [.text content]
  | .comment _ body | .variable _ body | .accessor _ body => [.directive body]
  | .loop _ body _ _ children =>
    .directive body :: labelsAll children ++ [.directive BlockKind.loop.closingBody]
  | .conditional _ body _ children =>
    .directive body :: labelsAll children ++ [.directive BlockKind.conditional.closingBody]

def labelsAll : List Node → List Label
  | [] => []
  | n :: rest => n.labels ++ labelsAll rest
end

lemma labels_ofBlock (span : Span) (body : String) (children : List Node) (opening : Opening) :
    (Node.ofBlock span body children opening).labels =
      .directive body :: labelsAll children ++ [.directive opening.kind.closingBody] := by
  cases opening <;> rw [Node.ofBlock, Node.labels] <;> rfl

/-- Only one body closes a block of a kind. -/
lemma eq_closingBody_of_classify {body : String} {kind : BlockKind}
    (h : classify body = .closes kind) : body = kind.closingBody := by
  revert h
  fun_cases classify body with
  | case2 _ _ same =>
    rintro ⟨⟩
    exact same
  | case3 _ _ _ same =>
    rintro ⟨⟩
    exact same
  | _ => rintro ⟨⟩

lemma label?_of_leaf {piece : Piece} {node : Span → Node} (h : piece.role = .leaf node)
    (span : Span) : ∃ label, piece.label? = some label ∧ (node span).labels = [label] := by
  obtain ⟨content, rfl, rfl⟩ | ⟨inner, rfl, rfl | rfl | rfl⟩ := exists_of_role_leaf h <;>
    exact ⟨_, rfl, by rw [Node.labels]⟩

lemma label?_of_opens {piece : Piece} {body : String} {opening : Opening}
    (h : piece.role = .opens body opening) : piece.label? = some (.directive body) := by
  obtain ⟨inner, rfl, rfl⟩ := exists_of_role_opens h
  rfl

lemma label?_of_closes {piece : Piece} {body : String} {kind : BlockKind}
    (h : piece.role = .closes body kind) : piece.label? = some (.directive kind.closingBody) := by
  obtain ⟨inner, rfl, rfl, meaning⟩ := exists_of_role_closes h
  rw [Piece.label?, eq_closingBody_of_classify meaning]

/-- A tree shows each of its pieces once, in the order of the source. -/
lemma Derives.labels {p : Position} {ps : List Piece} {nodes : List Node}
    (h : Derives p ps nodes) : labelsAll nodes = ps.filterMap Piece.label? := by
  induction h with
  | nil p => rw [labelsAll, List.filterMap_nil]
  | @leaf p piece _ _ _ isLeaf _ ih =>
    obtain ⟨label, here, shown⟩ := label?_of_leaf isLeaf ⟨p, (p.advance piece.source).offset⟩
    rw [labelsAll, shown, ih, List.filterMap_cons_some here, List.singleton_append]
  | block opens _ closes _ ihIn ihOut =>
    rw [labelsAll, labels_ofBlock, ihIn, ihOut]
    simp only [List.cons_append, List.append_assoc, List.nil_append, List.filterMap_append,
      List.filterMap_cons_some (label?_of_opens opens),
      List.filterMap_cons_some (label?_of_closes closes)]

/-! ## Main result -/

/-- **A source is a template exactly if its pieces are readable and its brackets balanced.**  The
pieces are those of the only division into text and directives.  The tree is then the one forest
that the grammar gives them, and shows every run of text and every directive once, in order. -/
theorem parse_iff_grammar (source : String) :
    (∀ pieces, Scanned source.toList pieces ↔ pieces = scan source.toList) ∧
    ((∃ d, parse source = .ok d) ↔
      (∀ piece ∈ scan source.toList, piece.Readable) ∧
        Balanced (bracketsOf (scan source.toList))) ∧
    ∀ d, parse source = .ok d ↔
      d.length = source.toList.length ∧
      Derives .start (scan source.toList) d.nodes ∧
      (∀ nodes, Derives .start (scan source.toList) nodes → nodes = d.nodes) ∧
      labelsAll d.nodes = (scan source.toList).filterMap Piece.label? := by
  refine ⟨fun pieces => scanned_iff, ?_, ?_⟩
  · constructor
    · rintro ⟨d, accepted⟩
      have whole := (parse_eq_ok_iff.1 accepted).2
      exact ⟨whole.readable, whole.balanced⟩
    · rintro ⟨readable, balanced⟩
      obtain ⟨nodes, whole⟩ := exists_derives_of_balanced .start readable balanced
      exact ⟨⟨source.toList.length, nodes⟩, parse_eq_ok_iff.2 ⟨rfl, whole⟩⟩
  · intro d
    rw [parse_eq_ok_iff]
    constructor
    · rintro ⟨size, whole⟩
      exact ⟨size, whole, fun nodes other => other.unique whole, whole.labels⟩
    · rintro ⟨size, whole, -, -⟩
      exact ⟨size, whole⟩

end BraceTemplate
