import Mathlib
import BraceTemplate.Proofs.Moving
import BraceTemplate.Proofs.Tiling
import BraceTemplate.Render.Template

/-!
# Templates side by side

Two templates written one behind the other are a template, unless the seam makes an opening out of
two single braces.  Its nodes are those of the first and behind them those of the second, moved to
where they stand now; only text in front of the seam and text behind it become one run (`joined`).

So the pieces of the whole are known (`scan_append`) and with them its forest (`derives_append`).
A rendering of the whole is then one of the first template and one of the second.  The main result
`parse_append` says so for the evaluation in a scope and for the calls of whole templates, whose
reports differ by the line alone.
-/

namespace BraceTemplate

/-! ## Pieces at the seam -/

/-- Two rows of pieces side by side.  Text at the end of the first and text at the start of the
second are one run. -/
def joinedPieces : List Piece → List Piece → List Piece
  | [], back => back
  | [.text content], .text content' :: back => .text (content ++ content') :: back
  | piece :: front, back => piece :: joinedPieces front back

lemma sourceOf_joinedPieces (ps qs : List Piece) :
    sourceOf (joinedPieces ps qs) = sourceOf ps ++ sourceOf qs := by
  fun_induction joinedPieces ps qs with
  | case1 qs => rfl
  | case2 content content' qs => simp [Piece.source]
  | case3 piece ps qs others ih =>
    rw [sourceOf_cons, sourceOf_cons, ih, List.append_assoc]

lemma joinedPieces_texts (ps qs : List Piece) (content content' : List Char) :
    joinedPieces (ps ++ [.text content]) (.text content' :: qs) =
      ps ++ .text (content ++ content') :: qs := by
  induction ps with
  | nil => rw [List.nil_append, joinedPieces, List.nil_append]
  | cons piece ps ih =>
    rw [List.cons_append, joinedPieces, ih, List.cons_append]
    simp

lemma joinedPieces_eq_append {ps qs : List Piece}
    (apart : ¬ (ps.getLast?.map Piece.isText = some true ∧
      qs.head?.map Piece.isText = some true)) :
    joinedPieces ps qs = ps ++ qs := by
  fun_induction joinedPieces ps qs with
  | case1 qs => rfl
  | case2 content content' qs => exact absurd ⟨rfl, rfl⟩ apart
  | case3 piece ps qs others ih =>
    rw [ih, List.cons_append]
    rintro ⟨last, first⟩
    refine apart ⟨?_, first⟩
    obtain ⟨q, there, text⟩ := Option.map_eq_some_iff.1 last
    simp [List.getLast?_cons, there, text]

/-- Two rows meet with text at both ends, or they do not. -/
lemma texts_or_apart (ps qs : List Piece) :
    (∃ front content content' back, ps = front ++ [.text content] ∧ qs = .text content' :: back) ∨
      ¬ (ps.getLast?.map Piece.isText = some true ∧ qs.head?.map Piece.isText = some true) := by
  by_cases texts : ps.getLast?.map Piece.isText = some true ∧ qs.head?.map Piece.isText = some true
  · obtain ⟨p, last, isText⟩ := Option.map_eq_some_iff.1 texts.1
    obtain ⟨q, next, isText'⟩ := Option.map_eq_some_iff.1 texts.2
    obtain ⟨front, rfl⟩ := List.getLast?_eq_some_iff.1 last
    obtain ⟨back, rfl⟩ := List.head?_eq_some_iff.1 next
    cases p with
    | text content =>
      cases q with
      | text content' => exact .inl ⟨front, content, content', back, rfl, rfl⟩
      | directive inner | unterminated rest => cases isText'
    | directive inner | unterminated rest => cases isText
  · exact .inr texts

/-- What starts with a directive starts with an opening brace. -/
lemma head?_sourceOf {qs : List Piece} {next : Piece} (first : next ∈ qs.head?)
    (marker : next.isText = false) : (sourceOf qs).head? = some '\x7b' := by
  obtain ⟨rest, rfl⟩ := List.head?_eq_some_iff.1 first
  obtain ⟨others, opens⟩ := Piece.source_of_not_isText marker
  rw [sourceOf_cons, opens]
  rfl

/-- Two divisions are one together, unless two single braces meet. -/
lemma Division.joined {ps qs : List Piece} (front : Division ps) (back : Division qs)
    (readable : ∀ piece ∈ ps, piece.Readable)
    (seam : ¬ ((sourceOf ps).getLast? = some '\x7b' ∧ (sourceOf qs).head? = some '\x7b')) :
    Division (joinedPieces ps qs) := by
  obtain ⟨ps, content, content', qs, rfl, rfl⟩ | apart := texts_or_apart ps qs
  · obtain ⟨full, free⟩ : Piece.Sound (.text content) := front.sound _ (by simp)
    obtain ⟨full', free'⟩ : Piece.Sound (.text content') := back.sound _ (by simp)
    have sound : Piece.Sound (.text (content ++ content')) := by
      refine ⟨by simp [full], noDouble_append.2 ⟨free, free', ?_⟩⟩
      simpa [Piece.source, List.getLast?_append_of_ne_nil _ full,
        List.head?_append_of_ne_nil _ full'] using seam
    have behind : Division (.text (content ++ content') :: qs) := by
      refine (Division.singleton sound).append back.tail ?_
      rintro _ ⟨⟩ q next
      obtain ⟨marker, clear⟩ := (List.isChain_cons.1 back.seams).1 q next
      refine ⟨marker, ?_⟩
      rwa [List.getLast?_append_of_ne_nil _ full']
    rw [joinedPieces_texts]
    refine front.left.append behind ?_
    rintro p last _ ⟨⟩
    have meets : p.Meets (.text content) := front.seam p last _ rfl
    cases p <;> exact meets
  · rw [joinedPieces_eq_append apart]
    refine front.append back ?_
    intro p last q first
    cases marker : q.isText with
    | false =>
      -- a directive begins with a brace, so the text in front of it may not end in one
      have clear : (sourceOf ps).getLast? ≠ some '\x7b' := by
        intro brace
        exact seam ⟨brace, head?_sourceOf first marker⟩
      exact front.meets_marker readable clear marker p last
    | true =>
      cases p with
      | text content =>
        refine absurd ⟨?_, ?_⟩ apart
        · exact Option.map_eq_some_iff.2 ⟨_, last, rfl⟩
        · exact Option.map_eq_some_iff.2 ⟨_, first, marker⟩
      | directive inner => trivial
      | unterminated rest =>
        exact absurd rfl (readable (.unterminated rest) (List.mem_of_getLast? last) .unmatchedOpen)

/-- **The pieces of two sources side by side.** -/
theorem scan_append {a b : List Char} (readable : ∀ piece ∈ scan a, piece.Readable)
    (seam : ¬ (a.getLast? = some '\x7b' ∧ b.head? = some '\x7b')) :
    scan (a ++ b) = joinedPieces (scan a) (scan b) := by
  refine scan_eq_iff.2 ⟨by rw [sourceOf_joinedPieces, sourceOf_scan, sourceOf_scan], ?_⟩
  refine (division_scan a).joined (division_scan b) readable ?_
  rwa [sourceOf_scan, sourceOf_scan]

/-! ## Forests at the seam -/

/-- Two forests side by side.  Text at the end of the first and text at the start of the second are
one run. -/
def joined : List Node → List Node → List Node
  | [], back => back
  | [.text span content], .text span' content' :: back =>
    .text ⟨span.start, span'.stop⟩ (content ++ content') :: back
  | n :: front, back => n :: joined front back

lemma joined_texts (front back : List Node) (span span' : Span) (content content' : String) :
    joined (front ++ [.text span content]) (.text span' content' :: back) =
      front ++ .text ⟨span.start, span'.stop⟩ (content ++ content') :: back := by
  induction front with
  | nil => rw [List.nil_append, joined, List.nil_append]
  | cons n front ih =>
    rw [List.cons_append, joined, ih, List.cons_append]
    simp

lemma joined_eq_append {front back : List Node}
    (apart : ¬ (front.getLast?.map Node.isText = some true ∧
      back.head?.map Node.isText = some true)) :
    joined front back = front ++ back := by
  fun_induction joined front back with
  | case1 back => rfl
  | case2 span content span' content' back => exact absurd ⟨rfl, rfl⟩ apart
  | case3 n front back others ih =>
    rw [ih, List.cons_append]
    rintro ⟨last, first⟩
    refine apart ⟨?_, first⟩
    obtain ⟨m, there, text⟩ := Option.map_eq_some_iff.1 last
    simp [List.getLast?_cons, there, text]

/-- A forest ends with text exactly if its pieces do. -/
lemma Derives.getLast?_isText {p : Position} {ps : List Piece} {nodes : List Node}
    (h : Derives p ps nodes) : nodes.getLast?.map Node.isText = ps.getLast?.map Piece.isText := by
  rw [← List.getLast?_map, ← List.getLast?_map]
  induction h with
  | nil p => rfl
  | leaf isLeaf _ ih =>
    simp only [List.map_cons, List.getLast?_cons, ih, isText_of_role_leaf isLeaf]
  | block _ _ closes _ _ ih =>
    obtain ⟨inner, rfl, -⟩ := exists_of_role_closes closes
    simp only [List.map_cons, List.cons_append, List.map_append, List.getLast?_cons,
      List.getLast?_append, Option.some_or, Option.getD_some, ih, isText_ofBlock]
    rfl

/-- The pieces of two forests side by side are those of the one and then those of the other. -/
lemma Derives.split {p : Position} {ps : List Piece} {ns ms : List Node}
    (h : Derives p ps (ns ++ ms)) :
    ∃ front back, ps = front ++ back ∧ Derives p front ns ∧
      Derives (p.advance (sourceOf front)) back ms := by
  induction ns generalizing p ps with
  | nil => exact ⟨[], ps, rfl, .nil p, h⟩
  | cons n ns ih =>
    rw [List.cons_append] at h
    cases h with
    | @leaf _ piece _ rest _ isLeaf later =>
      obtain ⟨front, back, rfl, first, next⟩ := ih later
      rw [← Position.advance_append] at next
      exact ⟨piece :: front, back, rfl, .leaf isLeaf first, next⟩
    | @block _ first last _ _ _ inside rest _ _ opens within closes later =>
      obtain ⟨front, back, rfl, before, next⟩ := ih later
      have spelled : sourceOf (first :: inside ++ last :: front) =
          sourceOf (first :: inside ++ [last]) ++ sourceOf front := by simp
      have all := Derives.block opens within closes before
      rw [← Position.advance_append, ← spelled] at next
      exact ⟨first :: inside ++ last :: front, back, by simp, all, next⟩

/-- Text at the start of some pieces is the first node of their forest. -/
lemma Derives.of_text_cons {p : Position} {content : List Char} {qs : List Piece}
    {nodes : List Node} (h : Derives p (.text content :: qs) nodes) :
    ∃ back, Derives (p.advance content) qs back ∧
      nodes = .text ⟨p, (p.advance content).offset⟩ (String.ofList content) :: back := by
  generalize shape : Piece.text content :: qs = pieces at h
  cases h with
  | nil => cases shape
  | leaf isLeaf rest =>
    cases shape
    cases isLeaf
    exact ⟨_, rest, rfl⟩
  | block opens _ _ _ =>
    cases shape
    cases opens

/-- Text at the end of some pieces is the last node of their forest. -/
lemma Derives.of_append_text {p : Position} {ps : List Piece} {content : List Char}
    {nodes : List Node} (h : Derives p (ps ++ [.text content]) nodes) :
    ∃ front, Derives p ps front ∧
      nodes = front ++ [.text
        ⟨p.advance (sourceOf ps), ((p.advance (sourceOf ps)).advance content).offset⟩
        (String.ofList content)] := by
  have ends : nodes.getLast?.map Node.isText = some true := by
    rw [h.getLast?_isText, List.getLast?_append]
    rfl
  obtain ⟨n, last, text⟩ := Option.map_eq_some_iff.1 ends
  obtain ⟨front, rfl⟩ := List.getLast?_eq_some_iff.1 last
  obtain ⟨as, bs, shape, before, one⟩ := h.split
  cases one with
  | @leaf _ piece _ rest _ isLeaf none =>
    cases none
    obtain ⟨rfl, single⟩ := List.append_inj' shape rfl
    obtain rfl := List.singleton_inj.1 single
    cases isLeaf
    exact ⟨front, before, rfl⟩
  | block =>
    rw [isText_ofBlock] at text
    cases text

/-- Forests of adjacent pieces, joined, are the forest of the joined pieces. -/
lemma Derives.joined {p : Position} {ps qs : List Piece} {ns ms : List Node}
    (first : Derives p ps ns) (second : Derives (p.advance (sourceOf ps)) qs ms) :
    Derives p (joinedPieces ps qs) (joined ns ms) := by
  obtain ⟨ps, content, content', qs, rfl, rfl⟩ | apart := texts_or_apart ps qs
  · obtain ⟨front, before, rfl⟩ := first.of_append_text
    obtain ⟨back, behind, rfl⟩ := second.of_text_cons
    have isLeaf : (Piece.text (content ++ content')).role =
        .leaf (.text · (String.ofList (content ++ content'))) := rfl
    have place : (p.advance (sourceOf (ps ++ [.text content]))).advance content' =
        (p.advance (sourceOf ps)).advance (content ++ content') := by
      simp [Piece.source, Position.advance_append]
    rw [place] at behind ⊢
    rw [joinedPieces_texts, joined_texts, ← String.ofList_append]
    exact before.append (.leaf isLeaf behind)
  · rw [joinedPieces_eq_append apart]
    rw [← first.getLast?_isText, ← second.head?_isText] at apart
    rw [joined_eq_append apart]
    exact first.append second

/-- **The forest of two sources side by side.** -/
theorem derives_append {a b : List Char} {ns ms : List Node}
    (seam : ¬ (a.getLast? = some '\x7b' ∧ b.head? = some '\x7b'))
    (first : Derives .start (scan a) ns) (second : Derives .start (scan b) ms) :
    Derives .start (scan (a ++ b)) (joined ns (behindAll a ms)) := by
  have moved := second.behind a le_rfl
  rw [Position.behind_start] at moved
  rw [scan_append first.readable seam]
  apply first.joined
  rwa [sourceOf_scan]

/-! ## Renderings -/

/-- A joined forest is rendered as its two parts one after the other. -/
lemma renderAll_joined (g : Graph) (mode : Mode) (s : Scope) (front back : List Node) :
    renderAll g mode s (joined front back) = do
      let text ← renderAll g mode s front
      let text' ← renderAll g mode s back
      return text ++ text' := by
  fun_induction joined front back with
  | case1 back =>
    rw [renderAll, ok_bind]
    cases renderAll g mode s back <;> simp
  | case2 span content span' content' back =>
    simp only [renderAll, Node.render, ok_bind]
    cases renderAll g mode s back <;> simp [String.append_assoc]
  | case3 n front back others ih =>
    simp only [renderAll, ih, bind_assoc, pure_bind, String.append_assoc]

/-- A template that does not tidy its output gives what the evaluation of its nodes writes. -/
lemma render_of_untidied {g : Graph} {t : Template}
    (raw : t.options.normalize.switchesOn g = false) (arguments : List Value)
    (bindings : Entries) :
    t.render g arguments bindings =
      (Template.scope g arguments bindings).mapError .usage >>= fun s =>
        (renderAll g (t.mode g) s t.document.nodes).mapError (·.report g t.name t.source) := by
  simp only [Template.render, raw, Bool.false_eq_true, if_false, bind_pure]

/-! ## Reports from further down -/

/-- The reports are the same but for the line, which is further down, and for the source that they
quote. -/
structure LowerReport (lines : Nat) (d e : RenderDiagnostic) : Prop where
  message : e.message = d.message
  code : e.code = d.code
  subject : e.subject = d.subject
  expression : e.expression = d.expression
  templateName : e.templateName = d.templateName
  line : e.line = d.line.map (· + (lines : Int))

/-- The calls failed in the same way, the second one further down if at a directive. -/
inductive Lowered (lines : Nat) : TemplateError → TemplateError → Prop
  | usage (e : UsageError) : Lowered lines (.usage e) (.usage e)
  | number (n : NumberFault) : Lowered lines (.number n) (.number n)
  | writing (w : WritingFault) : Lowered lines (.writing w) (.writing w)
  | report {d e : RenderDiagnostic} : LowerReport lines d e →
      Lowered lines (.diagnostic (.ofRender d)) (.diagnostic (.ofRender e))

/-- The third outcome is the first one and then the second: both texts, or the first error, where an
error of the second comes from further down. -/
structure Joins (lines : Nat) (x y z : Except TemplateError String) : Prop where
  texts : ∀ text text', x = .ok text → y = .ok text' → z = .ok (text ++ text')
  first : ∀ e, x = .error e → ∃ e', z = .error e' ∧ Lowered 0 e e'
  second : ∀ text e, x = .ok text → y = .error e → ∃ e', z = .error e' ∧ Lowered lines e e'

lemma lowered_fault (g : Graph) (name source source' : Option String) (f : Fault) {lines : Nat}
    {site site' : Span} (below : site'.start.line = site.start.line + lines) :
    Lowered lines ((Stop.fault f site).report g name source)
      ((Stop.fault f site').report g name source') := by
  simp only [Stop.report, Fault.report]
  cases f.message g with
  | error w => exact .writing w
  | ok message =>
    refine .report ⟨rfl, rfl, rfl, rfl, rfl, ?_⟩
    simp only [Fault.diagnoseAt, Option.map_some, below, Nat.cast_add]

lemma lowered_same (g : Graph) (name source source' : Option String) (stop : Stop) :
    Lowered 0 (stop.report g name source) (stop.report g name source') := by
  cases stop with
  | fault f site => exact lowered_fault g name source source' f rfl
  | number n => exact .number n
  | writing w => exact .writing w

lemma lowered_behind (g : Graph) (name source source' : Option String) (before : List Char)
    (stop : Stop) :
    Lowered (before.count '\n') (stop.report g name source)
      ((stop.behind before).report g name source') := by
  cases stop with
  | fault f site => exact lowered_fault g name source source' f rfl
  | number n => exact .number n
  | writing w => exact .writing w

/-- What is put together from two outcomes ends as they do, however the errors are put in other
words. -/
lemma joins_mapError {lines : Nat} {again : Stop → Stop} {say say' say'' : Stop → TemplateError}
    (same : ∀ stop, Lowered 0 (say stop) (say'' stop))
    (below : ∀ stop, Lowered lines (say' stop) (say'' (again stop))) (x y : Except Stop String) :
    Joins lines (x.mapError say) (y.mapError say')
      ((do
        let text ← x
        let text' ← y.mapError again
        return text ++ text').mapError say'') := by
  constructor
  case texts =>
    intro text text' left right
    cases x <;> cases left
    cases y <;> cases right
    rfl
  case first =>
    intro e left
    cases x with
    | ok text => cases left
    | error stop =>
      cases left
      exact ⟨_, rfl, same stop⟩
  case second =>
    intro text e left right
    cases x <;> cases left
    cases y with
    | ok text' => cases right
    | error stop =>
      cases right
      exact ⟨_, rfl, below stop⟩

/-- If nodes are rendered as those of two templates one after the other, calls with them end as the
calls of the two. -/
lemma render_joins {g : Graph} {options : Options} (raw : options.normalize.switchesOn g = false)
    {before : List Char} {da db d : Document}
    (evaluated : ∀ mode s, renderAll g mode s d.nodes = do
      let text ← renderAll g mode s da.nodes
      let text' ← (renderAll g mode s db.nodes).mapError (Stop.behind before)
      return text ++ text')
    (name source₁ source₂ source : Option String) (arguments : List Value) (bindings : Entries) :
    Joins (before.count '\n') (Template.render g ⟨da, options, name, source₁⟩ arguments bindings)
      (Template.render g ⟨db, options, name, source₂⟩ arguments bindings)
      (Template.render g ⟨d, options, name, source⟩ arguments bindings) := by
  let mode : Mode := if options.strict.switchesOn g then .strict else .lenient
  have call : ∀ document source,
      Template.render g ⟨document, options, name, source⟩ arguments bindings =
        (Template.scope g arguments bindings).mapError .usage >>= fun s =>
          (renderAll g mode s document.nodes).mapError (·.report g name source) :=
    fun document source => render_of_untidied raw arguments bindings
  rw [call, call, call]
  cases Template.scope g arguments bindings with
  | error e =>
    -- without a scope nothing is rendered, and the calls fail alike
    constructor
    case texts => rintro text text' ⟨⟩
    case first =>
      rintro _ ⟨⟩
      exact ⟨_, rfl, .usage e⟩
    case second => rintro text e ⟨⟩
  | ok s =>
    simp only [mapError_ok, ok_bind, evaluated]
    exact joins_mapError (lowered_same g name source₁ source)
      (lowered_behind g name source₂ source before) _ _

/-! ## Main result -/

/-- **Templates side by side are one template, which is rendered as the first and then the
second.**  Only an opening brace at the end of the one and at the start of the other would make
something new at the seam. -/
theorem parse_append {a b : String} {da db : Document} (first : parse a = .ok da)
    (second : parse b = .ok db)
    (seam : ¬ (a.toList.getLast? = some '\x7b' ∧ b.toList.head? = some '\x7b')) :
    ∃ d, parse (a ++ b) = .ok d ∧ d.length = da.length + db.length ∧
      d.nodes = joined da.nodes (behindAll a.toList db.nodes) ∧
      (∀ g mode s, renderAll g mode s d.nodes = do
        let text ← renderAll g mode s da.nodes
        let text' ← (renderAll g mode s db.nodes).mapError (Stop.behind a.toList)
        return text ++ text') ∧
      ∀ g options name arguments bindings, options.normalize.switchesOn g = false →
        Joins (a.toList.count '\n')
          (Template.render g ⟨da, options, name, some a⟩ arguments bindings)
          (Template.render g ⟨db, options, name, some b⟩ arguments bindings)
          (Template.render g ⟨d, options, name, some (a ++ b)⟩ arguments bindings) := by
  obtain ⟨size, whole⟩ := parse_eq_ok_iff.1 first
  obtain ⟨size', whole'⟩ := parse_eq_ok_iff.1 second
  let d : Document := ⟨da.length + db.length, joined da.nodes (behindAll a.toList db.nodes)⟩
  have parsed : parse (a ++ b) = .ok d := by
    refine parse_eq_ok_iff.2 ⟨?_, ?_⟩
    · rw [String.toList_append, List.length_append, ← size, ← size']
    · rw [String.toList_append]
      exact derives_append seam whole whole'
  have evaluated : ∀ g mode s, renderAll g mode s d.nodes = do
      let text ← renderAll g mode s da.nodes
      let text' ← (renderAll g mode s db.nodes).mapError (Stop.behind a.toList)
      return text ++ text' := by
    intro g mode s
    rw [renderAll_joined, renderAll_behind]
  refine ⟨d, parsed, rfl, rfl, evaluated, ?_⟩
  intro g options name arguments bindings raw
  exact render_joins raw (evaluated g) name _ _ _ arguments bindings

/-- Two sources with a line feed before a directive, and single braces where they meet. -/
theorem braces_at_seam_append :
    ∃ d, parse ("\n\x7b\x7b x \x7d\x7d\x7b" ++ "\x7d\x7b\x7b y \x7d\x7d") = .ok d ∧
      d.nodes = [.text ⟨⟨0, 1, 0⟩, 1⟩ "\n", .variable ⟨⟨1, 2, 0⟩, 8⟩ "x",
        .text ⟨⟨8, 2, 7⟩, 10⟩ "\x7b\x7d", .variable ⟨⟨10, 2, 9⟩, 17⟩ "y"] := by
  have first : parse "\n\x7b\x7b x \x7d\x7d\x7b" =
      .ok ⟨9, [.text ⟨⟨0, 1, 0⟩, 1⟩ "\n", .variable ⟨⟨1, 2, 0⟩, 8⟩ "x",
        .text ⟨⟨8, 2, 7⟩, 9⟩ "\x7b"]⟩ := by cbv
  have second : parse "\x7d\x7b\x7b y \x7d\x7d" =
      .ok ⟨8, [.text ⟨⟨0, 1, 0⟩, 1⟩ "\x7d", .variable ⟨⟨1, 1, 1⟩, 8⟩ "y"]⟩ := by cbv
  obtain ⟨d, parsed, -, nodes, -⟩ := parse_append first second (by decide)
  refine ⟨d, parsed, ?_⟩
  rw [nodes]
  cbv

end BraceTemplate
