import BraceTemplate.Diagnostic.Basic
import BraceTemplate.Proofs.Controls
import BraceTemplate.Terminal.Escape

/-!
# Colours leave no trace

Stripping a text of its control sequences removes the colours that painting has put around it.  User
text stands between the colours, and may hold escape characters of its own, even the beginning of a
control sequence.  What makes stripping safe is that control sequences do not extend over separators
(`afterSequence?_append`): behind its escape character a sequence has visible ASCII only, so neither
a line feed nor the escape character of a colour can belong to a sequence that began in front of it.
A text is therefore stripped line by line, and each line up to the colour behind it.

The lemmas on the parts of a diagnostic (`strip_paint`, `Snippet.strip_format`) say what is left of
them: the same parts without colours, their user text stripped.  The colours are gone from what they
say, so it is the same for the coloured form and the uncoloured one
(`Diagnostic.strip_compact_colored`).
-/

namespace BraceTemplate

namespace Terminal

/-! ## Separators -/

/-- A character that stands in no control sequence behind its escape character. -/
def Separates (c : Char) : Prop := between ' ' '~' c = false

instance (c : Char) : Decidable (Separates c) :=
  inferInstanceAs (Decidable (between ' ' '~' c = false))

lemma separates_lineFeed : Separates '\n' := by decide

lemma separates_escape : Separates '\x1b' := by decide

/-- A separator lies in no range of visible characters. -/
lemma Separates.between_eq_false {x : Char} (h : Separates x) {low high : Char}
    (least : ' ' ≤ low) (largest : high ≤ '~') : between low high x = false := by
  rw [Separates, between, Bool.and_eq_false_iff, decide_eq_false_iff_not,
    decide_eq_false_iff_not] at h
  rw [between, Bool.and_eq_false_iff, decide_eq_false_iff_not, decide_eq_false_iff_not]
  refine h.imp (fun below above => below ?_) (fun above below => above ?_)
  · exact Char.le_trans least above
  · exact Char.le_trans below largest

lemma dropWhile_append_separator {p : Char → Bool} {x : Char} (outside : p x = false)
    (cs rest : List Char) :
    (cs ++ x :: rest).dropWhile p = cs.dropWhile p ++ x :: rest := by
  induction cs with
  | nil => rw [List.nil_append, List.dropWhile_cons_of_neg (by simp [outside])]; rfl
  | cons c cs ih =>
    by_cases inside : p c = true
    · rw [List.cons_append, List.dropWhile_cons_of_pos inside, ih,
        List.dropWhile_cons_of_pos inside]
    · rw [List.cons_append, List.dropWhile_cons_of_neg inside,
        List.dropWhile_cons_of_neg inside, List.cons_append]

lemma afterSequence?_of_ne_bracket {c : Char} (other : c ≠ '[') (cs : List Char) :
    afterSequence? (c :: cs) = if between '@' '_' c then some cs else none := by
  rw [afterSequence?]
  exact other

/-- A control sequence ends in front of a separator, or is none. -/
lemma afterSequence?_append {x : Char} (h : Separates x) (cs rest : List Char) :
    afterSequence? (cs ++ x :: rest) = (afterSequence? cs).map (· ++ x :: rest) := by
  cases cs with
  | nil =>
    have other : x ≠ '[' := by
      rintro rfl
      exact absurd h (by decide)
    rw [List.nil_append, afterSequence?_of_ne_bracket other,
      h.between_eq_false (by decide) (by decide)]
    rfl
  | cons c cs =>
    by_cases bracket : c = '['
    · subst bracket
      simp only [List.cons_append, afterSequence?]
      rw [dropWhile_append_separator (h.between_eq_false (by decide) (by decide)),
        dropWhile_append_separator (h.between_eq_false (by decide) (by decide))]
      have outside : between '@' '~' x = false := h.between_eq_false (by decide) (by decide)
      cases (cs.dropWhile (between '0' '?')).dropWhile (between ' ' '/') with
      | nil => simp [outside]
      | cons d after => cases last : between '@' '~' d <;> simp [last]
    · rw [List.cons_append, afterSequence?_of_ne_bracket bracket,
        afterSequence?_of_ne_bracket bracket]
      cases between '@' '_' c <;> rfl

/-! ## One pass over a text -/

lemma stripSequences_nil : stripSequences [] = [] := by rw [stripSequences]

lemma stripSequences_cons {c : Char} (other : c ≠ '\x1b') (cs : List Char) :
    stripSequences (c :: cs) = c :: stripSequences cs := by
  rw [stripSequences, if_neg other]

lemma stripSequences_of_sequence {cs after : List Char} (h : afterSequence? cs = some after) :
    stripSequences ('\x1b' :: cs) = stripSequences after := by
  rw [stripSequences, if_pos rfl]
  split
  · rename_i here
    rw [h] at here
    cases here
    rfl
  · rename_i none
    rw [h] at none
    cases none

lemma stripSequences_of_no_sequence {cs : List Char} (h : afterSequence? cs = none) :
    stripSequences ('\x1b' :: cs) = '\x1b' :: stripSequences cs := by
  rw [stripSequences, if_pos rfl]
  split
  · rename_i some
    rw [h] at some
    cases some
  · rfl

/-- **What stands in front of a separator is stripped by itself.** -/
theorem stripSequences_append {x : Char} (h : Separates x) (cs rest : List Char) :
    stripSequences (cs ++ x :: rest) = stripSequences cs ++ stripSequences (x :: rest) := by
  -- along the pass: where a sequence is found in the front alone, it is found in the whole text
  fun_induction stripSequences cs with
  | case1 => rfl
  | case2 cs after found ih =>
    rw [List.cons_append, stripSequences_of_sequence, ih]
    rw [afterSequence?_append h, found]
    rfl
  | case3 cs none ih =>
    rw [List.cons_append, stripSequences_of_no_sequence, ih, List.cons_append]
    rw [afterSequence?_append h, none]
    rfl
  | case4 c cs other ih => rw [List.cons_append, stripSequences_cons other, ih, List.cons_append]

/-- A text without escape characters stays as it is in front of any other. -/
lemma stripSequences_append_of_free {cs : List Char} (free : '\x1b' ∉ cs) (rest : List Char) :
    stripSequences (cs ++ rest) = cs ++ stripSequences rest := by
  induction cs with
  | nil => rfl
  | cons c cs ih =>
    rw [List.mem_cons, not_or] at free
    rw [List.cons_append, stripSequences_cons (Ne.symm free.1), ih free.2, List.cons_append]

/-! ## Colours -/

lemma toList_sequence (c : Color) :
    c.sequence.toList = '\x1b' :: '[' :: c.number.toList ++ ['m'] := by
  simp [Color.sequence]

/-- The sequence of a colour is a control sequence, whatever follows. -/
lemma stripSequences_color (c : Color) (rest : List Char) :
    stripSequences (c.sequence.toList ++ rest) = stripSequences rest := by
  have digits : ∀ d ∈ c.number.toList, between '0' '?' d = true := by
    rw [← List.all_eq_true]
    cases c <;> decide
  have found : afterSequence? ('[' :: c.number.toList ++ 'm' :: rest) = some rest := by
    rw [List.cons_append, afterSequence?, List.dropWhile_append_of_pos digits]
    rfl
  rw [toList_sequence, List.append_assoc, List.cons_append]
  exact stripSequences_of_sequence found

lemma stripSequences_colors (colors : List Color) (rest : List Char) :
    stripSequences ((String.join (colors.map Color.sequence)).toList ++ rest) =
      stripSequences rest := by
  induction colors with
  | nil => rfl
  | cons c colors ih =>
    rw [List.map_cons, String.join_cons, String.toList_append, List.append_assoc,
      stripSequences_color, ih]

/-- A text that holds no escape character. -/
def EscapeFree (s : String) : Prop := '\x1b' ∉ s.toList

instance (s : String) : Decidable (EscapeFree s) :=
  inferInstanceAs (Decidable ('\x1b' ∉ s.toList))

lemma escapeFree_append {s t : String} : EscapeFree (s ++ t) ↔ EscapeFree s ∧ EscapeFree t := by
  rw [EscapeFree, String.toList_append, List.mem_append, not_or]
  rfl

lemma escapeFree_of_noControl {s : String} (free : Text.NoControl s.toList) : EscapeFree s :=
  free.not_mem (by decide)

lemma strip_empty : strip "" = "" := by
  rw [strip, String.toList_empty, stripSequences]

lemma strip_append_of_free {s : String} (free : EscapeFree s) (t : String) :
    strip (s ++ t) = s ++ strip t := by
  rw [strip, String.toList_append, stripSequences_append_of_free free, String.ofList_append,
    String.ofList_toList]
  rfl

lemma strip_of_free {s : String} (free : EscapeFree s) : strip s = s := by
  have whole := strip_append_of_free free ""
  rwa [strip_empty, String.append_empty] at whole

/-- **Stripping removes the colours around a text**, and strips the text. -/
theorem strip_paint (colored : Bool) (colors : List Color) (text : String) :
    strip (paint colored colors text) = strip text := by
  unfold paint
  split
  · -- the reset sequence begins with a separator: no sequence of the text swallows its beginning
    have reset := stripSequences_color .reset []
    rw [toList_sequence, List.append_nil] at reset
    rw [strip, String.toList_append, String.toList_append, List.append_assoc,
      stripSequences_colors, toList_sequence]
    simp only [List.cons_append] at reset ⊢
    rw [stripSequences_append separates_escape, reset, stripSequences, List.append_nil]
    rfl
  · rfl

/-- A painted text without escape characters in front of any other text. -/
lemma strip_paint_append (colored : Bool) (colors : List Color) {text : String}
    (free : EscapeFree text) (t : String) :
    strip (paint colored colors text ++ t) = text ++ strip t := by
  unfold paint
  split
  · rw [strip, String.toList_append, String.toList_append, String.toList_append,
      List.append_assoc, List.append_assoc, stripSequences_colors,
      stripSequences_append_of_free free, stripSequences_color, String.ofList_append,
      String.ofList_toList]
    rfl
  · exact strip_append_of_free free t

/-- **A text is stripped line by line.** -/
theorem strip_intercalate (lines : List String) :
    strip ("\n".intercalate lines) = "\n".intercalate (lines.map strip) := by
  induction lines with
  | nil => exact strip_empty
  | cons line lines ih =>
    cases lines with
    | nil => simp
    | cons next lines =>
      have feed : strip ("\n" ++ "\n".intercalate (next :: lines)) =
          "\n" ++ strip ("\n".intercalate (next :: lines)) := strip_append_of_free (by decide) _
      have seam (s t : String) : strip (s ++ ("\n" ++ t)) = strip s ++ strip ("\n" ++ t) := by
        simp [strip, stripSequences_append separates_lineFeed]
      rw [String.intercalate_cons_cons, String.append_assoc, seam, feed, ih]
      simp only [List.map_cons, String.intercalate_cons_cons, String.append_assoc]

end Terminal

open Terminal

/-! ## Snippets -/

namespace Snippet

/-- A snippet with its lines stripped. -/
def stripped (s : Snippet) : Snippet :=
  { s with lines := s.lines.map fun line => (line.1, strip line.2) }

lemma strip_margin (colored : Bool) : strip (margin colored) = margin false :=
  (strip_paint colored [.dim] "   |").trans (strip_of_free (by decide))

lemma escapeFree_lineLabel (isError : Bool) (number : Int) :
    EscapeFree (lineLabel isError number) := by
  have blanks (n : Nat) : EscapeFree (String.ofList (List.replicate n ' ')) := by
    rw [EscapeFree, String.toList_ofList]
    simp
  refine escapeFree_append.2 ⟨escapeFree_append.2 ⟨?_, blanks _⟩,
    escapeFree_of_noControl (Text.noControl_toString number)⟩
  cases isError <;> decide

lemma strip_formatLine (colored : Bool) (number : Int) (content : String) (isError : Bool) :
    strip (formatLine colored number content isError) =
      formatLine false number (strip content) isError := by
  have bar : EscapeFree " | " := by decide
  unfold formatLine
  rw [String.append_assoc, strip_paint_append _ _ (escapeFree_lineLabel isError number),
    strip_append_of_free bar, ← String.append_assoc]
  cases isError
  · exact congrArg _ (strip_paint colored [.dim] content)
  · exact congrArg _ (strip_paint colored [.brightRed] content)

lemma strip_caretLine (colored : Bool) (column : Int) :
    strip (caretLine colored column) = caretLine false column := by
  have caret : EscapeFree (String.ofList (List.replicate column.toNat ' ') ++ "^") := by
    simp [EscapeFree]
  unfold caretLine
  rw [String.append_assoc, margin, faint, strip_paint_append _ _ (by decide),
    strip_append_of_free (by decide), strong, strip_paint, strip_of_free caret,
    ← String.append_assoc]
  rfl

/-- What a snippet writes for one of its lines: the line, and the caret if it holds the error. -/
def entryLines (colored : Bool) (errorLine : Int) (column : Option Int) (line : Int × String) :
    List String :=
  formatLine colored line.1 line.2 (line.1 == errorLine) ::
    (if line.1 == errorLine then (column.map (caretLine colored)).toList else [])

lemma formatLines_eq (colored : Bool) (s : Snippet) :
    s.formatLines colored =
      margin colored :: s.lines.flatMap (entryLines colored s.errorLine s.column) ++
        [margin colored] := rfl

lemma strip_entryLines (colored : Bool) (errorLine : Int) (column : Option Int)
    (line : Int × String) :
    (entryLines colored errorLine column line).map strip =
      entryLines false errorLine column (line.1, strip line.2) := by
  rw [entryLines, entryLines, List.map_cons, strip_formatLine]
  refine congrArg (_ :: ·) ?_
  cases line.1 == errorLine <;> cases column <;> simp [strip_caretLine]

lemma strip_formatLines (colored : Bool) (s : Snippet) :
    (s.formatLines colored).map strip = s.stripped.formatLines false := by
  simp only [formatLines_eq, stripped, List.map_append, List.map_cons, List.map_nil,
    List.map_flatMap, List.flatMap_map, strip_margin, strip_entryLines]

/-- **Stripping a snippet leaves the uncoloured one, with its lines stripped.** -/
theorem strip_format (colored : Bool) (s : Snippet) :
    strip (s.format colored) = s.stripped.format false := by
  rw [format, strip_intercalate, strip_formatLines, format]

lemma stripped_of_free {s : Snippet} (free : ∀ line ∈ s.lines, EscapeFree line.2) :
    s.stripped = s := by
  have same : s.lines.map (fun line => (line.1, strip line.2)) = s.lines.map id :=
    List.map_congr_left fun line there => by rw [strip_of_free (free line there)]; rfl
  rw [stripped, same, List.map_id]

end Snippet

/-! ## Diagnostics -/

lemma headline_some (colored : Bool) (code : ErrorCode) (message : String) :
    headline colored (some code.text) message =
      strong colored code.text ++ ": " ++ message := by
  cases code <;> rfl

lemma escapeFree_text (code : ErrorCode) : EscapeFree code.text := by cases code <;> decide

lemma strip_headline (colored : Bool) (code : Option ErrorCode) (message : String) :
    strip (headline colored (code.map ErrorCode.text) message) =
      headline false (code.map ErrorCode.text) (strip message) := by
  cases code with
  | none => rfl
  | some code =>
    rw [Option.map_some, headline_some, headline_some, String.append_assoc, strong,
      strip_paint_append _ _ (escapeFree_text code), strip_append_of_free (by decide),
      ← String.append_assoc]
    rfl

lemma strip_label_place (colored : Bool) {label : String} (free : EscapeFree label)
    (text : String) : strip (label ++ place colored text) = label ++ strip text := by
  rw [strip_append_of_free free, place, strip_paint]

namespace SyntaxDiagnostic

/-- A report on a source without what is in colour. -/
lemma strip_compact (colored : Bool) (d : SyntaxDiagnostic) :
    strip (d.compact colored) = "\n".intercalate [
      headline false (d.code.map ErrorCode.text) (strip d.fullMessage),
      "  --> " ++ strip d.location,
      (Snippet.build d.source d.place.1 1 (some d.place.2)).stripped.format false] := by
  rw [compact, strip_intercalate, List.map_cons, List.map_cons, List.map_cons, List.map_nil,
    strip_headline, strip_label_place colored (by decide), Snippet.strip_format]

/-- The texts of a report on a source hold no escape character. -/
def EscapeFree (d : SyntaxDiagnostic) : Prop :=
  Terminal.EscapeFree d.message ∧ Terminal.EscapeFree d.source ∧
    ∀ name ∈ d.name, Terminal.EscapeFree name

end SyntaxDiagnostic

namespace RenderDiagnostic

/-- The texts of a report on a rendering hold no escape character. -/
def EscapeFree (d : RenderDiagnostic) : Prop :=
  Terminal.EscapeFree d.message ∧ (∀ e ∈ d.expression, Terminal.EscapeFree e) ∧
    (∀ name ∈ d.templateName, Terminal.EscapeFree name) ∧
    ∀ s ∈ d.snippet, ∀ line ∈ s.lines, Terminal.EscapeFree line.2

/-- The line with the directive that failed. -/
def expressionLines (d : RenderDiagnostic) : List String :=
  match d.expression with
  | none | some "" => []
  | some e => ["  Expression: \x7b\x7b " ++ e ++ " \x7d\x7d"]

/-- The line with advice. -/
def hintLines (colored : Bool) (d : RenderDiagnostic) : List String :=
  if d.wantsData then
    ["  " ++ hint colored "Hint:" ++ " pass the value in the data context, " ++
      "or render with strict_var_mode=False"]
  else []

lemma compact_eq (colored : Bool) (d : RenderDiagnostic) :
    d.compact colored = "\n".intercalate (
      [headline colored (d.code.map ErrorCode.text) d.message,
        "  Location: " ++ place colored d.location] ++
      (d.snippet.map (·.format colored)).toList ++ d.expressionLines ++ d.hintLines colored) := rfl

lemma strip_hintLines (colored : Bool) (d : RenderDiagnostic) :
    (d.hintLines colored).map strip = d.hintLines false := by
  unfold hintLines
  split
  · rw [List.map_cons, List.map_nil, String.append_assoc, String.append_assoc,
      strip_append_of_free (by decide), hint, strip_paint_append _ _ (by decide),
      strip_of_free (by decide)]
    rfl
  · rfl

/-- A report on a rendering without what is in colour. -/
lemma strip_compact (colored : Bool) (d : RenderDiagnostic) :
    strip (d.compact colored) = "\n".intercalate (
      [headline false (d.code.map ErrorCode.text) (strip d.message),
        "  Location: " ++ strip d.location] ++
      (d.snippet.map (·.stripped.format false)).toList ++ d.expressionLines.map strip ++
        d.hintLines false) := by
  have snippet : (d.snippet.map (·.format colored)).toList.map strip =
      (d.snippet.map (·.stripped.format false)).toList := by
    cases d.snippet with
    | none => rfl
    | some s => exact congrArg ([·]) (Snippet.strip_format colored s)
  have label : Terminal.EscapeFree "  Location: " := by decide
  rw [compact_eq, strip_intercalate]
  simp only [List.map_append, List.map_cons, List.map_nil, strip_headline, strip_hintLines,
    strip_label_place colored label, snippet]

end RenderDiagnostic

/-! ## Texts of a diagnostic without escape characters -/

lemma escapeFree_shownName {name : Option String} (free : ∀ s ∈ name, EscapeFree s) :
    EscapeFree (shownName name) := by
  unfold shownName
  split
  · decide
  · decide
  · exact free _ rfl

lemma Snippet.escapeFree_build {source : String} (free : EscapeFree source)
    (errorLine context : Int) (column : Option Int) :
    ∀ line ∈ (build source errorLine context column).lines, EscapeFree line.2 := by
  intro line there
  have numbered := List.mem_of_mem_take (List.mem_of_mem_drop there)
  obtain ⟨⟨cs, i⟩, indexed, rfl⟩ := List.mem_map.1 numbered
  have shown : cs ∈ _ := List.fst_mem_of_mem_zipIdx indexed
  rw [EscapeFree, String.toList_ofList]
  intro escape
  split at shown
  · rw [List.mem_singleton.1 shown] at escape
    cases escape
  · exact free (Text.mem_of_mem_displayLines shown escape)

namespace SyntaxDiagnostic

lemma escapeFree_fullMessage {d : SyntaxDiagnostic} (free : d.EscapeFree) :
    Terminal.EscapeFree d.fullMessage :=
  escapeFree_append.2 ⟨escapeFree_append.2 ⟨free.1, by decide⟩,
    escapeFree_of_noControl (Text.noControl_jsonQuote _)⟩

lemma escapeFree_location {d : SyntaxDiagnostic} (free : d.EscapeFree) :
    Terminal.EscapeFree d.location := by
  have number (n : Nat) : Terminal.EscapeFree n.repr :=
    escapeFree_of_noControl (Text.noControl_natRepr n)
  have name := escapeFree_shownName free.2.2
  rw [location]
  simp only [escapeFree_append, toString]
  exact ⟨⟨⟨⟨name, by decide⟩, number _⟩, by decide⟩, number _⟩

lemma strip_compact_of_free (colored : Bool) {d : SyntaxDiagnostic} (free : d.EscapeFree) :
    strip (d.compact colored) = d.compact false := by
  rw [strip_compact, strip_of_free (escapeFree_fullMessage free),
    strip_of_free (escapeFree_location free),
    Snippet.stripped_of_free (Snippet.escapeFree_build free.2.1 _ _ _)]
  rfl

end SyntaxDiagnostic

namespace RenderDiagnostic

lemma escapeFree_location {d : RenderDiagnostic} (free : d.EscapeFree) :
    Terminal.EscapeFree d.location := by
  refine escapeFree_append.2 ⟨escapeFree_shownName free.2.2.1, ?_⟩
  split
  · decide
  · decide
  · exact escapeFree_append.2 ⟨by decide, escapeFree_of_noControl (Text.noControl_toString _)⟩

lemma escapeFree_expressionLines {d : RenderDiagnostic} (free : d.EscapeFree) :
    ∀ line ∈ d.expressionLines, Terminal.EscapeFree line := by
  unfold expressionLines
  split
  · simp
  · simp
  · rename_i e _ given
    rintro _ (_ | ⟨_, ⟨⟩⟩)
    exact escapeFree_append.2 ⟨escapeFree_append.2 ⟨by decide, free.2.1 e given⟩, by decide⟩

lemma strip_compact_of_free (colored : Bool) {d : RenderDiagnostic} (free : d.EscapeFree) :
    strip (d.compact colored) = d.compact false := by
  have expression : d.expressionLines.map strip = d.expressionLines.map id :=
    List.map_congr_left fun line there => strip_of_free (escapeFree_expressionLines free line there)
  have snippet : d.snippet.map (·.stripped.format false) = d.snippet.map (·.format false) := by
    refine Option.map_congr fun s given => ?_
    rw [Snippet.stripped_of_free (free.2.2.2 s given)]
  rw [strip_compact, strip_of_free free.1, strip_of_free (escapeFree_location free), expression,
    List.map_id, snippet, compact_eq]
  rfl

end RenderDiagnostic

namespace Diagnostic

/-- The texts of a diagnostic hold no escape character: its message, the names, the expression, the
source and the lines that it quotes. -/
def EscapeFree : Diagnostic → Prop
  | .plain message _ => Terminal.EscapeFree message
  | .ofSource d => d.EscapeFree
  | .ofRender d => d.EscapeFree

/-- **Colours never change what a diagnostic says.**  Stripped, the coloured form is the same as the
uncoloured one, whatever the texts in it; and if these hold no escape character, both are the
uncoloured form as it stands. -/
theorem strip_compact_colored (d : Diagnostic) :
    strip (d.compact true) = strip (d.compact false) ∧
      (d.EscapeFree → strip (d.compact true) = d.compact false ∧
        strip (d.compact false) = d.compact false) := by
  cases d with
  | plain message code =>
    refine ⟨?_, fun free => ?_⟩
    · rw [compact, compact, strip_headline, strip_headline]
    · rw [compact, compact, strip_headline, strip_headline, strip_of_free free]
      exact ⟨rfl, rfl⟩
  | ofSource d =>
    refine ⟨?_, fun free => ⟨d.strip_compact_of_free true free, d.strip_compact_of_free false free⟩⟩
    rw [compact, compact, d.strip_compact, d.strip_compact]
  | ofRender d =>
    refine ⟨?_, fun free => ⟨d.strip_compact_of_free true free, d.strip_compact_of_free false free⟩⟩
    rw [compact, compact, d.strip_compact, d.strip_compact]

/-- A quoted line that ends in an unfinished control sequence takes no colour behind it along, and
a report without escape characters comes back as it was. -/
theorem unfinished_sequence_strips_alike :
    let report (line : String) : Diagnostic := .ofRender ⟨"m", some .missingVariable, .unspecified,
      some "x", none, some 1, some ⟨[(1, line)], 1, some 0⟩⟩
    strip ((report "a\x1b[3").compact true) = strip ((report "a\x1b[3").compact false) ∧
      (report "a").EscapeFree ∧ strip ((report "a").compact true) = (report "a").compact false ∧
      (report "a").compact true ≠ (report "a").compact false := by
  intro report
  have free : (report "a").EscapeFree := by
    refine ⟨by decide, ?_, nofun, ?_⟩
    · rintro _ ⟨⟩
      decide
    · rintro _ ⟨⟩ line there
      rw [List.mem_singleton.1 there]
      decide
  refine ⟨(strip_compact_colored _).1, free, ((strip_compact_colored _).2 free).1, ?_⟩
  decide

end Diagnostic

end BraceTemplate
