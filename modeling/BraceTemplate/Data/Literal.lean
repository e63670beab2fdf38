import BraceTemplate.Data.Kind

/-!
# Displayed data

The literal of a value shows it with its structure: texts in quotes, lists in square, tuples in
round and mappings in curly brackets.  Such a collection inside itself is shown by three dots
between its brackets.  A scope is written out wherever it occurs, so one that comes back with only
scopes on the way would be written without end, and is refused.
-/

namespace BraceTemplate

/-- The mark for a collection that is already being displayed. -/
def Collection.ellipsis : Collection → String
  | .list _ => "[...]"
  | .tuple _ => "(...)"
  | .map _ | .scope _ => "{...}"

/-- Items between square brackets. -/
def squareBrackets (items : List String) : String := "[" ++ ", ".intercalate items ++ "]"

/-- Items between curly brackets. -/
def curlyBrackets (items : List String) : String := "\x7b" ++ ", ".intercalate items ++ "\x7d"

/-- The bindings of a scope between its brackets. -/
def scopeBrackets (items : List String) : String := "Scope(" ++ curlyBrackets items ++ ")"

/-- A binding as displayed data shows it, from what is shown of its key and of its value. -/
def bindingLiteral (key value : Except WritingFault String) : Except WritingFault String :=
  return (← key) ++ ": " ++ (← value)

namespace Value

/-- A value as displayed data shows it, on a walk that is inside of some collections and since the
last of them has opened some scopes. -/
def literalInside (g : Graph) (inside opened : List Nat) : Value → Except WritingFault String
  | .null => .ok "None"
  | .undefined => .ok "UNDEFINED"
  | .bool b => .ok (if b then "True" else "False")
  | .int n => integerText n
  | .float x => .ok x.literal
  | .decimal s _ => .ok (Text.decimalLiteral s)
  | .complex re im => .ok (Binary64.complexLiteral re im)
  | .text s => .ok (Text.literalQuote s)
  | .bytes bs _ => .ok (Text.bytesLiteral bs)
  | .object _ display _ _ => .ok display
  | .scope layers =>
    scopeBrackets <$> (Scope.merged layers).attach.mapM fun ⟨e, _⟩ =>
      bindingLiteral e.1.literal (literalInside g inside opened e.2)
  | .collection place =>
    match _ : g.enter? inside place with
    | some (.list vs) => squareBrackets <$> vs.mapM fun v => literalInside g (place :: inside) [] v
    | some (.tuple vs) =>
      Key.roundBrackets <$> vs.mapM fun v => literalInside g (place :: inside) [] v
    | some (.map es) =>
      curlyBrackets <$> es.mapM fun e =>
        bindingLiteral e.1.literal (literalInside g (place :: inside) [] e.2)
    | some (.scope layers) =>
      if _ : place ∈ opened then .error .endless
      else
        scopeBrackets <$> (Scope.merged layers).mapM fun e =>
          bindingLiteral e.1.literal (literalInside g inside (place :: opened) e.2)
    | none => .ok (((g.at? place).map Collection.ellipsis).getD "None")
termination_by v => (g.unentered inside, g.unentered opened, sizeOf v)
decreasing_by
  · exact .right _ (.right _ (Value.sizeOf_lt_of_mem_merged ‹_›))
  · exact .left _ _ (Graph.unentered_cons_lt ‹_›)
  · exact .left _ _ (Graph.unentered_cons_lt ‹_›)
  · exact .left _ _ (Graph.unentered_cons_lt ‹_›)
  · exact .right _ (.left _ _ (Graph.unentered_lt_of_fresh (Graph.enter?_eq_some_iff.1 ‹_›).2 ‹_›))

/-- A value as displayed data shows it. -/
def literal (g : Graph) (v : Value) : Except WritingFault String := v.literalInside g [] []

/-- A value as text: texts and decimal numbers as they are, undefined as nothing, all else as its
literal. -/
def display (g : Graph) : Value → Except WritingFault String
  | .text s => .ok s
  | .decimal s _ => .ok s
  | .undefined => .ok ""
  | v => v.literal g

end Value

/-- Bindings as displayed data shows a mapping of them. -/
def Entries.literal (g : Graph) (es : Entries) : Except WritingFault String :=
  curlyBrackets <$> es.mapM fun e => bindingLiteral e.1.literal (e.2.literal g)

end BraceTemplate
