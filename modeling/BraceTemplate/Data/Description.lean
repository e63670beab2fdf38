import BraceTemplate.Data.Literal

/-!
# Describing a value in a message

A message that refuses a property names the value that lacks it.  The description is the value as
JSON on one line; what JSON cannot write stands there as the literal in quotes.  A mapping with a
key that JSON cannot write, an integer of too many digits, and a collection inside itself, have no
JSON form at all: then the literal of the whole value is the description, if it can be written.
Where the literal of a part would be written without end, there is no description.  Descriptions are
cut to eighty characters.
-/

namespace BraceTemplate

/-- Why a value has no JSON form: JSON refuses a part of it, or the literal of a part would be
written without end. -/
inductive JsonFault
  | refused
  | endless
deriving DecidableEq, Repr

/-- JSON refuses the integers that cannot be written. -/
def JsonFault.ofWriting : WritingFault → JsonFault
  | .integerTooLong => .refused
  | .endless => .endless

/-- A binding as a JSON object writes it, from what is written of its key and of its value. -/
def jsonBinding (key? : Option String) (value : Except JsonFault String) :
    Except JsonFault String :=
  match key? with
  | none => .error .refused
  | some key => return Text.jsonQuote key ++ ": " ++ (← value)

namespace Value

/-- A value as JSON, on a walk that is inside of some collections.  It does not walk into scopes. -/
def jsonInside (g : Graph) (inside : List Nat) : Value → Except JsonFault String
  | .null => .ok "null"
  | .bool b => .ok (if b then "true" else "false")
  | .int n => (integerText n).mapError .ofWriting
  | .float x => .ok x.json
  | .text s => .ok (Text.jsonQuote s)
  | .collection place =>
    match _ : g.enter? inside place with
    | some (.list vs) | some (.tuple vs) =>
      squareBrackets <$> vs.mapM fun (v : Value) => jsonInside g (place :: inside) v
    | some (.map es) =>
      curlyBrackets <$> es.mapM fun (e : Key × Value) =>
        jsonBinding e.1.json? (jsonInside g (place :: inside) e.2)
    | some (.scope _) => Text.jsonQuote <$> ((Value.collection place).literal g).mapError .ofWriting
    | none => if (g.at? place).isSome then .error .refused else .ok "null"
  | v => Text.jsonQuote <$> (v.literal g).mapError .ofWriting
termination_by _ => g.unentered inside
decreasing_by all_goals exact Graph.unentered_cons_lt ‹_›

end Value

/-- Bindings as a JSON object. -/
def Entries.json (g : Graph) (es : Entries) : Except JsonFault String :=
  curlyBrackets <$> es.mapM fun (e : Key × Value) => jsonBinding e.1.json? (e.2.jsonInside g [])

/-- The longest description. -/
def descriptionLimit : Nat := 80

/-- Cuts a text that is longer than the limit, so that dots mark the cut. -/
def clip (limit : Nat) (s : String) : String :=
  if limit < s.length then String.ofList (s.toList.take (limit - 3)) ++ "..." else s

/-- The JSON form, or the literal of what JSON refuses. -/
def jsonOrLiteral (json : Except JsonFault String) (literal : Except WritingFault String) :
    Except WritingFault String :=
  match json with
  | .ok form => .ok form
  | .error .refused => literal
  | .error .endless => .error .endless

namespace Value

/-- The description before it is cut.  A scope is described as the mapping of its bindings. -/
def fullDescription (g : Graph) (v : Value) : Except WritingFault String :=
  match v.layers? g with
  | some layers =>
    let es := Scope.merged layers
    jsonOrLiteral (es.json g) (es.literal g)
  | none => jsonOrLiteral (v.jsonInside g []) (v.literal g)

/-- The description of a value in a message. -/
def describe (g : Graph) (v : Value) : Except WritingFault String :=
  clip descriptionLimit <$> v.fullDescription g

end Value

end BraceTemplate
