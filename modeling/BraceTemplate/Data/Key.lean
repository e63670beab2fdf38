import BraceTemplate.Data.Value
import BraceTemplate.Data.Writing
import BraceTemplate.Number.Exact
import BraceTemplate.Number.Notation
import BraceTemplate.Text.Quoted

/-!
# Keys

A key is compared by value, and numbers by value across their kinds: `1`, `1.0` and the truth value
of a true statement are one key.  "Not a number" is the same key only as itself, with its payload or
mark, and so is an object.
Names in a template are texts, so a name meets text keys only.
-/

namespace BraceTemplate

namespace Key

/-- The exact value of a number key, real and imaginary part. -/
def exactValue? : Key → Option (Exact × Exact)
  | .bool b => some (.ofBool b, .ofInt 0)
  | .int n => some (.ofInt n, .ofInt 0)
  | .float x => some (.ofBinary64 x, .ofInt 0)
  | .decimal s _ => some (.ofDecimalText s, .ofInt 0)
  | .complex re im => some (.ofBinary64 re, .ofBinary64 im)
  | _ => none

/-- Whether two keys are one and the same number, with payload or mark, or the same object. -/
def identical : Key → Key → Bool
  | .float x, .float y => x == y
  | .decimal s m, .decimal t n => s == t && m == n
  | .complex re im, .complex re' im' => re == re' && im == im'
  | .object m display, .object n display' => m == n && display == display'
  | _, _ => false

mutual
/-- Whether two keys are the same. -/
def same : Key → Key → Bool
  | .null, .null => true
  | .undefined, .undefined => true
  | .text s, .text t => s == t
  | .bytes bs, .bytes cs => bs == cs
  | .tuple ks, .tuple ls => sameAll ks ls
  | k, l => k.identical l || match k.exactValue?, l.exactValue? with
    | some (re, im), some (re', im') => re.same re' && im.same im'
    | _, _ => false

/-- Whether two rows of keys are the same, place by place. -/
def sameAll : List Key → List Key → Bool
  | [], [] => true
  | k :: ks, l :: ls => same k l && sameAll ks ls
  | _, _ => false
end

/-- A text is the same key as itself only. -/
theorem text_same_iff {s : String} {k : Key} : (Key.text s).same k = true ↔ k = .text s := by
  cases k <;> simp [same, identical, exactValue?, @eq_comm _ s]

/-! ## Display -/

/-- A row of items between round brackets; a single one is followed by a comma. -/
def roundBrackets : List String → String
  | [item] => "(" ++ item ++ ",)"
  | items => "(" ++ ", ".intercalate items ++ ")"

mutual
/-- A key as displayed data shows it. -/
def literal : Key → Except WritingFault String
  | .null => .ok "None"
  | .undefined => .ok "UNDEFINED"
  | .bool b => .ok (if b then "True" else "False")
  | .int n => integerText n
  | .float x => .ok x.literal
  | .decimal s _ => .ok (Text.decimalLiteral s)
  | .complex re im => .ok (Binary64.complexLiteral re im)
  | .text s => .ok (Text.literalQuote s)
  | .bytes bs => .ok (Text.bytesLiteral bs)
  | .object _ display => .ok display
  | .tuple ks => return roundBrackets (← literals ks)

def literals : List Key → Except WritingFault (List String)
  | [] => .ok []
  | k :: ks => do
    let first ← literal k
    let others ← literals ks
    return first :: others
end

/-- A key as a JSON object writes it; only texts, null, truth values, integers that can be written
and floating-point numbers have such a form. -/
def json? : Key → Option String
  | .null => some "null"
  | .bool b => some (if b then "true" else "false")
  | .int n => (integerText n).toOption
  | .float x => some x.json
  | .text s => some s
  | _ => none

end Key

namespace Entries

/-- Binds a key: a binding of the same key gets the new value, otherwise the binding comes last. -/
def insert (es : Entries) (k : Key) (v : Value) : Entries :=
  if es.any (k.same ·.1) then es.map fun e => if k.same e.1 then (e.1, v) else e
  else es ++ [(k, v)]

/-- The value under a name. -/
def valueOf? (name : String) : Entries → Option Value
  | [] => none
  | (.text s, v) :: rest => if s = name then some v else valueOf? name rest
  | _ :: rest => valueOf? name rest

/-- The names among the keys. -/
def names (es : Entries) : List String :=
  es.filterMap fun e => match e.1 with
    | .text s => some s
    | _ => none

/-- A key that has been bound has the value it was bound to last. -/
theorem valueOf?_insert_self (es : Entries) (name : String) (v : Value) :
    (es.insert (.text name) v).valueOf? name = some v := by
  unfold insert
  split
  · rename_i bound
    induction es with
    | nil => simp at bound
    | cons e rest ih =>
      obtain ⟨k, w⟩ := e
      cases k <;> grind [valueOf?, Key.text_same_iff]
  · induction es with
    | nil => simp [valueOf?]
    | cons e rest ih =>
      obtain ⟨k, w⟩ := e
      cases k <;> grind [valueOf?, Key.text_same_iff]

theorem valueOf?_isSome_iff {name : String} {es : Entries} :
    (valueOf? name es).isSome ↔ name ∈ names es := by
  fun_induction valueOf? name es <;> simp_all [names] <;> grind

end Entries

end BraceTemplate
