import BraceTemplate.Data.Kind

/-!
# Equality of data

Values are equal when they hold the same data: numbers by value across their kinds, sequences of one
type item by item, mappings as sets of bindings whatever their order, scopes as the mapping of the
bindings in force.  "Not a number" and plain objects equal nothing but themselves.

A signaling "not a number" refuses to be compared, so it shows in which order parts are compared, up
to the first that differ.  Lists of different lengths are told apart by that, tuples only after the
items that both have.  Mappings of different sizes are told apart by that; otherwise the bindings of
the left one are gone through, but next to a scope those of the scope.

Data that contain themselves have no deepest level.  A comparison that comes back to the pair of
values it is inside of would never end, and is refused.  `Value.equal` finds this out by going no
deeper than there are pairs of values, and sooner where a pair of collections comes back.
-/

namespace BraceTemplate

/-- Why two values cannot be compared. -/
inductive ComparisonFault
  | number (n : NumberFault)
  | endless
deriving DecidableEq, Repr

def ComparisonFault.message : ComparisonFault → String
  | .number n => n.message
  | .endless => "maximum recursion depth exceeded in comparison"

/-- The values that stand in a collection, those bound in force if it is a scope. -/
def Collection.values : Collection → List Value
  | .list vs => vs
  | .tuple vs => vs
  | .map es => es.map Prod.snd
  | .scope layers => (Scope.merged layers).map Prod.snd

namespace Value

/-- The exact value of a number, real and imaginary part. -/
def exactValue? : Value → Option (Exact × Exact)
  | .bool b => some (.ofBool b, .ofInt 0)
  | .int n => some (.ofInt n, .ofInt 0)
  | .float x => some (.ofBinary64 x, .ofInt 0)
  | .decimal s _ => some (.ofDecimalText s, .ofInt 0)
  | .complex re im => some (.ofBinary64 re, .ofBinary64 im)
  | _ => none

def isSignaling : Value → Bool
  | .decimal s _ => Exact.isSignalingText s
  | _ => false

/-- Whether two values are one and the same, with payload, mark or place. -/
def identical : Value → Value → Bool
  | .float x, .float y => x == y
  | .decimal _ m, .decimal _ n => m == n
  | .complex re im, .complex re' im' => re == re' && im == im'
  | .object m _ _ _, .object n _ _ _ => m == n
  | .collection p, .collection q => p == q
  | _, _ => false

/-- Equality of values without parts.  What has an imaginary part is no decimal number, and is told
from a signaling one without a comparison. -/
def scalarEqual (v w : Value) : Except ComparisonFault Bool :=
  match v.exactValue?, w.exactValue? with
  | some (re, im), some (re', im') =>
    if v.isSignaling && im'.isZero || w.isSignaling && im.isZero then .error (.number .signaling)
    else .ok (re.same re' && im.same im')
  | none, none => .ok <| match v, w with
    | .null, .null => true
    | .undefined, .undefined => true
    | .text s, .text t => s == t
    | .bytes bs _, .bytes cs _ => bs == cs
    | _, _ => false
  | _, _ => .ok false

/-- The collection that a value names. -/
def collection? (g : Graph) : Value → Option Collection
  | .collection place => g.at? place
  | _ => none

/-- The places of two collections. -/
def places? : Value → Value → Option (Nat × Nat)
  | .collection p, .collection q => some (p, q)
  | _, _ => none

/-- Compares two rows item by item, as far as both go. -/
def itemsAgree (agree : Value → Value → Except ComparisonFault Bool) (vs ws : List Value) :
    Except ComparisonFault Bool :=
  (vs.zip ws).allM fun pair => agree pair.1 pair.2

/-- Compares two rows of bindings along the first. -/
def entriesAgree (agree : Value → Value → Except ComparisonFault Bool) (es fs : Entries) :
    Except ComparisonFault Bool :=
  if es.length = fs.length then
    es.allM fun e => match fs.find? (e.1.same ·.1) with
      | some f => agree e.2 f.2
      | none => .ok false
  else .ok false

/-- Compares two values on at most so many levels, where the collections at the pairs of places
`met` are being compared around them. -/
def agree (g : Graph) : Nat → List (Nat × Nat) → Value → Value → Except ComparisonFault Bool
  | 0, _, _, _ => .error .endless
  | depth + 1, met, v, w =>
    if v.identical w then .ok true
    else if (places? v w).any met.contains then .error .endless
    else
      let met := (places? v w).toList ++ met
      match v.collection? g, w.collection? g, v.entries? g, w.entries? g with
      | some (.list vs), some (.list ws), _, _ =>
        if vs.length = ws.length then itemsAgree (agree g depth met) vs ws else .ok false
      | some (.tuple vs), some (.tuple ws), _, _ =>
        return (← itemsAgree (agree g depth met) vs ws) && vs.length = ws.length
      | _, _, some es, some fs =>
        -- a mapping leaves the comparison with a scope to the scope
        if (v.layers? g).isNone && (w.layers? g).isSome then
          entriesAgree (agree g depth met) fs es
        else entriesAgree (agree g depth met) es fs
      | _, _, _, _ => v.scalarEqual w

/-- How many values a value consists of; a collection counts as one. -/
def parts : Value → Nat
  | .scope layers => 1 + ((Scope.merged layers).attach.map fun ⟨e, _⟩ => parts e.2).foldr (· + ·) 0
  | _ => 1
termination_by v => sizeOf v
decreasing_by exact Value.sizeOf_lt_of_mem_merged ‹_›

end Value

/-- How many values stand in the collections. -/
def Graph.parts (g : Graph) : Nat :=
  ((g.collections.flatMap Collection.values).map Value.parts).foldr (· + ·) 0

/-- Equality of values. -/
def Value.equal (g : Graph) (v w : Value) : Except ComparisonFault Bool :=
  agree g ((g.parts + v.parts) * (g.parts + w.parts) + 1) [] v w

end BraceTemplate
