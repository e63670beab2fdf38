import BraceTemplate.Data.Scope

/-!
# Kinds of values, and truth

The renderer decides by the kind of a value and by nothing else: strings, numbers and truth values
can be substituted, sequences can be looped over, mappings, sequences and objects have members, and
null and undefined are absent.  Truth values are kept apart from numbers, and strings from
sequences.
-/

namespace BraceTemplate

/-- The shapes of data that a template distinguishes. -/
inductive Kind
  | string
  | number
  | boolean
  | sequence
  | mapping
  | absent
  | object
deriving DecidableEq, Repr

namespace Kind

/-- The name of a kind in messages. -/
def name : Kind → String
  | .string => "string"
  | .number => "number"
  | .boolean => "boolean"
  | .sequence => "sequence"
  | .mapping => "mapping"
  | .absent => "absent"
  | .object => "object"

/-- The kinds whose values can be substituted into text. -/
def isScalar : Kind → Bool
  | .string | .number | .boolean => true
  | _ => false

end Kind

/-- A number that cannot be used where it stands: an index written with too many digits, an integer
outside the range of floating-point numbers, or a signaling "not a number" in a comparison. -/
inductive NumberFault
  | indexTooLong (digits : Nat)
  | integerTooLarge
  | signaling
deriving DecidableEq, Repr

def NumberFault.message : NumberFault → String
  | .indexTooLong digits =>
    s!"Exceeds the limit ({digitLimit} digits) for integer string conversion: " ++
      s!"value has {digits} digits; use sys.set_int_max_str_digits() to increase the limit"
  | .integerTooLarge => "int too large to convert to float"
  | .signaling => "[<class 'decimal.InvalidOperation'>]"

/-- The least natural number that rounds to infinity: half a unit above the largest finite
floating-point number. -/
def floatBound : Nat := Nat.pow 2 1024 - Nat.pow 2 970

namespace Value

/-- The kind of a value.  A place without a collection counts as absent. -/
def kind (g : Graph) : Value → Kind
  | .null | .undefined => .absent
  | .bool _ => .boolean
  | .int _ | .float _ | .decimal _ _ | .complex _ _ => .number
  | .text _ => .string
  | .bytes _ _ | .object _ _ _ _ => .object
  | .scope _ => .mapping
  | .collection place =>
    match g.at? place with
    | some (.list _) | some (.tuple _) => .sequence
    | some (.map _) | some (.scope _) => .mapping
    | none => .absent

def isAbsent (g : Graph) (v : Value) : Bool := v.kind g == .absent

/-- The layers of a scope. -/
def layers? (g : Graph) : Value → Option Scope
  | .scope layers => some layers
  | .collection place =>
    match g.at? place with
    | some (.scope layers) => some layers
    | _ => none
  | _ => none

/-- The bindings of a mapping, those in force if it is a scope. -/
def entries? (g : Graph) : Value → Option Entries
  | .scope layers => some (Scope.merged layers)
  | .collection place =>
    match g.at? place with
    | some (.map es) => some es
    | some (.scope layers) => some (Scope.merged layers)
    | _ => none
  | _ => none

/-- The items of a sequence. -/
def items? (g : Graph) : Value → Option (List Value)
  | .collection place =>
    match g.at? place with
    | some (.list vs) | some (.tuple vs) => some vs
    | _ => none
  | _ => none

theorem kind_eq_sequence_iff {g : Graph} {v : Value} :
    v.kind g = .sequence ↔ (v.items? g).isSome := by
  cases v <;> simp only [kind, items?] <;> try simp
  split <;> simp_all

/-- The truth of a condition: absent values, a false truth value, zero, "not a number" and the
empty text are false, all else is true, empty sequences and mappings included.  An integer beyond
the floating-point range has no truth, nor has a signaling "not a number". -/
def truth (g : Graph) : Value → Except NumberFault Bool
  | .bool b => .ok b
  | .int n => if floatBound ≤ n.natAbs then .error .integerTooLarge else .ok (n ≠ 0)
  | .float x => .ok x.isNonzero
  | .decimal s _ =>
    let x := Exact.ofDecimalText s
    if Exact.isSignalingText s then .error .signaling else .ok (!x.isZero && !x.isNan)
  | .complex re im => .ok !((Exact.ofBinary64 re).isZero && (Exact.ofBinary64 im).isZero)
  | .text s => .ok (s ≠ "")
  | v => .ok (!v.isAbsent g)

/-- Whether a value given for an option switches it on: everything does except absent values, a
false truth value, zero, and texts, bytes, sequences and mappings that are empty. -/
def switchesOn (g : Graph) : Value → Bool
  | .bool b => b
  | .int n => n ≠ 0
  | .float x => !(Exact.ofBinary64 x).isZero
  | .decimal s _ => !(Exact.ofDecimalText s).isZero
  | .complex re im => !((Exact.ofBinary64 re).isZero && (Exact.ofBinary64 im).isZero)
  | .text s => s ≠ ""
  | .bytes bs _ => !bs.isEmpty
  | .object _ _ _ _ => true
  | v =>
    match v.items? g, v.entries? g with
    | some items, _ => !items.isEmpty
    | _, some es => !es.isEmpty
    | _, _ => false

end Value

end BraceTemplate
