import BraceTemplate.Data.Kind

/-!
# Members of values

One step of a path asks a value for the member with a given name.  Mappings answer by key, sequences
by position when the name is a row of decimal digits, and objects by public attribute, be it their
own or one that their type lends them.  Scalars and absent values have no members.
-/

namespace BraceTemplate

/-- The position that a name denotes, if it is a row of digits in any script. -/
def index? (name : String) : Except NumberFault (Option Nat) :=
  let cs := name.toList
  if cs.isEmpty || !cs.all Text.isDigit then .ok none
  else if digitLimit < cs.length then .error (.indexTooLong cs.length)
  else .ok (some (Text.digitsValue cs))

/-- The attributes that templates may read: those whose name does not start with an underscore. -/
def isPublic (name : String) : Bool :=
  match name.toList with
  | [] => false
  | c :: _ => c ≠ '_'

/-- The attribute that an object shows under a name: its own goes before one of its type. -/
def attribute? (own lent : List (String × Value)) (name : String) : Option Value :=
  if isPublic name then (own.lookup name).or (lent.lookup name) else none

namespace Value

/-- The member of a value under a name. -/
def member? (g : Graph) (v : Value) (name : String) : Except NumberFault (Option Value) :=
  match v with
  | .scope layers => .ok (Scope.valueOf? layers name)
  | .bytes _ lent => .ok (attribute? [] lent name)
  | .object _ _ attributes lent => .ok (attribute? attributes lent name)
  | .collection place =>
    match g.at? place with
    | some (.map es) => .ok (es.valueOf? name)
    | some (.scope layers) => .ok (Scope.valueOf? layers name)
    | some (.list items) | some (.tuple items) => return (← index? name).bind (items[·]?)
    | none => .ok none
  | _ => .ok none

end Value

end BraceTemplate
