import BraceTemplate.Data.Member
import BraceTemplate.Render.Fault

/-!
# Looking up names and paths

A variable is looked up in a scope.  A path is walked from a value, member by member; every step has
to find a member that is neither null nor undefined.  There is never a partial result: a walk gives
the value at the end of the path or the fault of the first step that failed.
-/

namespace BraceTemplate

/-- The value of a name in a scope, which must be there and not be absent. -/
def Scope.require (g : Graph) (s : Scope) (name : String) : Except Failure Value :=
  match s.valueOf? name with
  | some v => if v.isAbsent g then .error (.fault (.missingVariable name)) else .ok v
  | none => .error (.fault (.missingVariable name))

namespace Value

/-- One step of a walk along `path`. -/
def step (g : Graph) (path : List String) (v : Value) (key : String) : Except Failure Value :=
  match v.member? g key with
  | .error n => .error (.number n)
  | .ok none => .error (.fault (.missingProperty path key v))
  | .ok (some member) =>
    if member.isAbsent g then .error (.fault (.nullProperty path key)) else .ok member

/-- The value at the end of a path. -/
def resolve (g : Graph) (v : Value) (path : List String) : Except Failure Value :=
  path.foldlM (step g path) v

end Value

/-! ## Settled look-ups

In lenient mode a look-up that fails gives the undefined value, never a part of the way. -/

/-- The value of a name, settled by the mode. -/
def Scope.lookup (g : Graph) (mode : Mode) (s : Scope) (name : String) : Except Failure Value :=
  mode.settle (.ok .undefined) (s.require g name)

/-- The value at the end of a path, settled by the mode. -/
def Value.walk (g : Graph) (mode : Mode) (v : Value) (path : List String) : Except Failure Value :=
  mode.settle (.ok .undefined) (v.resolve g path)

/-- What a walk along a path gives or raises where it is asked for outside a template. -/
def Value.resolvePath (g : Graph) (mode : Mode) (v : Value) (path : List String) :
    Except Failure Value :=
  (v.walk g mode path).mapError (·.raised g)

/-- The scope that a mapping makes. -/
def Scope.ofValue? (g : Graph) (v : Value) : Option Scope :=
  (v.layers? g).or ((v.entries? g).map ([·]))

end BraceTemplate
