import BraceTemplate.Data.Literal
import BraceTemplate.Diagnostic.Code

/-!
# Refused uses

What a caller can get wrong apart from templates and their data: the number and the types of
arguments, the names of options, of bindings and of error codes.  A refusal that names a value needs
the literal of that value, and where this cannot be written, it says so instead.
-/

namespace BraceTemplate

/-- A use of the library that it refuses. -/
inductive UsageError
  | contextCount (given : Nat)
  | boundTwice (name : String)
  | variablesNotMapping (typeName : String)
  | optionsNotMapping (typeName : String)
  | unknownOption (literal : String)
  | notIterable (typeName : String)
  | unfitElement (typeName : String)
  | signalingElement
  | unknownCode (literal : String)
  | writing (w : WritingFault)

def UsageError.message : UsageError → String
  | .contextCount given =>
    s!"render() takes at most 1 positional argument (a mapping), got {given}"
  | .boundTwice name => s!"Template.render() got multiple values for argument '{name}'"
  | .variablesNotMapping typeName => s!"variables must be a mapping, got {typeName}"
  | .optionsNotMapping typeName => s!"config must be RendererOptions or a mapping, got {typeName}"
  | .unknownOption literal => s!"Unknown renderer option {literal}"
  | .notIterable typeName => s!"'{typeName}' object is not iterable"
  | .unfitElement typeName => s!"unhashable type: '{typeName}'"
  | .signalingElement => "Cannot hash a signaling NaN value"
  | .unknownCode literal => s!"{literal} is not a valid ErrorCode"
  | .writing w => w.message

/-- The refusal that names the value of a literal. -/
def UsageError.naming (refusal : String → UsageError) : Except WritingFault String → UsageError
  | .ok literal => refusal literal
  | .error w => .writing w

/-- The code that a value names, which must be the text of one. -/
def ErrorCode.ofValue (g : Graph) (v : Value) : Except UsageError ErrorCode :=
  let named := match v with
    | .text s => ofText? s
    | _ => none
  match named with
  | some code => .ok code
  | none => .error (.naming .unknownCode (v.literal g))

end BraceTemplate
