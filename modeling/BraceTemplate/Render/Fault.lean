import BraceTemplate.Data.Description
import BraceTemplate.Diagnostic.Basic
import BraceTemplate.Template.Node

/-!
# Faults of a rendering

A template and its data may not fit together in five ways.  A `Fault` says which and keeps what the
message needs; besides, a number in the data or in a path may be too large to work with, and a value
may be one that cannot be written.  Where a fault arises in a template, the directive that failed is
recorded with it.

A fault is raised together with its message.  The message for a missing property describes what
lacks it, and where that cannot be described, it is this failure that is raised.
-/

namespace BraceTemplate

/-- What a substitution refers to. -/
inductive Reference
  | variable (name : String)
  | accessor (body : String)
deriving DecidableEq, Repr

namespace Reference

/-- The text of the directive. -/
def expression : Reference → String
  | .variable name => name
  | .accessor body => body

/-- The reference as messages name it. -/
def label : Reference → String
  | .variable name => s!"Variable \"{name}\""
  | .accessor body => s!"Accessor path \"{dotted (splitPath body)}\""

end Reference

/-- A misfit of template and data. -/
inductive Fault
  | missingVariable (name : String)
  | missingProperty (path : List String) (key : String) (holder : Value)
  | nullProperty (path : List String) (key : String)
  | unsupportedType (reference : Reference) (value : Value)
  | notIterable (path : List String) (expression : String) (value : Value)

namespace Fault

def code : Fault → ErrorCode
  | .missingVariable _ => .missingVariable
  | .missingProperty .. => .missingProperty
  | .nullProperty .. => .nullProperty
  | .unsupportedType .. => .unsupportedType
  | .notIterable .. => .notIterable

/-- The text of the reference that failed. -/
def expression : Fault → String
  | .missingVariable name => name
  | .missingProperty path _ _ => dotted path
  | .nullProperty path _ => dotted path
  | .unsupportedType reference _ => reference.expression
  | .notIterable _ expression _ => expression

/-- The name that is missing, or the value of the wrong type. -/
def subject : Fault → RenderSubject
  | .missingVariable name => .undefinedName name
  | .missingProperty _ key _ => .undefinedName key
  | .nullProperty _ key => .undefinedName key
  | .unsupportedType _ value => .wrongType value
  | .notIterable _ _ value => .wrongType value

def message (g : Graph) : Fault → Except WritingFault String
  | .missingVariable name => .ok s!"Variable \"{name}\" is missing/null/undefined."
  | .missingProperty _ key holder =>
    return s!"Property \"{key}\" does not exist on: {← holder.describe g}"
  | .nullProperty _ key => .ok s!"Property \"{key}\" is null/undefined."
  | .unsupportedType reference value =>
    .ok s!"{reference.label} must be string|number|boolean. Got: {(value.kind g).name}"
  | .notIterable path _ _ => .ok s!"Loop target \"{dotted path}\" is not an array."

/-- The diagnostic for a fault with a message, with nothing known about the template. -/
def diagnose (f : Fault) (message : String) : RenderDiagnostic where
  message
  code := some f.code
  subject := f.subject
  expression := some f.expression
  templateName := none
  line := none
  snippet := none

/-- The diagnostic for a fault of the directive that starts at a position, in a template with a name
and a source.  An empty source is not quoted. -/
def diagnoseAt (f : Fault) (message : String) (name source : Option String) (start : Position) :
    RenderDiagnostic :=
  { f.diagnose message with
    templateName := name
    line := some start.line
    snippet := (source.filter (· ≠ "")).map
      (Snippet.build · start.line 1 (some (start.column : Int))) }

end Fault

/-- Why looking something up gave no value, or a value no text. -/
inductive Failure
  | fault (f : Fault)
  | number (n : NumberFault)
  | writing (w : WritingFault)

/-- Why a rendering gave no text: a fault of the directive at a span, a number fault, or a value
that cannot be written. -/
inductive Stop
  | fault (f : Fault) (site : Span)
  | number (n : NumberFault)
  | writing (w : WritingFault)

/-- A failure in the directive at a span. -/
def Failure.at (site : Span) : Failure → Stop
  | .fault f => .fault f site
  | .number n => .number n
  | .writing w => .writing w

/-- What is raised for a failure outside a template. -/
def Failure.raised (g : Graph) : Failure → Failure
  | .fault f =>
    match f.message g with
    | .ok _ => .fault f
    | .error w => .writing w
  | e => e

/-- What is raised where a rendering stops. -/
def Stop.raised (g : Graph) : Stop → Stop
  | .fault f site =>
    match f.message g with
    | .ok _ => .fault f site
    | .error w => .writing w
  | e => e

/-- What happens on a fault: a strict rendering stops, a lenient one goes on with a substitute. -/
inductive Mode
  | strict
  | lenient
deriving DecidableEq, Repr

/-- Settles the outcome of a step: in lenient mode a fault gives the substitute. -/
def Mode.settle {α : Type} (mode : Mode) (substitute outcome : Except Failure α) :
    Except Failure α :=
  match mode, outcome with
  | .lenient, .error (.fault _) => substitute
  | _, outcome => outcome

end BraceTemplate
