import BraceTemplate.Diagnostic.Parsing
import BraceTemplate.Render.Evaluate
import BraceTemplate.Render.Options
import BraceTemplate.Template.Dependency
import BraceTemplate.Text.Spacing

/-!
# Templates ready for rendering

A template is a parsed document with the options it renders with and, for messages, its name and its
source.  Rendering takes at most one mapping, and bindings that shadow the entries of that mapping.
A `Renderer` is a template together with the data it renders.
-/

namespace BraceTemplate

/-- Why an operation on a template gave no answer. -/
inductive TemplateError
  | usage (e : UsageError)
  | diagnostic (d : Diagnostic)
  | number (n : NumberFault)
  | writing (w : WritingFault)

/-- The report of a fault with its message, if that can be written. -/
def Fault.report (g : Graph) (f : Fault) (diagnose : String → RenderDiagnostic) : TemplateError :=
  match f.message g with
  | .ok message => .diagnostic (.ofRender (diagnose message))
  | .error w => .writing w

/-- The report of a rendering that stopped, for a template with a name and a source. -/
def Stop.report (g : Graph) (name source : Option String) : Stop → TemplateError
  | .fault f site => f.report g (f.diagnoseAt · name source site.start)
  | .number n => .number n
  | .writing w => .writing w

/-- The report of a failed look-up outside a template. -/
def Failure.report (g : Graph) : Failure → TemplateError
  | .fault f => f.report g f.diagnose
  | .number n => .number n
  | .writing w => .writing w

/-- A template. -/
structure Template where
  document : Document
  options : Options := {}
  name : Option String := none
  source : Option String := none

namespace Template

/-- The template of a source. -/
def ofSource (source : String) (options : Options) (name : Option String) :
    Except TemplateError Template :=
  match parse source with
  | .ok document => .ok ⟨document, options, name, some source⟩
  | .error f => .error (.diagnostic (.ofSource (f.diagnose source name)))

/-- The template of a document alone: it has the default options, and no source to quote. -/
def ofDocument (d : Document) (name : Option String) : Template := ⟨d, {}, name, none⟩

def mode (g : Graph) (t : Template) : Mode :=
  if t.options.strict.switchesOn g then .strict else .lenient

/-- The name that bindings cannot have, for it stands for the template itself. -/
def ownName : String := "self"

/-- The scope of a rendering: the mapping, if one is given, and the bindings in front of it. -/
def scope (g : Graph) (arguments : List Value) (bindings : Entries) :
    Except UsageError Scope := do
  if bindings.names.contains ownName then .error (.boundTwice ownName)
  let base ← match arguments with
    | [] => .ok []
    | [v] => match Scope.ofValue? g v with
      | some s => .ok s
      | none => .error (.contextCount 1)
    | _ => .error (.contextCount arguments.length)
  return if bindings.isEmpty then base else bindings :: base

/-- Renders a template. -/
def render (g : Graph) (t : Template) (arguments : List Value) (bindings : Entries) :
    Except TemplateError String := do
  let s ← (scope g arguments bindings).mapError .usage
  let text ← (renderAll g (t.mode g) s t.document.nodes).mapError (·.report g t.name t.source)
  return if t.options.normalize.switchesOn g then Text.tidy text else text

/-- A template as displayed; one without a name, or with an empty one, counts as inline. -/
def display (t : Template) : String :=
  match t.name with
  | none | some "" => "<Template (inline)>"
  | some name => s!"<Template {name}>"

/-- The required names that the given data does not provide. -/
def missingNames (g : Graph) (t : Template) (context : Value) :
    Except TemplateError (List String) := do
  let given ← (context.providedNames g).mapError .usage
  return t.document.missingNames given

end Template

/-- A template and the data it renders. -/
structure Renderer where
  template : Template
  data : Value

namespace Renderer

/-- The renderer for a source, data and a configuration, which are checked in the order data,
configuration, source. -/
def make (g : Graph) (content : String) (data : Value) (configuration : Configuration) :
    Except TemplateError Renderer := do
  if (data.entries? g).isNone then
    .error (.usage (.variablesNotMapping (data.typeName g)))
  let options ← (configuration.options? g).mapError .usage
  let template ← Template.ofSource content options none
  return ⟨template, data⟩

def render (g : Graph) (r : Renderer) : Except TemplateError String :=
  r.template.render g [r.data] []

end Renderer

end BraceTemplate
