import BraceTemplate.Render.Template
import BraceTemplate.Template.Walker

/-!
# Sessions

A session is an environment, which holds the options that new templates get, the templates made in
it so far, and one walker for all of them.  A template keeps the dotted paths that it reads, once it
has been asked for them.  Changing the environment changes no template.  A step that fails leaves
the environment and the templates as they were; at most a template has come to keep its paths.
-/

namespace BraceTemplate

/-- A template of a session, with the dotted paths that it reads if it keeps them. -/
structure HeldTemplate where
  template : Template
  found : Option (List String) := none

/-- An environment, its templates, oldest first, and the walker that they share. -/
structure Session where
  options : Options := {}
  templates : List HeldTemplate := []
  walker : Walker := {}

/-- What can be asked of a template. -/
inductive TemplateQuery
  | render (arguments : List Value) (bindings : Entries)
  | display
  | info
  | dependencies
  | missingNames (context : Value)
  | comments
  | document

/-- A step of a session.  A template is made from a source with the options of the environment, or
from a document with the default ones; the document is given, or is that of a source. -/
inductive SessionStep
  | set (name : OptionName) (value : Value)
  | options
  | display
  | addSource (source : String) (name : Option String)
  | addDocument (source : String) (name : Option String)
  | addTree (document : Document) (name : Option String)
  | ask (template : Nat) (query : TemplateQuery)
  | walk (template : Nat)

/-- The answer to a step. -/
inductive SessionAnswer
  | options (o : Options)
  | text (s : String)
  | index (n : Nat)
  | names (ns : List String)
  | info (t : Template)
  | document (d : Document)
  | nothing

namespace HeldTemplate

/-- The dotted paths that a template reads.  Those it keeps are the answer; otherwise a new walker
finds them, and they are kept. -/
def dependencies (t : HeldTemplate) : HeldTemplate × List String :=
  match t.found with
  | some paths => (t, paths)
  | none =>
    let paths := (({} : Walker).analyze t.template.document.nodes).found
    ({ t with found := some paths }, paths)

/-- The required names that the given data does not provide.  The paths are found first, and stay
found if the data is refused. -/
def missingNames (g : Graph) (t : HeldTemplate) (context : Value) :
    HeldTemplate × Except TemplateError (List String) :=
  let (t, paths) := t.dependencies
  let required := nameSet (paths.map firstSegment)
  (t, do
    let given ← (context.providedNames g).mapError .usage
    return required.filter (!given.contains ·))

/-- The answer of a template to a query, and what the template keeps then. -/
def answer (g : Graph) (t : HeldTemplate) :
    TemplateQuery → HeldTemplate × Except TemplateError SessionAnswer
  | .render arguments bindings => (t, .text <$> t.template.render g arguments bindings)
  | .display => (t, .ok (.text t.template.display))
  | .info => (t, .ok (.info t.template))
  | .dependencies =>
    let (t, paths) := t.dependencies
    (t, .ok (.names paths))
  | .missingNames context =>
    let (t, names) := t.missingNames g context
    (t, .names <$> names)
  | .comments => (t, .ok (.names t.template.document.comments))
  | .document => (t, .ok (.document t.template.document))

end HeldTemplate

namespace Session

/-- An environment as displayed. -/
def display (g : Graph) (s : Session) : Except WritingFault String := do
  let strict ← s.options.strict.display g
  let normalize ← s.options.normalize.display g
  return s!"Environment(strict_var_mode={strict}, normalize_output={normalize})"

/-- The session with one more template, and the number of that template. -/
def add (s : Session) (t : Template) : Session × SessionAnswer :=
  ({ s with templates := s.templates ++ [{ template := t }] }, .index s.templates.length)

/-- One step of a session. -/
def step (g : Graph) (s : Session) : SessionStep → Session × Except TemplateError SessionAnswer
  | .set name value =>
    let options := s.options.set name value
    ({ s with options }, .ok (.options options))
  | .options => (s, .ok (.options s.options))
  | .display => (s, .text <$> (s.display g).mapError .writing)
  | .addSource source name =>
    match Template.ofSource source s.options name with
    | .ok t => ((s.add t).1, .ok (s.add t).2)
    | .error e => (s, .error e)
  | .addDocument source name =>
    match Template.ofSource source {} none with
    | .ok t =>
      let t := Template.ofDocument t.document name
      ((s.add t).1, .ok (s.add t).2)
    | .error e => (s, .error e)
  | .addTree document name =>
    let t := Template.ofDocument document name
    ((s.add t).1, .ok (s.add t).2)
  | .ask i query =>
    match s.templates[i]? with
    | some t =>
      let (t, outcome) := t.answer g query
      ({ s with templates := s.templates.set i t }, outcome)
    | none => (s, .ok .nothing)
  | .walk i =>
    match s.templates[i]? with
    | some t =>
      let walker := s.walker.analyze t.template.document.nodes
      ({ s with walker }, .ok (.names walker.found))
    | none => (s, .ok .nothing)

/-- The answers to a row of steps. -/
def run (g : Graph) (s : Session) : List SessionStep → List (Except TemplateError SessionAnswer)
  | [] => []
  | step :: steps => (s.step g step).2 :: run g (s.step g step).1 steps

end Session

end BraceTemplate
