import BraceTemplate.Data.Value
import BraceTemplate.Diagnostic.Code
import BraceTemplate.Source.Excerpt

/-!
# Diagnostics

A diagnostic is a fault as it is reported: its message, its code, and what is known about the place.
A diagnostic for a source that is not a template knows the source and an offset in it; one for a
template that could not be rendered knows the directive that failed and may know what it failed on.

`Diagnostic.compact` lays a diagnostic out over several lines for a terminal.
-/

namespace BraceTemplate

/-- A source that is not a template. -/
structure SyntaxDiagnostic where
  message : String
  code : Option ErrorCode
  position : Int
  source : String
  name : Option String

/-- What a rendering failed on. -/
inductive RenderSubject
  | unspecified
  | undefinedName (name : String)
  | wrongType (value : Value)

/-- A template that could not be rendered. -/
structure RenderDiagnostic where
  message : String
  code : Option ErrorCode
  subject : RenderSubject
  expression : Option String
  templateName : Option String
  line : Option Int
  snippet : Option Snippet

/-- A reported fault. -/
inductive Diagnostic
  | plain (message : String) (code : Option ErrorCode)
  | ofSource (d : SyntaxDiagnostic)
  | ofRender (d : RenderDiagnostic)

/-- The name shown for a template.  One without a name, or with an empty one, is shown as such. -/
def shownName (name : Option String) : String :=
  match name with
  | none | some "" => "<template>"
  | some s => s

/-- The first line of a diagnostic; an empty code is left out. -/
def headline (colored : Bool) (code : Option String) (message : String) : String :=
  match code with
  | none | some "" => message
  | some code => Terminal.strong colored code ++ ": " ++ message

namespace SyntaxDiagnostic

/-- The source around the fault, in quotes. -/
def quote (d : SyntaxDiagnostic) : String := quoteAround d.source d.position quoteRadius

/-- Line and column of the fault. -/
def place (d : SyntaxDiagnostic) : Nat × Nat := locate d.source.toList d.position

/-- The message with the quoted source. -/
def fullMessage (d : SyntaxDiagnostic) : String := d.message ++ " Snippet: " ++ d.quote

/-- Template, line and column. -/
def location (d : SyntaxDiagnostic) : String :=
  s!"{shownName d.name}:{d.place.1}:{d.place.2}"

def compact (colored : Bool) (d : SyntaxDiagnostic) : String :=
  "\n".intercalate [
    headline colored (d.code.map ErrorCode.text) d.fullMessage,
    "  --> " ++ Terminal.place colored d.location,
    (Snippet.build d.source d.place.1 1 (some d.place.2)).format colored]

end SyntaxDiagnostic

namespace RenderDiagnostic

/-- Template and line. -/
def location (d : RenderDiagnostic) : String :=
  shownName d.templateName ++
    match d.line with
    | none | some 0 => ""
    | some n => ":" ++ toString n

/-- The faults that data can mend. -/
def wantsData (d : RenderDiagnostic) : Bool :=
  d.code == some .missingVariable || d.code == some .missingProperty

def compact (colored : Bool) (d : RenderDiagnostic) : String :=
  "\n".intercalate <|
    [headline colored (d.code.map ErrorCode.text) d.message,
      "  Location: " ++ Terminal.place colored d.location] ++
    (d.snippet.map (·.format colored)).toList ++
    (match d.expression with
      | none | some "" => []
      | some e => ["  Expression: \x7b\x7b " ++ e ++ " \x7d\x7d"]) ++
    (if d.wantsData then
      ["  " ++ Terminal.hint colored "Hint:" ++ " pass the value in the data context, " ++
        "or render with strict_var_mode=False"]
    else [])

end RenderDiagnostic

namespace Diagnostic

def code : Diagnostic → Option ErrorCode
  | .plain _ code => code
  | .ofSource d => d.code
  | .ofRender d => d.code

def message : Diagnostic → String
  | .plain message _ => message
  | .ofSource d => d.fullMessage
  | .ofRender d => d.message

/-- A diagnostic laid out for a terminal. -/
def compact (colored : Bool) : Diagnostic → String
  | .plain message code => headline colored (code.map ErrorCode.text) message
  | .ofSource d => d.compact colored
  | .ofRender d => d.compact colored

end Diagnostic

end BraceTemplate
