import BraceTemplate.Diagnostic.Basic
import BraceTemplate.Template.Parse

/-!
# Reporting faults of a source

The wording of the five faults that a source can have, and the diagnostic made from one of them.
-/

namespace BraceTemplate

namespace SyntaxCause

def code : SyntaxCause → ErrorCode
  | .unmatchedOpen => .unmatchedOpen
  | .mismatchedClose _ _ => .mismatchedClose
  | .unexpectedClose _ => .unexpectedClose
  | .unclosed _ => .unclosedDirective
  | .malformed _ => .malformedDirective

/-- How an opening directive is written. -/
def usage : BlockKind → String
  | .loop => "#loop <path> as <alias>"
  | .conditional => "#if <path>"

/-- The message for a fault noticed at an offset. -/
def message (offset : Nat) : SyntaxCause → String
  | .unmatchedOpen => s!"Unmatched '\x7b\x7b' at position {offset}."
  | .mismatchedClose body innermost =>
    let top := (innermost.map BlockKind.keyword).getD "root"
    s!"Mismatched '{body}' at index {offset}. Top block is '{top}'."
  | .unexpectedClose body => s!"Unexpected closing directive '{body}' at position {offset}."
  | .unclosed blocks =>
    let kinds := ", ".intercalate (blocks.map BlockKind.keyword)
    s!"Unclosed directive(s): {kinds}."
  | .malformed kind =>
    s!"Malformed '#{kind.keyword}' directive at position {offset}: expected '{usage kind}'."

end SyntaxCause

/-- The diagnostic for a fault of a source. -/
def SyntaxFault.diagnose (source : String) (name : Option String) (f : SyntaxFault) :
    SyntaxDiagnostic where
  message := f.cause.message f.position.offset
  code := some f.cause.code
  position := f.position.offset
  source
  name

end BraceTemplate
