/-!
# Error codes

Every fault that a template or its data can have is known by a code: a category, parser or runtime,
and a number in it.
-/

namespace BraceTemplate

/-- The kinds of fault. -/
inductive ErrorCode
  | unmatchedOpen
  | mismatchedClose
  | unexpectedClose
  | unclosedDirective
  | malformedDirective
  | missingVariable
  | missingProperty
  | nullProperty
  | unsupportedType
  | notIterable
deriving DecidableEq, Repr

/-- When a fault is found. -/
inductive ErrorCategory
  | parser
  | runtime
deriving DecidableEq, Repr

namespace ErrorCode

/-- All codes, in the order of their texts. -/
def all : List ErrorCode :=
  [.unmatchedOpen, .mismatchedClose, .unexpectedClose, .unclosedDirective, .malformedDirective,
    .missingVariable, .missingProperty, .nullProperty, .unsupportedType, .notIterable]

def category : ErrorCode → ErrorCategory
  | .unmatchedOpen | .mismatchedClose | .unexpectedClose | .unclosedDirective
  | .malformedDirective => .parser
  | .missingVariable | .missingProperty | .nullProperty | .unsupportedType
  | .notIterable => .runtime

/-- The code as messages show it. -/
def text : ErrorCode → String
  | .unmatchedOpen => "C-PAR-001"
  | .mismatchedClose => "C-PAR-002"
  | .unexpectedClose => "C-PAR-003"
  | .unclosedDirective => "C-PAR-004"
  | .malformedDirective => "C-PAR-005"
  | .missingVariable => "C-RUN-001"
  | .missingProperty => "C-RUN-002"
  | .nullProperty => "C-RUN-003"
  | .unsupportedType => "C-RUN-004"
  | .notIterable => "C-RUN-005"

/-- The name of a code. -/
def name : ErrorCode → String
  | .unmatchedOpen => "UNMATCHED_OPEN"
  | .mismatchedClose => "MISMATCHED_CLOSE"
  | .unexpectedClose => "UNEXPECTED_CLOSE"
  | .unclosedDirective => "UNCLOSED_DIRECTIVE"
  | .malformedDirective => "MALFORMED_DIRECTIVE"
  | .missingVariable => "MISSING_VARIABLE"
  | .missingProperty => "MISSING_PROPERTY"
  | .nullProperty => "NULL_PROPERTY"
  | .unsupportedType => "UNSUPPORTED_TYPE"
  | .notIterable => "NOT_ITERABLE"

/-- The code with a given text. -/
def ofText? (s : String) : Option ErrorCode := all.find? fun c => c.text = s

end ErrorCode

end BraceTemplate
