import BraceTemplate.Data.Output
import BraceTemplate.Render.Resolve

/-!
# Rendering nodes

Text is written as it is and comments write nothing.  A substitution writes its value, a conditional
its children if its value is true, and a loop its children once for each item, in a scope with one
more binding.  Each directive's own look-up is settled by the mode and, where it fails, stamped with
that directive's place; what its children do is stamped by them.

A rendering ends with the failure that it came to.  `Node.evaluate` and `evaluateAll` end with what
is raised for it.
-/

namespace BraceTemplate

/-- The output of a value, as a step of a rendering. -/
def written (g : Graph) (v : Value) : Except Failure String := (v.output g).mapError .writing

/-- The text of a substitution: absent values write nothing, and other values must be scalars. -/
def substitute (g : Graph) (reference : Reference) (v : Value) : Except Failure String :=
  if v.isAbsent g then .ok ""
  else if (v.kind g).isScalar then written g v
  else .error (.fault (.unsupportedType reference v))

/-- Writes the value of a reference.  In lenient mode any value is written as well as can be. -/
def writeReference (g : Graph) (mode : Mode) (reference : Reference) (v : Value) :
    Except Failure String :=
  mode.settle (written g v) (substitute g reference v)

/-- The items that a loop runs over.  In lenient mode there are none in a value that is no
sequence. -/
def loopItems (g : Graph) (mode : Mode) (path : List String) (expression : String) (v : Value) :
    Except Failure (List Value) :=
  mode.settle (.ok []) <|
    match v.items? g with
    | some items => .ok items
    | none => .error (.fault (.notIterable path expression v))

/-- Stamps the failure of a directive's own work with its place. -/
def stamped {α : Type} (site : Span) (outcome : Except Failure α) : Except Stop α :=
  outcome.mapError (·.at site)

mutual
/-- The text that a node writes in a scope. -/
def Node.render (g : Graph) (mode : Mode) (s : Scope) : Node → Except Stop String
  | .text _ content => .ok content
  | .comment _ _ => .ok ""
  | .variable span name => stamped span do
    writeReference g mode (.variable name) (← s.lookup g mode name)
  | .accessor span body => stamped span do
    writeReference g mode (.accessor body) (← (Value.scope s).walk g mode (splitPath body))
  | .loop span body target item children => do
    let path := splitPath target
    let items ← stamped span do
      loopItems g mode path body (← (Value.scope s).walk g mode path)
    let texts ← items.mapM fun v => renderAll g mode (s.child item v) children
    return String.join texts
  | .conditional span _ target children => do
    let v ← stamped span ((Value.scope s).walk g mode (splitPath target))
    if ← (v.truth g).mapError .number then renderAll g mode s children else return ""

/-- The text that nodes write one after the other. -/
def renderAll (g : Graph) (mode : Mode) (s : Scope) : List Node → Except Stop String
  | [] => .ok ""
  | n :: rest => do
    let first ← n.render g mode s
    let others ← renderAll g mode s rest
    return first ++ others
end

/-- What evaluating a node in a scope gives or raises. -/
def Node.evaluate (g : Graph) (mode : Mode) (s : Scope) (n : Node) : Except Stop String :=
  (n.render g mode s).mapError (·.raised g)

/-- What evaluating nodes one after the other gives or raises. -/
def evaluateAll (g : Graph) (mode : Mode) (s : Scope) (nodes : List Node) : Except Stop String :=
  (renderAll g mode s nodes).mapError (·.raised g)

end BraceTemplate
