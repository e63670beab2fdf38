import BraceTemplate.Source.LineTable
import BraceTemplate.Source.Piece
import BraceTemplate.Template.Node

/-!
# From pieces to a tree

The pieces of a source are read one after the other.  A stack holds the blocks that are open,
innermost first, each with the nodes that stood before it; a closing directive must fit the
innermost open block, and turns the nodes read since its opening into its children.  The first piece
that cannot be read ends the reading, and so does the end of the source while a block is open.
-/

namespace BraceTemplate

/-- Why a source is not a template. -/
inductive SyntaxCause
  | unmatchedOpen
  | mismatchedClose (body : String) (innermost : Option BlockKind)
  | unexpectedClose (body : String)
  | unclosed (blocks : List BlockKind)
  | malformed (kind : BlockKind)
deriving DecidableEq, Repr

/-- A cause and where it was noticed. -/
structure SyntaxFault where
  cause : SyntaxCause
  position : Position
deriving DecidableEq, Repr

/-- An open block: what opened it, where, and the nodes before it in the block around it, latest
first. -/
structure Frame where
  opening : Opening
  body : String
  start : Position
  before : List Node

/-- The state of reading: the position reached, the nodes of the innermost block so far, latest
first, and the open blocks, innermost first. -/
structure Reader where
  position : Position
  recent : List Node
  frames : List Frame

namespace Reader

/-- Nothing has been read. -/
def start : Reader := ⟨.start, [], []⟩

/-- Adds the node that the stretch up to `stop` makes. -/
def add (r : Reader) (stop : Position) (node : Span → Node) : Reader :=
  { r with position := stop, recent := node ⟨r.position, stop.offset⟩ :: r.recent }

/-- Opens a block. -/
def openBlock (r : Reader) (stop : Position) (body : String) (opening : Opening) : Reader :=
  ⟨stop, [], ⟨opening, body, r.position, r.recent⟩ :: r.frames⟩

/-- Closes the innermost block, if it is of the given kind. -/
def closeBlock (r : Reader) (stop : Position) (body : String) (kind : BlockKind) :
    Except SyntaxFault Reader :=
  match r.frames with
  | frame :: frames =>
    if frame.opening.kind = kind then
      let node := Node.ofBlock ⟨frame.start, stop.offset⟩ frame.body r.recent.reverse frame.opening
      .ok ⟨stop, node :: frame.before, frames⟩
    else .error ⟨.mismatchedClose body (some frame.opening.kind), r.position⟩
  | [] => .error ⟨.mismatchedClose body none, r.position⟩

/-- Reads one piece, behind which the source goes on at `stop`. -/
def readTo (r : Reader) (stop : Position) (piece : Piece) : Except SyntaxFault Reader :=
  match piece with
  | .text content => .ok (r.add stop (.text · (String.ofList content)))
  | .unterminated _ => .error ⟨.unmatchedOpen, r.position⟩
  | .directive inner =>
    let body := String.ofList (Text.trim inner)
    match classify body with
    | .opens opening => .ok (r.openBlock stop body opening)
    | .closes kind => r.closeBlock stop body kind
    | .comment => .ok (r.add stop (.comment · body))
    | .malformed kind => .error ⟨.malformed kind, r.position⟩
    | .unexpectedClose _ => .error ⟨.unexpectedClose body, r.position⟩
    | .accessor => .ok (r.add stop (.accessor · body))
    | .variable => .ok (r.add stop (.variable · body))

/-- Reads one piece of a source whose lines are known. -/
def readWith (lines : LineTable) (r : Reader) (piece : Piece) : Except SyntaxFault Reader :=
  r.readTo (lines.position (r.position.offset + piece.source.length)) piece

/-- Reads one piece, counting on from the place in front of it. -/
def read (r : Reader) (piece : Piece) : Except SyntaxFault Reader :=
  r.readTo (r.position.advance piece.source) piece

/-- The template that has been read, if no block is open.  Open blocks are reported together, from
the outermost, at the place of the innermost. -/
def finish (r : Reader) : Except SyntaxFault Document :=
  match r.frames with
  | [] => .ok ⟨r.position.offset, r.recent.reverse⟩
  | frame :: _ => .error ⟨.unclosed (r.frames.reverse.map (·.opening.kind)), frame.start⟩

end Reader

/-- Reads a source as a template. -/
def parse (source : String) : Except SyntaxFault Document := do
  let lines := LineTable.ofSource source.toList
  let r ← (scan source.toList).foldlM (Reader.readWith lines) Reader.start
  r.finish

end BraceTemplate
