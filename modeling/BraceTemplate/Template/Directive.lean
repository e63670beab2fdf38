import BraceTemplate.Text.Blank
import BraceTemplate.Text.WordChar

/-!
# Directives

The trimmed text between the braces decides what a directive does:

* `#loop PATH as ALIAS` and `#if PATH` open a block, `/loop` and `/if` close one;
* a body that starts and ends with `#` is a comment;
* any other body that starts with the word `#loop` or `#if` is malformed, and any other that starts
  with a slash closes nothing that can be open;
* a body with a dot in it is an accessor, and every other body is a variable.

The rules are tried in this order and the first that fits decides.
-/

namespace BraceTemplate

/-- The two kinds of block. -/
inductive BlockKind
  | loop
  | conditional
deriving DecidableEq, Repr

/-- The word that opens and closes a block of this kind. -/
def BlockKind.keyword : BlockKind → String
  | .loop => "loop"
  | .conditional => "if"

/-- What opens a block: a loop over the items at a path, each under an alias, or a condition. -/
inductive Opening
  | loop (target item : String)
  | conditional (target : String)
deriving DecidableEq, Repr

def Opening.kind : Opening → BlockKind
  | .loop _ _ => .loop
  | .conditional _ => .conditional

/-- What a directive does. -/
inductive Directive
  | opens (opening : Opening)
  | closes (kind : BlockKind)
  | comment
  | malformed (kind : BlockKind)
  | unexpectedClose (keyword : String)
  | accessor
  | variable
deriving DecidableEq, Repr

/-! ## Paths -/

/-- Cuts a text at every occurrence of a character. -/
def splitAt (mark : Char) : List Char → List (List Char)
  | [] => [[]]
  | c :: rest =>
    if c = mark then [] :: splitAt mark rest
    else match splitAt mark rest with
      | [] => [[c]]
      | first :: others => (c :: first) :: others

/-- The segments of a dotted path, each trimmed. -/
def splitPath (text : String) : List String :=
  (splitAt '.' text.toList).map fun segment => String.ofList (Text.trim segment)

/-- The dotted form of a path. -/
def dotted (path : List String) : String := ".".intercalate path

/-! ## Opening directives -/

/-- The rest of a text after a given beginning. -/
def dropStart? : List Char → List Char → Option (List Char)
  | [], cs => some cs
  | _ :: _, [] => none
  | b :: bs, c :: cs => if b = c then dropStart? bs cs else none

/-- The path between a keyword and the next word, which blanks set off on both sides.  Where only
blanks stand there, three or more of them still count as a gap, a path and a gap, and the last but
one of them is the path. -/
def enclosedTarget? (cs : List Char) : Option (List Char) :=
  if cs.all Text.isBlank then
    if 3 ≤ cs.length then cs[cs.length - 2]?.map ([·]) else none
  else if (cs.head?.any Text.isBlank) && (cs.getLast?.any Text.isBlank) then some (Text.trim cs)
  else none

/-- A text without the line feed at its end. -/
def dropFinalLineFeed (cs : List Char) : List Char :=
  if cs.getLast? = some '\n' then cs.dropLast else cs

/-- Path and alias of a loop, from what follows the keyword: the alias is the word at the end, and
the word `as` stands before it, between blanks. -/
def loopOpening? (cs : List Char) : Option Opening :=
  let ending := (dropFinalLineFeed cs).reverse
  let item := ending.takeWhile Text.isWordChar
  let separator := ending.dropWhile Text.isWordChar
  if item.isEmpty || !separator.head?.any Text.isBlank then none
  else
    match separator.dropWhile Text.isBlank with
    | 's' :: 'a' :: front =>
      (enclosedTarget? front.reverse).map fun target =>
        .loop (String.ofList target) (String.ofList item.reverse)
    | _ => none

/-- The path of a condition, from what follows the keyword: all that stands after the blanks.  Where
only blanks stand there, two or more of them still count as a gap and a path, and the last of them
is the path. -/
def conditionalOpening? (cs : List Char) : Option Opening :=
  let target := Text.trimStart cs
  if !cs.head?.any Text.isBlank then none
  else if !target.isEmpty then some (.conditional (String.ofList target))
  else if 2 ≤ cs.length then cs.getLast?.map fun c => .conditional (String.ofList [c])
  else none

/-- The block that a body opens. -/
def opening? (cs : List Char) : Option Opening :=
  ((dropStart? "#loop".toList cs).bind loopOpening?).or
    ((dropStart? "#if".toList cs).bind conditionalOpening?)

/-- The block whose opening keyword starts a body, as a word of its own. -/
def openingKeyword? (cs : List Char) : Option BlockKind :=
  [BlockKind.loop, .conditional].find? fun kind =>
    (dropStart? ('#' :: kind.keyword.toList) cs).any fun rest => rest.head?.all Text.isBlank

/-! ## Classification -/

/-- What the directive with this body does. -/
def classify (body : String) : Directive :=
  let cs := body.toList
  match opening? cs with
  | some opening => .opens opening
  | none =>
    if body = "/loop" then .closes .loop
    else if body = "/if" then .closes .conditional
    else if cs.head? = some '#' ∧ cs.getLast? = some '#' then .comment
    else match openingKeyword? cs with
      | some kind => .malformed kind
      | none =>
        match cs with
        | '/' :: rest => .unexpectedClose (String.ofList (Text.trim rest))
        | _ => if '.' ∈ cs then .accessor else .variable

end BraceTemplate
