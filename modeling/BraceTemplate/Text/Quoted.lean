import BraceTemplate.Text.Printable

/-!
# Quoted text

Messages quote text in two ways.  The JSON form stands between double quotes and escapes only what
JSON requires, so it always fits on one line.  The literal form is the one in which displayed data
shows its texts: it picks the quote that saves escapes, and writes every character that is not
printable by its code point.
-/

namespace BraceTemplate.Text

/-- A number in lower-case hexadecimal, filled up with zeros to `width` places. -/
def hex (width n : Nat) : List Char :=
  let digits := Nat.toDigits 16 n
  List.replicate (width - digits.length) '0' ++ digits

/-! ## JSON -/

/-- The JSON escape of a character; characters beyond the controls stand for themselves. -/
def jsonEscape (c : Char) : List Char :=
  match c with
  | '"' => ['\\', '"']
  | '\\' => ['\\', '\\']
  | '\n' => ['\\', 'n']
  | '\r' => ['\\', 'r']
  | '\t' => ['\\', 't']
  | '\x0c' => ['\\', 'f']
  | '\x08' => ['\\', 'b']
  | c => if c.toNat < 32 then '\\' :: 'u' :: hex 4 c.toNat else [c]

/-- A text as a JSON string. -/
def jsonQuote (s : String) : String :=
  String.ofList ('"' :: s.toList.flatMap jsonEscape ++ ['"'])

/-! ## Literals -/

/-- A single quote encloses a literal unless the text holds one and holds no double quote. -/
def literalMark (hasSingle hasDouble : Bool) : Char :=
  if hasSingle && !hasDouble then '"' else '\''

/-- The escapes that texts and bytes have in common. -/
def commonEscape? (mark c : Char) : Option (List Char) :=
  if c = mark ∨ c = '\\' then some ['\\', c]
  else match c with
    | '\n' => some ['\\', 'n']
    | '\r' => some ['\\', 'r']
    | '\t' => some ['\\', 't']
    | _ => none

/-- The form of a character inside a text literal that is enclosed by `mark`. -/
def literalEscape (mark c : Char) : List Char :=
  (commonEscape? mark c).getD <|
    if isPrintable c then [c]
    else if c.toNat ≤ 0xff then '\\' :: 'x' :: hex 2 c.toNat
    else if c.toNat ≤ 0xffff then '\\' :: 'u' :: hex 4 c.toNat
    else '\\' :: 'U' :: hex 8 c.toNat

/-- A text as a literal. -/
def literalQuote (s : String) : String :=
  let cs := s.toList
  let mark := literalMark (cs.contains '\'') (cs.contains '"')
  String.ofList (mark :: cs.flatMap (literalEscape mark) ++ [mark])

/-- A decimal number as a literal, from its own text. -/
def decimalLiteral (s : String) : String := "Decimal('" ++ s ++ "')"

/-- The form of a byte inside a literal that is enclosed by `mark`: visible ASCII as it is, the
rest by number. -/
def byteEscape (mark : Char) (b : UInt8) : List Char :=
  (commonEscape? mark (Char.ofNat b.toNat)).getD <|
    if 32 ≤ b.toNat && b.toNat < 127 then [Char.ofNat b.toNat]
    else '\\' :: 'x' :: hex 2 b.toNat

/-- A string of bytes as a literal, marked by a leading `b`. -/
def bytesLiteral (bytes : List UInt8) : String :=
  let mark := literalMark (bytes.contains 39) (bytes.contains 34)
  String.ofList ('b' :: mark :: bytes.flatMap (byteEscape mark) ++ [mark])

end BraceTemplate.Text
