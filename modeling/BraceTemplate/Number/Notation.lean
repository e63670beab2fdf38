import BraceTemplate.Number.Shortest

/-!
# How numbers are written

The digits of a number are fixed by `Decimal.shortest`; this module lays them out.  Numbers between
a ten-thousandth and ten quadrillion are written positionally, all others with an exponent of at
least two digits and its sign.
-/

namespace BraceTemplate

/-- The choices in writing a decimal: the least and the largest exponent of the first digit that is
written positionally, the least number of exponent digits, and whether a whole number keeps `.0`. -/
structure Layout where
  leastPositional : Int
  largestPositional : Int
  exponentDigits : Nat
  keepsPoint : Bool

/-- The layout of a floating-point number. -/
def Layout.float : Layout := ⟨-4, 15, 2, true⟩

/-- The layout of the two parts of a complex number. -/
def Layout.part : Layout := { Layout.float with keepsPoint := false }

namespace Decimal

/-- The digits of a coefficient. -/
def digits (d : Decimal) : List Char := Nat.toDigits 10 d.coefficient

/-- The power of ten of the first digit. -/
def firstExponent (d : Decimal) : Int := d.exponent + (d.digits.length - 1 : Nat)

/-- Whole part, point and fraction. -/
def positional (keepsPoint : Bool) (d : Decimal) : List Char :=
  let ds := d.digits
  if 0 ≤ d.exponent then
    ds ++ List.replicate d.exponent.toNat '0' ++ (if keepsPoint then ['.', '0'] else [])
  else
    let places := (-d.exponent).toNat
    let padded := List.replicate (places + 1 - ds.length) '0' ++ ds
    padded.take (padded.length - places) ++ '.' :: padded.drop (padded.length - places)

/-- One digit, point and fraction, then the exponent. -/
def scientific (exponentDigits : Nat) (d : Decimal) : List Char :=
  let power := Nat.toDigits 10 d.firstExponent.natAbs
  let mantissa := match d.digits with
    | first :: second :: rest => first :: '.' :: second :: rest
    | ds => ds
  mantissa ++ 'e' :: (if d.firstExponent < 0 then '-' else '+') ::
    (List.replicate (exponentDigits - power.length) '0' ++ power)

/-- A decimal in a layout. -/
def written (l : Layout) (d : Decimal) : List Char :=
  if l.leastPositional ≤ d.firstExponent ∧ d.firstExponent ≤ l.largestPositional then
    d.positional l.keepsPoint
  else d.scientific l.exponentDigits

end Decimal

namespace Binary64

def isNegative : Binary64 → Bool
  | .nan _ => false
  | .infinity negative => negative
  | .finite negative _ _ => negative

/-- The number without its sign. -/
def magnitude (l : Layout) : Binary64 → String
  | .nan _ => "nan"
  | .infinity _ => "inf"
  | .finite _ m e =>
    String.ofList ((if m = 0 then ⟨0, 0⟩ else Decimal.shortest m e : Decimal).written l)

/-- The number with a minus sign where it is negative. -/
def written (l : Layout) (x : Binary64) : String :=
  (if x.isNegative then "-" else "") ++ x.magnitude l

/-- A number as displayed data shows it. -/
def literal (x : Binary64) : String := x.written .float

/-- A number as JSON writes it, with words for what JSON has no number for. -/
def json : Binary64 → String
  | .nan _ => "NaN"
  | .infinity false => "Infinity"
  | .infinity true => "-Infinity"
  | x => x.literal

/-- The bound below which integral numbers are output without point and exponent. -/
def plainBound : Nat := Nat.pow 10 21

/-- A number as a template outputs it. -/
def output (x : Binary64) : String :=
  match x.toInt? with
  | some n => if n.natAbs < plainBound then toString n else x.json
  | none => x.json

/-- A complex number: the real part is left out where it is a positive zero. -/
def complexLiteral (re im : Binary64) : String :=
  match re with
  | .finite false 0 _ => im.written .part ++ "j"
  | _ =>
    let sign := if im.isNegative then "-" else "+"
    "(" ++ re.written .part ++ sign ++ im.magnitude .part ++ "j)"

end Binary64

end BraceTemplate
