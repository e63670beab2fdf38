import BraceTemplate.Number.Binary64

/-!
# Exact comparison of numbers

Numbers of different kinds are equal when their values are, without rounding: an integer equals a
floating-point number or a decimal of that value, and a complex number without imaginary part
equals its real part.  Every finite number here is a decimal fraction, so each is brought to one
form, a coefficient that ten does not divide and a power of ten; equal numbers have equal forms.
The power is never written out, for the exponent of a decimal may be huge.
-/

namespace BraceTemplate

/-- A real number in exact form, with the values that are not real numbers beside it. -/
inductive Exact
  | nan
  | infinity (negative : Bool)
  | finite (coefficient exponent : Int)
deriving DecidableEq, Repr

namespace Exact

/-- `n * 10 ^ e` with the factors ten of `n` moved into the power. -/
def stripZeros (n : Nat) (e : Int) : Nat × Int :=
  if n ≠ 0 ∧ n % 10 = 0 then stripZeros (n / 10) (e + 1) else (n, e)
termination_by n
decreasing_by omega

/-- The number `n * 10 ^ e`. -/
def scaled (n e : Int) : Exact :=
  if n = 0 then .finite 0 0
  else
    let (m, e) := stripZeros n.natAbs e
    .finite (n.sign * m) e

def ofInt (n : Int) : Exact := scaled n 0

/-- A truth value counts as one or zero. -/
def ofBool (b : Bool) : Exact := .ofInt (if b then 1 else 0)

/-- The value of a floating-point number: a half is five tenths, so negative powers of two are
powers of five and of ten. -/
def ofBinary64 : Binary64 → Exact
  | .nan _ => .nan
  | .infinity negative => .infinity negative
  | .finite negative m e =>
    let n : Int := (m * Nat.pow 2 e.toNat * Nat.pow 5 (-e).toNat : Nat)
    scaled (if negative then -n else n) (min e 0)

/-- A decimal number from its text: optional sign, digits with an optional point, optional
exponent; or the word `Infinity`.  Any other text is not a number. -/
def ofDecimalText (s : String) : Exact :=
  let (negative, cs) := Binary64.takeSign s.toList
  if String.ofList cs = "Infinity" then .infinity negative
  else
    let mantissa := cs.takeWhile (· != 'E')
    let whole := mantissa.takeWhile (· != '.')
    let fraction := (mantissa.dropWhile (· != '.')).drop 1
    match Binary64.plainDigits? (whole ++ fraction),
        Binary64.readExponent? (cs.dropWhile (· != 'E')) with
    | some ds, some exponent =>
      let n : Int := Text.digitsValue ds
      scaled (if negative then -n else n) (exponent - fraction.length)
    | _, _ => .nan

/-- Whether a decimal text is a signaling "not a number", which refuses to be compared. -/
def isSignalingText (s : String) : Bool := "sNaN".toList.isPrefixOf (Binary64.takeSign s.toList).2

/-- Equality of values; "not a number" equals nothing. -/
def same (x y : Exact) : Bool := x != .nan && x == y

def isZero : Exact → Bool
  | .finite n _ => n == 0
  | _ => false

def isNan : Exact → Bool
  | .nan => true
  | _ => false

end Exact

end BraceTemplate
