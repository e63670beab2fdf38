import BraceTemplate.Text.Digit
import BraceTemplate.Text.Blank

/-!
# Binary floating-point numbers

A `Binary64` is a double-precision number taken apart: sign, significand and binary exponent.  All
work on it is exact arithmetic on natural numbers, so that its text, its comparison with integers
and its truth are definitions that a proof can open.

`Binary64.ofRatio` rounds a ratio to the nearest number, a half to the even significand, and every
finite number here is made by it.
-/

namespace BraceTemplate

/-- A double-precision number.  A finite one is `significand * 2 ^ exponent` with its sign, where
the significand is below `2 ^ 53` and the exponent the least that it can be.  "Not a number" carries
a payload, which no text shows and which tells one occurrence of it from another. -/
inductive Binary64
  | nan (payload : Nat)
  | infinity (negative : Bool)
  | finite (negative : Bool) (significand : Nat) (exponent : Int)
deriving DecidableEq, Repr

namespace Binary64

/-- The least binary exponent. -/
def leastExponent : Int := -1074

/-- The largest binary exponent. -/
def largestExponent : Int := 971

/-- The quotient rounded to the nearest natural number, a half to the even one. -/
def roundQuotient (num den : Nat) : Nat :=
  let floor := num / den
  let rest := num % den
  if 2 * rest < den then floor
  else if 2 * rest > den then floor + 1
  else if floor % 2 = 0 then floor else floor + 1

/-- `num / den / 2 ^ e` as a ratio of natural numbers. -/
def scaledRatio (num den : Nat) (e : Int) : Nat × Nat :=
  (num * Nat.pow 2 (-e).toNat, den * Nat.pow 2 e.toNat)

/-- The number nearest to `num / den`. -/
def ofRatio (negative : Bool) (num den : Nat) : Binary64 :=
  if num = 0 then .finite negative 0 leastExponent
  else
    -- `num / den` lies between `2 ^ (guess + 51)` and `2 ^ (guess + 53)`
    let guess : Int := num.log2 - den.log2 - 52
    let (n, d) := scaledRatio num den guess
    let e := max leastExponent (if n < Nat.pow 2 52 * d then guess - 1 else guess)
    let (n, d) := scaledRatio num den e
    let m := roundQuotient n d
    let (m, e) := if m = Nat.pow 2 53 then (Nat.pow 2 52, e + 1) else (m, e)
    if largestExponent < e then .infinity negative else .finite negative m e

/-! ## Reading -/

/-- The digits of a row in which single underscores may stand between digits; none for any other
row. -/
def plainDigits? : List Char → Option (List Char)
  | [] => none
  | [c] => if Text.isDigit c then some [c] else none
  | c :: '_' :: rest => if Text.isDigit c then (plainDigits? rest).map (c :: ·) else none
  | c :: rest => if Text.isDigit c then (plainDigits? rest).map (c :: ·) else none

/-- As `plainDigits?`, where the row may also be empty. -/
def optionalDigits? (cs : List Char) : Option (List Char) :=
  if cs.isEmpty then some [] else plainDigits? cs

/-- Splits off a sign; true is minus. -/
def takeSign : List Char → Bool × List Char
  | '-' :: rest => (true, rest)
  | '+' :: rest => (false, rest)
  | rest => (false, rest)

/-- The decimal exponent that follows the letter `e`, zero if there is none. -/
def readExponent? : List Char → Option Int
  | [] => some 0
  | _ :: rest =>
    let (negative, digits) := takeSign rest
    (plainDigits? digits).map fun ds =>
      if negative then -(Text.digitsValue ds : Int) else Text.digitsValue ds

/-- A decimal number without sign: whole part, optional fraction, optional exponent. -/
def readDecimal? (negative : Bool) (cs : List Char) : Option Binary64 := do
  let isMark := fun c => c == 'e' || c == 'E'
  let mantissa := cs.takeWhile (!isMark ·)
  let exponent ← readExponent? (cs.dropWhile (!isMark ·))
  let whole ← optionalDigits? (mantissa.takeWhile (· != '.'))
  let fraction ← optionalDigits? ((mantissa.dropWhile (· != '.')).drop 1)
  guard (whole ++ fraction ≠ [])
  let shift := exponent - fraction.length
  let n := Text.digitsValue (whole ++ fraction)
  -- beyond these bounds every number with so many digits is zero or infinite
  let shift := max (-(400 + whole.length + fraction.length : Int)) (min 400 shift)
  return ofRatio negative (n * Nat.pow 10 shift.toNat) (Nat.pow 10 (-shift).toNat)

/-- Reads a number as data files write it: a decimal number, or a word for an infinity or for
"not a number", with an optional sign and blanks around it. -/
def ofText? (s : String) : Option Binary64 :=
  let (negative, cs) := takeSign (Text.trim s.toList)
  let word := String.ofList (cs.map Char.toLower)
  if word = "inf" ∨ word = "infinity" then some (.infinity negative)
  else if word = "nan" then some (.nan 0)
  else readDecimal? negative cs

/-! ## Value -/

/-- Neither zero nor "not a number". -/
def isNonzero : Binary64 → Bool
  | .nan _ => false
  | .infinity _ => true
  | .finite _ m _ => m ≠ 0

/-- The value of an integral number. -/
def toInt? : Binary64 → Option Int
  | .finite negative m e =>
    let (n, d) := (m * Nat.pow 2 e.toNat, Nat.pow 2 (-e).toNat)
    if n % d = 0 then some (if negative then -(n / d : Int) else (n / d : Int)) else none
  | _ => none

end Binary64

end BraceTemplate
