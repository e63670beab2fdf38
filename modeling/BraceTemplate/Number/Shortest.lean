import BraceTemplate.Number.Binary64

/-!
# The shortest decimal of a binary number

A binary number is written with the fewest decimal digits that read back to it.  The reals that
round to `m * 2 ^ e` form an interval; on the decimal grids, from coarse to fine, the two neighbours
of the number are tried against it, and the first grid with a neighbour inside gives the digits.  Of
two neighbours the nearer is taken, of two equally near ones the even.
-/

namespace BraceTemplate

/-- A decimal number `coefficient * 10 ^ exponent`. -/
structure Decimal where
  coefficient : Nat
  exponent : Int
deriving DecidableEq, Repr

namespace Decimal

/-- Moves trailing zeros of the coefficient into the exponent, at most `n` of them. -/
def stripZeros : Nat → Decimal → Decimal
  | 0, d => d
  | n + 1, d =>
    if d.coefficient % 10 = 0 ∧ d.coefficient ≠ 0 then
      stripZeros n ⟨d.coefficient / 10, d.exponent + 1⟩
    else d

/-- The power of ten of the first digit of `num / den`. -/
def leadingExponent (num den : Nat) : Int :=
  let guess : Int := (Nat.toDigits 10 num).length - (Nat.toDigits 10 den).length
  if den * Nat.pow 10 guess.toNat ≤ num * Nat.pow 10 (-guess).toNat then guess else guess - 1

/-- The interval of reals that round to a significand and an exponent, in quarters of a unit of
the last binary place; its ends belong to it when the significand is even. -/
structure Rounding where
  low : Nat
  mid : Nat
  high : Nat
  closed : Bool

/-- Below a power of two the unit is half as large, so the lower end is nearer there. -/
def Rounding.of (m : Nat) (e : Int) : Rounding where
  low := if m = Nat.pow 2 52 ∧ e ≠ Binary64.leastExponent then 4 * m - 1 else 4 * m - 2
  mid := 4 * m
  high := 4 * m + 2
  closed := m % 2 = 0

/-- Whether `c` steps of size `step` lie inside, when the quarters have size `unit`. -/
def Rounding.holds (r : Rounding) (c step unit : Nat) : Bool :=
  if r.closed then r.low * unit ≤ c * step && c * step ≤ r.high * unit
  else r.low * unit < c * step && c * step < r.high * unit

/-- The neighbour of the middle on the grid of step `step` that lies inside and is nearest. -/
def Rounding.neighbour? (r : Rounding) (step unit : Nat) : Option Nat :=
  let below := r.mid * unit / step
  match r.holds below step unit, r.holds (below + 1) step unit with
  | true, true =>
    let left := r.mid * unit - below * step
    let right := (below + 1) * step - r.mid * unit
    some (if left < right ∨ left = right ∧ below % 2 = 0 then below else below + 1)
  | true, false => some below
  | false, true => some (below + 1)
  | false, false => none

/-- The shortest decimal of the positive number `m * 2 ^ e`.  Seventeen digits always suffice, so
the last alternative is never taken. -/
def shortest (m : Nat) (e : Int) : Decimal :=
  let r := Rounding.of m e
  -- the number is `mid * 2 ^ (e - 2)`
  let num := Nat.pow 2 (e - 2).toNat
  let den := Nat.pow 2 (2 - e).toNat
  let first := leadingExponent (r.mid * num) den
  let candidate := fun (digits : Nat) =>
    let grid := first - digits
    let step := Nat.pow 10 grid.toNat * den
    let unit := num * Nat.pow 10 (-grid).toNat
    (r.neighbour? step unit).map (Decimal.mk · grid)
  (((List.range 17).findSome? candidate).getD ⟨m, e⟩).stripZeros 17

end Decimal

end BraceTemplate
