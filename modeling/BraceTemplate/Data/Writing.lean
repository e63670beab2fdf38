/-!
# What cannot be written

Data are written as text in several ways: as displayed data, as JSON, and as output.  None of them
writes an integer of more digits than the limit, and a scope that holds itself with nothing but
scopes on the way would never be written to the end.
-/

namespace BraceTemplate

/-- The most digits of an integer that is read from text or written as text. -/
def digitLimit : Nat := 4300

/-- Why a value cannot be written as text. -/
inductive WritingFault
  | integerTooLong
  | endless
deriving DecidableEq, Repr

def WritingFault.message : WritingFault → String
  | .integerTooLong =>
    s!"Exceeds the limit ({digitLimit} digits) for integer string conversion; " ++
      "use sys.set_int_max_str_digits() to increase the limit"
  | .endless => "maximum recursion depth exceeded"

/-- An integer in decimal digits. -/
def integerText (n : Int) : Except WritingFault String :=
  if digitLimit < (Nat.toDigits 10 n.natAbs).length then .error .integerTooLong
  else .ok (toString n)

end BraceTemplate
