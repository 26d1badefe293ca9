import SemverDispatch.Text.Basic

/-!
# Decimal numbers

Whole numbers as text in base ten, and back.
-/

namespace SemverDispatch

namespace Decimal

/-- The digits of a natural number, without leading zeros. -/
def ofNat (n : Nat) : Text := (Nat.toDigits 10 n).map .char

/-- The digits of an integer, after a minus sign if it is negative. -/
def ofInt : Int → Text
  | .ofNat n => ofNat n
  | .negSucc n => .char '-' :: ofNat (n + 1)

/-- The value of a run of ASCII digits, read behind the value `acc`. -/
def valueFrom (acc : Nat) (digits : Text) : Nat :=
  digits.foldl (fun n c => n * 10 + (c.value - 0x30)) acc

/-- The value of a run of ASCII digits. -/
def value (digits : Text) : Nat := valueFrom 0 digits

/-- The natural number that a text of ASCII digits writes; leading zeros are allowed. -/
def toNat? (t : Text) : Option Nat :=
  if t ≠ [] ∧ t.all CodePoint.isAsciiDigit then some (value t) else none

/-! ## Size -/

/-- A one with a number of zeros behind it. -/
def power (zeros : Nat) : Nat := Nat.pow 10 zeros

/-- The greatest number of digits that are read or written at once. -/
def digitLimit : Nat := 4300

/-- Has an integer more digits than are written at once? -/
def isTooLarge (n : Int) : Bool := decide (power digitLimit ≤ n.natAbs)

/-- What is said of a number with more digits than are read. -/
def tooLong (digits : Nat) : Text :=
  "Exceeds the limit (4300 digits) for integer string conversion: value has " ++ ofNat digits
    ++ " digits; use sys.set_int_max_str_digits() to increase the limit"

/-- What is said of a number with more digits than are written. -/
def tooLarge : Text :=
  "Exceeds the limit (4300 digits) for integer string conversion; use sys.set_int_max_str_digits() to "
    ++ "increase the limit"

end Decimal

end SemverDispatch
