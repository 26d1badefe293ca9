import SemverDispatch.Failure
import SemverDispatch.Text.Lowercase
import SemverDispatch.Text.Whole

/-!
# Numerals

Numbers as people write them: blanks around, a sign, digits of any script, and single underscores between
digits. `Numeral.integer` reads whole numbers of up to `Decimal.digitLimit` digits, `Numeral.binary64` reads
floating point numbers, which have names for infinity and for what is no number.
-/

namespace SemverDispatch

namespace Numeral

/-! ## Whole numbers -/

/-- The whole number that a text has to write. -/
def integer (t : Text) : Except Failure Int :=
  (whole t).mapError fun
    | .malformed => .notInteger t
    | .tooLong digits => .tooLong digits

/-! ## Floating point -/

/-- The magnitude that a name stands for. -/
def named? (negative : Bool) (t : Text) : Option Binary64 :=
  if t = "nan" then some .nan
  else if t = "inf" ∨ t = "infinity" then some (.infinite negative)
  else none

/-- The number that digits write, with a point among or around them and an exponent behind them. -/
def positional? (negative : Bool) (t : Text) : Option Binary64 :=
  let (whole, rest) := Binary64.spanDigits t
  let (fraction, rest) := match rest with
    | .char '.' :: rest => Binary64.spanDigits rest
    | rest => ([], rest)
  let (exponent, rest) := (Binary64.exponentPart rest).getD (0, rest)
  if whole ++ fraction = [] ∨ rest ≠ [] then none
  else some (Binary64.ofParts negative whole fraction exponent)

/-- The floating point number that a text writes, in either case. -/
def binary64? (t : Text) : Option Binary64 := do
  let (negative, body) := splitSign (← ungroup? false (trimmed t))
  (named? negative body.lower).or (positional? negative body)

/-- The floating point number that a text has to write. -/
def binary64 (t : Text) : Except Failure Binary64 :=
  (binary64? t).elim (.error (.notNumber t)) .ok

end Numeral

end SemverDispatch
