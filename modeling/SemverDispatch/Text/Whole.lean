import SemverDispatch.Decimal
import SemverDispatch.Text.Blank
import SemverDispatch.Text.Digit

/-!
# Whole numbers in text

Whole numbers as people write them: blanks around, a sign, digits of any script, and single underscores
between digits.
-/

namespace SemverDispatch

namespace Numeral

/-! ## Characters -/

/-- The digit `0` to `9` that a decimal digit of any script stands for. -/
def digit? (c : CodePoint) : Option Nat :=
  (digitTable.find? fun (first, last) => first ≤ c.value ∧ c.value ≤ last).map fun (first, _) =>
    (c.value - first) % 10

/-- A character beyond ASCII as the ASCII character that it counts as, if it does. -/
def plain (c : CodePoint) : CodePoint :=
  if c.value < 0x80 then c
  else if c.isBlank then .char ' '
  else (digit? c).elim c fun n => .ofNat (0x30 + n)

/-- A text in ASCII, without what stands around it. -/
def trimmed (t : Text) : Text :=
  (((t.map plain).dropWhile CodePoint.isAsciiBlank).reverse.dropWhile CodePoint.isAsciiBlank).reverse

/-- Is there a minus sign? And what follows the sign, if there is one. -/
def splitSign : Text → Bool × Text
  | .char '-' :: rest => (true, rest)
  | .char '+' :: rest => (false, rest)
  | rest => (false, rest)

/-- A text without its underscores, if each of them stands between two digits. `afterDigit` says whether a
digit comes before the text. -/
def ungroup? (afterDigit : Bool) : Text → Option Text
  | [] => some []
  | .char '_' :: rest =>
    if afterDigit && rest.head?.any CodePoint.isAsciiDigit then ungroup? false rest else none
  | c :: rest => (ungroup? c.isAsciiDigit rest).map (c :: ·)

/-! ## Whole numbers -/

/-- Why a text writes no whole number. -/
inductive Misread where
  /-- it is no numeral -/
  | malformed
  /-- it has more digits than are read -/
  | tooLong (digits : Nat)
  deriving DecidableEq, Repr

/-- The whole number that a text writes. -/
def whole (t : Text) : Except Misread Int :=
  let (negative, body) := splitSign (trimmed t)
  let (run, rest) := body.span fun c => c.isAsciiDigit || c = .char '_'
  match ungroup? false run with
  | none => .error .malformed
  | some digits =>
    if Decimal.digitLimit < digits.length then .error (.tooLong digits.length)
    else if digits = [] ∨ rest ≠ [] then .error .malformed
    else .ok (if negative then -(Decimal.value digits : Int) else Decimal.value digits)

end Numeral

end SemverDispatch
