import SemverDispatch.Decimal

/-!
# Binary floating point

Numbers of 64 bits as exact values: a finite one is `mantissa * 2 ^ exponent` with a sign. All of it is
integer arithmetic.

`Binary64.ofRatio` rounds a quotient to the nearest number, halves to the even mantissa;
`Binary64.shortest` finds the fewest decimal digits that read back as a number, and of those the
nearest to it. `Binary64.text` lays the digits out.
-/

namespace SemverDispatch

/-- A floating point number. -/
inductive Binary64 where
  /-- a finite number, with a mantissa below `2 ^ 53` and an exponent from -1074 on -/
  | finite (negative : Bool) (mantissa : Nat) (exponent : Int)
  /-- an infinity -/
  | infinite (negative : Bool)
  /-- not a number -/
  | nan
  deriving DecidableEq, Repr, Inhabited

namespace Binary64

/-! ## Rounding -/

/-- The quotient rounded to the nearest whole number, halves to the even neighbour. -/
def roundHalfEven (num den : Nat) : Nat :=
  let q := num / den
  let r := num % den
  if 2 * r < den ∨ (2 * r = den ∧ q % 2 = 0) then q else q + 1

/-- The quotient `num / den * 2 ^ (-e)` as a numerator and a denominator. -/
def scaled (num den : Nat) (e : Int) : Nat × Nat :=
  if 0 ≤ e then (num, den <<< e.toNat) else (num <<< (-e).toNat, den)

/-- The number nearest to `num / den`, halves to the even mantissa. -/
def ofRatio (negative : Bool) (num den : Nat) : Binary64 :=
  if num = 0 then .finite negative 0 (-1074)
  else
    let guess : Int := (Nat.log2 num : Int) - (Nat.log2 den : Int) - 52
    let (n, d) := scaled num den guess
    let fit : Int := if n < d <<< 52 then guess - 1 else guess
    let e : Int := max fit (-1074)
    let (n, d) := scaled num den e
    let m := roundHalfEven n d
    let (m, e) := if m = 1 <<< 53 then (1 <<< 52, e + 1) else (m, e)
    if 971 < e then .infinite negative else .finite negative m e

/-- The number nearest to `digits * 10 ^ exponent`. -/
def ofDecimal (negative : Bool) (digits : Nat) (exponent : Int) : Binary64 :=
  let size := exponent + ((Nat.toDigits 10 digits).length : Int)
  if digits = 0 ∨ size < -330 then .finite negative 0 (-1074)
  else if 310 < size then .infinite negative
  else if 0 ≤ exponent then ofRatio negative (digits * Decimal.power exponent.toNat) 1
  else ofRatio negative digits (Decimal.power (-exponent).toNat)

/-- The magnitude `mantissa * 2 ^ exponent` as a quotient. -/
def ratio (mantissa : Nat) (exponent : Int) : Nat × Nat :=
  if 0 ≤ exponent then (mantissa <<< exponent.toNat, 1) else (mantissa, 1 <<< (-exponent).toNat)

/-! ## The fewest digits that read back -/

/-- The exponent `x` with `10 ^ x ≤ num / den < 10 ^ (x + 1)`. -/
def decimalExponent (num den : Nat) : Int :=
  if den ≤ num then ((Nat.toDigits 10 (num / den)).length : Int) - 1
  else -((Nat.toDigits 10 ((den - 1) / num)).length : Int)

/-- The point of the grid `10 ^ k` that reads back as the number and is nearest to it, if one of its two
neighbours on the grid reads back. -/
def gridPoint? (mantissa : Nat) (exponent : Int) (k : Int) : Option Nat :=
  let (num, den) := ratio mantissa exponent
  let (n, d) := if 0 ≤ k then (num, den * Decimal.power k.toNat) else (num * Decimal.power (-k).toNat, den)
  let low := n / d
  let readsBack (p : Nat) : Bool := ofDecimal false p k == .finite false mantissa exponent
  let gapLow := n - low * d
  let gapHigh := (low + 1) * d - n
  if readsBack low && readsBack (low + 1) then
    if gapLow < gapHigh ∨ (gapLow = gapHigh ∧ low % 2 = 0) then some low else some (low + 1)
  else if readsBack low then some low
  else if readsBack (low + 1) then some (low + 1)
  else none

/-- The first grid, from `digits` digits on, with a point that reads back: the point and the grid's
exponent. `tries` grids are looked at. -/
def firstGrid (mantissa : Nat) (exponent top : Int) : (tries digits : Nat) → Nat × Int
  | 0, _ => (mantissa, exponent)
  | tries + 1, digits =>
    let k := top - (digits : Int) + 1
    match gridPoint? mantissa exponent k with
    | some p => (p, k)
    | none => firstGrid mantissa exponent top tries (digits + 1)

/-- The fewest decimal digits that read back as a positive number, and the power of ten that they
count: 17 digits always suffice. -/
def shortest (mantissa : Nat) (exponent : Int) : Nat × Int :=
  let (num, den) := ratio mantissa exponent
  firstGrid mantissa exponent (decimalExponent num den) 17 1

/-! ## Layout -/

/-- How a floating point number is written. -/
structure Style where
  /-- the least power of ten that is written positionally -/
  least : Int := -4
  /-- the power of ten from which on a mantissa and an exponent are written -/
  beyond : Int := 16
  /-- the least number of digits of an exponent -/
  exponentWidth : Nat := 2
  /-- the name of what is no number -/
  nanName : Text := "nan"
  /-- the name of infinity -/
  infinityName : Text := "inf"

/-- Numbers as values show them. -/
def Style.display : Style := {}

/-- Numbers inside JSON. -/
def Style.json : Style := { nanName := "NaN", infinityName := "Infinity" }

/-- A number of zeros. -/
def zeros (n : Nat) : Text := List.replicate n (.char '0')

/-- Digits whose first one counts `10 ^ top`, laid out. -/
def layout (style : Style) (digits : Text) (top : Int) : Text :=
  if style.least ≤ top ∧ top < style.beyond then
    if top < 0 then "0." ++ zeros (-top - 1).toNat ++ digits
    else
      let whole := top.toNat + 1
      let padded := digits ++ zeros (whole - digits.length)
      let fraction := padded.drop whole
      padded.take whole ++ [.char '.'] ++ (if fraction = [] then zeros 1 else fraction)
  else
    let power := Decimal.ofNat top.natAbs
    let mark : CodePoint := if top < 0 then .char '-' else .char '+'
    digits.take 1 ++ (if digits.drop 1 = [] then [] else .char '.' :: digits.drop 1)
      ++ .char 'e' :: mark :: zeros (style.exponentWidth - power.length) ++ power

/-- A finite magnitude as text. -/
def magnitudeText (style : Style) (mantissa : Nat) (exponent : Int) : Text :=
  if mantissa = 0 then "0.0"
  else
    let (point, k) := shortest mantissa exponent
    let all := Decimal.ofNat point
    let digits := (all.reverse.dropWhile (· = .char '0')).reverse
    layout style digits (k + (all.length : Int) - 1)

/-- A minus sign in front of a text, or not. -/
def signed (negative : Bool) (t : Text) : Text := if negative then .char '-' :: t else t

/-- A floating point number as text. -/
def text (style : Style) : Binary64 → Text
  | .nan => style.nanName
  | .infinite negative => signed negative style.infinityName
  | .finite negative mantissa exponent => signed negative (magnitudeText style mantissa exponent)

/-! ## Reading -/

/-- The longest start of a text that is ASCII digits, and the rest. -/
def spanDigits (t : Text) : Text × Text := t.span CodePoint.isAsciiDigit

/-- The exponent after an `e`, and what follows it; nothing if no digit comes. -/
def exponentPart : Text → Option (Int × Text)
  | c :: rest =>
    if c = .char 'e' ∨ c = .char 'E' then
      let (negative, rest) := match rest with
        | .char '-' :: r => (true, r)
        | .char '+' :: r => (false, r)
        | r => (false, r)
      let (digits, rest) := spanDigits rest
      if digits = [] then none
      else
        let n : Int := Decimal.value digits
        some (if negative then -n else n, rest)
    else none
  | [] => none

/-- The digits after a point, and what follows them; nothing if no digit comes. -/
def fractionPart : Text → Option (Text × Text)
  | .char '.' :: rest =>
    let (digits, rest) := spanDigits rest
    if digits = [] then none else some (digits, rest)
  | _ => none

/-- The number that digits, a fraction and an exponent write. -/
def ofParts (negative : Bool) (whole fraction : Text) (exponent : Int) : Binary64 :=
  ofDecimal negative (Decimal.value (whole ++ fraction)) (exponent - (fraction.length : Int))

/-! ## Order -/

/-- Sign and magnitude as an integer numerator over a natural denominator; nothing if not finite. -/
def quotient? : Binary64 → Option (Int × Nat)
  | .finite negative mantissa exponent =>
    let (num, den) := ratio mantissa exponent
    some (if negative then -(num : Int) else num, den)
  | _ => none

/-- Is the number zero? -/
def isZero : Binary64 → Bool
  | .finite _ mantissa _ => mantissa == 0
  | _ => false

/-- Does one number lie below another? What is no number has no order. -/
def lt : Binary64 → Binary64 → Bool
  | .nan, _ | _, .nan => false
  | .infinite negative, .infinite negative' => negative && !negative'
  | .infinite negative, .finite .. => negative
  | .finite .., .infinite negative => !negative
  | a@(.finite ..), b@(.finite ..) =>
    match quotient? a, quotient? b with
    | some (n, d), some (n', d') => n * d' < n' * d
    | _, _ => false

/-- Are two numbers the same value? Both zeros are; what is no number differs from itself. -/
def sameValue : Binary64 → Binary64 → Bool
  | .nan, _ | _, .nan => false
  | a, b => !lt a b && !lt b a

end Binary64

end SemverDispatch
