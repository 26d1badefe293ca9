import SemverDispatch.Pattern.Syntax
import SemverDispatch.Pattern.Mark

/-!
# Escapes of patterns

What a code point behind a backslash stands for, with the digits that may follow it. An escape means one
thing in a set and maybe another outside: `\b` is a backspace there and the edge of a word here.
-/

namespace SemverDispatch

/-- Is this an octal digit? -/
def CodePoint.isOctal (c : CodePoint) : Bool := 0x30 ≤ c.value && c.value ≤ 0x37

/-- The value of digits in a base, each read by the hexadecimal digits. -/
def digitsIn (base : Nat) (digits : Text) : Nat :=
  digits.foldl (fun n c => n * base + c.hexDigit?.getD 0) 0

/-- What an escape stands for. -/
inductive Escape where
  /-- one code point -/
  | point (c : CodePoint)
  /-- a named class -/
  | shorthand (s : Shorthand) (negated : Bool)
  /-- a place -/
  | anchor (a : Anchor)
  /-- the text of a group -/
  | reference (number : Nat)

namespace Escape

/-- Letters that name control characters, inside and outside sets. -/
def control? (c : CodePoint) : Option CodePoint :=
  [(CodePoint.char 'a', 0x07), (.char 'f', 0x0C), (.char 'n', 0x0A), (.char 'r', 0x0D),
    (.char 't', 0x09), (.char 'v', 0x0B), (.char '\\', 0x5C)].lookup c |>.map .ofNat

/-- Letters that name classes. -/
def class? (c : CodePoint) : Option (Shorthand × Bool) :=
  [(CodePoint.char 'd', Shorthand.digit, false), (.char 'D', .digit, true),
    (.char 's', .blank, false), (.char 'S', .blank, true),
    (.char 'w', .word, false), (.char 'W', .word, true)].lookup c

/-- Letters that name places. -/
def anchor? (c : CodePoint) : Option Anchor :=
  [(CodePoint.char 'A', Anchor.start), (.char 'Z', .finish), (.char 'b', .wordEdge),
    (.char 'B', .notWordEdge)].lookup c

/-- The number of hexadecimal digits behind a letter. -/
def hexWidth? (c : CodePoint) : Option Nat :=
  [(CodePoint.char 'x', 2), (.char 'u', 4), (.char 'U', 8)].lookup c

/-- An escape that writes a code point in hexadecimal digits. -/
def hex (start : Nat) (letter : CodePoint) (width : Nat) : Scan CodePoint := do
  let digits ← Scan.takeWhile (·.hexDigit?.isSome) width
  let written : Text := .char '\\' :: letter :: digits
  if digits.length ≠ width then Scan.fault ("incomplete escape " ++ written) start
  else
    let n := digitsIn 16 digits
    match CodePoint.ofNat? n with
    | some c => return c
    | none => if n < 0x80000000 then Scan.fault ("bad escape " ++ written) start else throw .hugePoint

/-- An octal number, which must be that of a byte. -/
def octal (start : Nat) (digits : Text) : Scan CodePoint :=
  let n := digitsIn 8 digits
  if 0o377 < n then
    Scan.fault ("octal escape value \\" ++ digits ++ " outside of range 0-0o377") start
  else return .ofNat n

/-- The code point that an escape stands for where nothing else applies. -/
def ordinary (start : Nat) (c : CodePoint) : Scan CodePoint :=
  if c.isAsciiLetter then Scan.fault ("bad escape \\" ++ [c]) start else return c

/-- Reads what follows the letter of an escape that writes a code point by its name. Names are not looked
up. -/
def named : Scan CodePoint := do
  if !(← Scan.accept '{') then Scan.fault "missing \x7b" (← Scan.position)
  else
    let (name, _) ← Scan.takeName "character name" '}'
    throw (.pointName name)

/-- Reads the rest of an escape inside a set. -/
def readInSet (start : Nat) (c : CodePoint) : Scan SetItem := do
  if c = .char 'b' then return .point (.ofNat 0x08)
  if let some p := control? c then return .point p
  if let some (s, negated) := class? c then return .shorthand s negated
  if let some width := hexWidth? c then return .point (← hex start c width)
  if c = .char 'N' then return .point (← named)
  if c.isOctal then
    let more ← Scan.takeWhile CodePoint.isOctal 2
    return .point (← octal start (c :: more))
  if c.isAsciiDigit then Scan.fault ("bad escape \\" ++ [c]) start
  else return .point (← ordinary start c)

/-- Reads the rest of an escape that starts with a digit from 1 on: an octal number of three digits, or the
number of a group of at most two. -/
def readNumber (start : Nat) (c : CodePoint) : Scan Escape := do
  match ← Scan.takeWhile CodePoint.isAsciiDigit 1 with
  | [] => return .reference (Decimal.value [c])
  | d :: _ =>
    if c.isOctal && d.isOctal then
      if let e :: _ ← Scan.takeWhile CodePoint.isOctal 1 then
        return .point (← octal start [c, d, e])
    return .reference (Decimal.value [c, d])

/-- Reads the rest of an escape outside sets. -/
def read (start : Nat) (c : CodePoint) : Scan Escape := do
  if let some (s, negated) := class? c then return .shorthand s negated
  if let some a := anchor? c then return .anchor a
  if let some p := control? c then return .point p
  if let some width := hexWidth? c then return .point (← hex start c width)
  if c = .char 'N' then return .point (← named)
  if c = .char '0' then
    let more ← Scan.takeWhile CodePoint.isOctal 2
    return .point (← octal start (c :: more))
  if c.isAsciiDigit then readNumber start c else return .point (← ordinary start c)

end Escape

end SemverDispatch
