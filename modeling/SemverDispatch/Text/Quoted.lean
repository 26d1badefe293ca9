import SemverDispatch.Text.Printable

/-!
# Quoted text

A text between quotes, with what cannot be printed escaped. Single quotes enclose it, or double
quotes if it holds a single quote and no double one. Bytes are quoted in the same way after a `b`.
-/

namespace SemverDispatch

/-- The digit of a value below 36, letters in lower case. -/
def lowerDigit (d : Nat) : CodePoint :=
  if d < 10 then .ofNat (0x30 + d) else .ofNat (0x61 + (d - 10))

/-- The lowest `width` hexadecimal digits of a number, in lower case. -/
def hexDigits : (width : Nat) → Nat → Text
  | 0, _ => []
  | width + 1, n => hexDigits width (n / 16) ++ [lowerDigit (n % 16)]

namespace Text

/-- The quote that encloses a text. -/
def quoteFor (t : Text) : CodePoint :=
  if .char '\'' ∈ t ∧ .char '"' ∉ t then .char '"' else .char '\''

/-- One code point inside quotes. -/
def quotePoint (quote c : CodePoint) : Text :=
  if c = .char '\\' ∨ c = quote then [.char '\\', c]
  else if c = .char '\n' then "\\n"
  else if c = .char '\r' then "\\r"
  else if c = .char '\t' then "\\t"
  else if c.isPrintable then [c]
  else if c.value < 0x100 then "\\x" ++ hexDigits 2 c.value
  else if c.value < 0x10000 then "\\u" ++ hexDigits 4 c.value
  else "\\U" ++ hexDigits 8 c.value

/-- The text between quotes. -/
def quoted (t : Text) : Text :=
  let quote := quoteFor t
  quote :: t.flatMap (quotePoint quote) ++ [quote]

end Text

namespace Bytes

/-- One byte inside quotes: ASCII is shown, everything else is escaped. -/
def quoteByte (quote : CodePoint) (b : UInt8) : Text :=
  if b < 0x80 then Text.quotePoint quote (.ofNat b.toNat) else "\\x" ++ hexDigits 2 b.toNat

/-- The bytes between quotes, after a `b`. -/
def quoted (bs : Bytes) : Text :=
  let quote := Text.quoteFor (bs.map fun b => .ofNat b.toNat)
  .char 'b' :: quote :: bs.flatMap (quoteByte quote) ++ [quote]

end Bytes

end SemverDispatch
