import SemverDispatch.Text.Encoding

/-!
# Form encoding

Names and values as the fields of a query string: joined by `=` and `&`, a blank written `+`, and every
byte of UTF-8 beyond letters, digits and four marks written as `%` and two digits.

`Form.parse` reads any text: fields split at `&`, empty ones are skipped, the first `=` ends the name,
a `%` without two digits stands for itself, and bytes that are no UTF-8 become U+FFFD.
-/

namespace SemverDispatch

namespace Form

/-! ## Writing -/

/-- A hexadecimal digit in upper case. -/
def upperDigit (d : Nat) : CodePoint :=
  if d < 10 then .ofNat (0x30 + d) else .ofNat (0x41 + (d - 10))

/-- A byte as `%` and two digits. -/
def percent (b : UInt8) : Text := [.char '%', upperDigit (b.toNat / 16), upperDigit (b.toNat % 16)]

/-- Is this a byte that stands for itself: a letter, a digit or one of `_`, `.`, `-` and `~`? -/
def isUnreserved (b : UInt8) : Bool :=
  let c := CodePoint.ofNat b.toNat
  c.isAsciiLetter || c.isAsciiDigit || c = .char '_' || c = .char '.' || c = .char '-'
    || c = .char '~'

/-- One byte, encoded. -/
def encodeByte (b : UInt8) : Text :=
  if isUnreserved b then [.ofNat b.toNat]
  else if b = 0x20 then [.char '+']
  else percent b

/-- Bytes, encoded. -/
def encodeBytes (bs : Bytes) : Text := bs.flatMap encodeByte

/-- A text, encoded by its bytes in UTF-8, if it has them. -/
def encodeText? (t : Text) : Option Text := (Utf8.encode? t).map encodeBytes

/-- A field from its encoded name and value. -/
def field (name value : Text) : Text := name ++ [.char '='] ++ value

/-- Fields joined to a query string. -/
def joinFields (fields : List Text) : Text := Text.join [.char '&'] fields

/-- Names and values as a query string, if all of them have bytes in UTF-8. -/
def encode? (pairs : List (Text × Text)) : Option Text := do
  let fields ← pairs.mapM fun (name, value) => do
    return field (← encodeText? name) (← encodeText? value)
  return joinFields fields

/-! ## Reading -/

/-- The text with a blank for every `+`. -/
def plusToBlank (t : Text) : Text := t.map fun c => if c = .char '+' then .char ' ' else c

/-- The text of a component. Bytes wait in `pending`, the latest first, until a code point that is not
ASCII ends their run. -/
def decodeFrom : (pending : Bytes) → Text → Text
  | pending, [] => Utf8.decodeLossy pending.reverse
  | pending, .char '%' :: a :: b :: rest =>
    match a.hexDigit?, b.hexDigit? with
    | some high, some low => decodeFrom (UInt8.ofNat (high * 16 + low) :: pending) rest
    | _, _ => decodeFrom (0x25 :: pending) (a :: b :: rest)
  | pending, c :: rest =>
    if c.value < 0x80 then decodeFrom (UInt8.ofNat c.value :: pending) rest
    else Utf8.decodeLossy pending.reverse ++ c :: decodeFrom [] rest

/-- The text that a name or value of a field writes. -/
def decode (t : Text) : Text := decodeFrom [] (plusToBlank t)

/-- The name and value of a field; a field without `=` has an empty value. -/
def readField (t : Text) : Text × Text :=
  let (name, value) := Text.splitFirst (.char '=') t
  (decode name, decode (value.getD []))

/-- The names and values of a query string, in order. -/
def parse (t : Text) : List (Text × Text) :=
  ((Text.splitOn (.char '&') t).filter (!·.isEmpty)).map readField

end Form

end SemverDispatch
