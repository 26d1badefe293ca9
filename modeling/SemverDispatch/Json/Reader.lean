import SemverDispatch.Value.Compare
import SemverDispatch.Text.Encoding

/-!
# Reading JSON

Values from JSON text, and from bytes whose encoding their first ones give away. Beyond the standard,
`NaN` and the two infinities are numbers. A repeated key keeps its first place and its last value.

Every reader takes what it reads off the front of the text and hands back the rest. `depth` says how many
arrays and objects may still be opened, one inside the other.
-/

namespace SemverDispatch

namespace Json

/-- What holds other values. -/
inductive Container where
  /-- values in order -/
  | array
  /-- values under names -/
  | object
  deriving DecidableEq, Repr

/-- Why a text is no JSON. -/
inductive ReadError where
  /-- it breaks the grammar -/
  | malformed
  /-- its bytes break their encoding -/
  | badEncoding
  /-- an integer has more digits than are read -/
  | tooLong (digits : Nat)
  /-- this is one too many inside each other -/
  | tooDeep (innermost : Container)
  deriving DecidableEq, Repr

/-- What a container is called. -/
def Container.name : Container → Text
  | array => "array"
  | object => "object"

/-- The text of an error that is no fault of the grammar or the encoding. -/
def ReadError.message? : ReadError → Option Text
  | tooLong digits => some (Decimal.tooLong digits)
  | tooDeep innermost =>
    some ("maximum recursion depth exceeded while decoding a JSON " ++ innermost.name
      ++ " from a unicode string")
  | malformed | badEncoding => none

/-- Is this a blank of JSON? -/
def isBlank (c : CodePoint) : Bool :=
  c = .char ' ' || c = .char '\t' || c = .char '\n' || c = .char '\r'

/-- The text without its leading blanks. -/
def skipBlanks (t : Text) : Text := t.dropWhile isBlank

/-! ## Strings -/

/-- The value of four hexadecimal digits, and the rest. -/
def unit? : Text → Option (Nat × Text)
  | a :: b :: c :: d :: rest => do
    let a ← a.hexDigit?
    let b ← b.hexDigit?
    let c ← c.hexDigit?
    let d ← d.hexDigit?
    return (((a * 16 + b) * 16 + c) * 16 + d, rest)
  | _ => none

/-- The character that a letter stands for behind a backslash. -/
def unescape? (c : CodePoint) : Option CodePoint :=
  [(CodePoint.char '"', CodePoint.char '"'), (.char '\\', .char '\\'), (.char '/', .char '/'),
    (.char 'b', .ofNat 0x08), (.char 'f', .ofNat 0x0C), (.char 'n', .char '\n'),
    (.char 'r', .char '\r'), (.char 't', .char '\t')].lookup c

/-- What follows the letter `u` of an escape: a unit, or two that make a pair. -/
def unicodeEscape? (rest : Text) : Option (CodePoint × Text) := do
  let (high, after) ← unit? rest
  if Utf16.isHigh high then
    if let .char '\\' :: .char 'u' :: more := after then
      if let some (low, behind) := unit? more then
        if Utf16.isLow low then return (.ofNat (Utf16.pair high low), behind)
      else failure
  return (.ofNat high, after)

/-- The characters of a string up to its closing quote. `fuel` bounds their number. -/
def readString : (fuel : Nat) → Text → Except ReadError (Text × Text)
  | 0, _ | _, [] => .error .malformed
  | fuel + 1, c :: rest =>
    if c = .char '"' then .ok ([], rest)
    else if c = .char '\\' then
      match rest with
      | [] => .error .malformed
      | letter :: after =>
        let read := if letter = .char 'u' then unicodeEscape? after
          else (unescape? letter).map (·, after)
        match read with
        | none => .error .malformed
        | some (p, behind) => do
          let (t, last) ← readString fuel behind
          return (p :: t, last)
    else if c.value < 0x20 then .error .malformed
    else do
      let (t, last) ← readString fuel rest
      return (c :: t, last)

/-! ## Numbers -/

/-- The whole part of a number: a zero alone, or digits that start with another one. -/
def wholePart (t : Text) : Option (Text × Text) :=
  match t with
  | .char '0' :: rest => some ([.char '0'], rest)
  | _ =>
    let (digits, rest) := Binary64.spanDigits t
    if digits = [] then none else some (digits, rest)

/-- A number whose sign has been read. -/
def readMagnitude (negative : Bool) (t : Text) : Except ReadError (Value × Text) :=
  match wholePart t with
  | none => .error .malformed
  | some (whole, rest) =>
    let (fraction, rest₁) := (Binary64.fractionPart rest).getD ([], rest)
    let power := Binary64.exponentPart rest₁
    if fraction = [] ∧ power.isNone then
      if Decimal.digitLimit < whole.length then .error (.tooLong whole.length)
      else
        let n : Int := Decimal.value whole
        .ok (.int (if negative then -n else n), rest)
    else
      let (exponent, rest₂) := power.getD (0, rest₁)
      .ok (.float (Binary64.ofParts negative whole fraction exponent), rest₂)

/-! ## Values -/

/-- The rest of a text that starts with a word. -/
def afterWord? (word : String) (t : Text) : Option Text :=
  let w := Text.ofString word
  if w.isPrefixOf t then some (t.drop w.length) else none

/-- Words that are values. -/
def words : List (String × Value) :=
  [("null", .null), ("true", .bool true), ("false", .bool false), ("NaN", .float .nan),
    ("Infinity", .float (.infinite false)), ("-Infinity", .float (.infinite true))]

/-- A value that is one word. -/
def readWord (t : Text) : Option (Value × Text) :=
  words.findSome? fun (word, v) => (afterWord? word t).map (v, ·)

mutual

/-- The value that a text starts with. `fuel` bounds the number of steps. -/
def readValue : (fuel depth : Nat) → Text → Except ReadError (Value × Text)
  | 0, _, _ | _, _, [] => .error .malformed
  | fuel + 1, depth, c :: rest =>
    if c = .char '"' then do
      let (t, after) ← readString (rest.length + 1) rest
      return (.text t, after)
    else if c = .char '[' then
      match depth, skipBlanks rest with
      | 0, _ => .error (.tooDeep .array)
      | _, .char ']' :: after => .ok (.list [], after)
      | depth + 1, inside => do
        let (items, after) ← readItems fuel depth inside
        return (.list items, after)
    else if c = .char '\x7b' then
      match depth, skipBlanks rest with
      | 0, _ => .error (.tooDeep .object)
      | _, .char '\x7d' :: after => .ok (.dict [], after)
      | depth + 1, inside => do
        let (entries, after) ← readEntries fuel depth [] inside
        return (.dict entries, after)
    else
      match readWord (c :: rest) with
      | some read => .ok read
      | none => if c = .char '-' then readMagnitude true rest else readMagnitude false (c :: rest)

/-- The values up to a closing bracket. -/
def readItems : (fuel depth : Nat) → Text → Except ReadError (List Value × Text)
  | 0, _, _ => .error .malformed
  | fuel + 1, depth, t => do
    let (v, after) ← readValue fuel depth t
    match skipBlanks after with
    | .char ']' :: behind => return ([v], behind)
    | .char ',' :: behind =>
      let (rest, last) ← readItems fuel depth (skipBlanks behind)
      return (v :: rest, last)
    | _ => .error .malformed

/-- The entries up to a closing brace, put behind those already read. -/
def readEntries : (fuel depth : Nat) → List (Value × Value) → Text →
    Except ReadError (List (Value × Value) × Text)
  | 0, _, _, _ => .error .malformed
  | fuel + 1, depth, entries, t =>
    match t with
    | .char '"' :: afterQuote => do
      let (k, afterKey) ← readString (afterQuote.length + 1) afterQuote
      match skipBlanks afterKey with
      | .char ':' :: afterColon =>
        let (v, after) ← readValue fuel depth (skipBlanks afterColon)
        let grown := Value.insertEntry entries (.text k) v
        match skipBlanks after with
        | .char '\x7d' :: behind => return (grown, behind)
        | .char ',' :: behind => readEntries fuel depth grown (skipBlanks behind)
        | _ => .error .malformed
      | _ => .error .malformed
    | _ => .error .malformed

end

/-- The value that a text writes. -/
def read (depth : Nat) (t : Text) : Except ReadError Value := do
  let (v, rest) ← readValue (t.length + 1) depth (skipBlanks t)
  if skipBlanks rest = [] then return v else throw .malformed

/-! ## Bytes -/

/-- An encoding of JSON bytes. -/
inductive Encoding where
  /-- UTF-8 behind some bytes that mark it -/
  | utf8 (markLength : Nat)
  /-- UTF-16 behind some bytes that mark it -/
  | utf16 (order : ByteOrder) (markLength : Nat)
  /-- UTF-32 behind some bytes that mark it -/
  | utf32 (order : ByteOrder) (markLength : Nat)
  deriving DecidableEq

/-- The bytes that mark an encoding, a longer mark before one that it starts with. -/
def marks : List (Bytes × Encoding) :=
  [([0x00, 0x00, 0xFE, 0xFF], .utf32 .big 4), ([0xFF, 0xFE, 0x00, 0x00], .utf32 .little 4),
    ([0xFE, 0xFF], .utf16 .big 2), ([0xFF, 0xFE], .utf16 .little 2), ([0xEF, 0xBB, 0xBF], .utf8 3)]

/-- The encoding of bytes without a mark, by where zeros stand among the first ones. -/
def unmarkedEncoding : Bytes → Encoding
  | a :: b :: c :: d :: _ =>
    if a = 0 then if b ≠ 0 then .utf16 .big 0 else .utf32 .big 0
    else if b = 0 then if c ≠ 0 ∨ d ≠ 0 then .utf16 .little 0 else .utf32 .little 0
    else .utf8 0
  | [a, b] => if a = 0 then .utf16 .big 0 else if b = 0 then .utf16 .little 0 else .utf8 0
  | _ => .utf8 0

/-- The encoding that the first bytes give away: by a mark, or by where zeros stand. -/
def encodingOf (bs : Bytes) : Encoding :=
  match marks.find? fun (mark, _) => mark.isPrefixOf bs with
  | some (_, encoding) => encoding
  | none => unmarkedEncoding bs

/-- The text of bytes in an encoding, if they are well formed. Surrogates are let through. -/
def Encoding.decode? (bs : Bytes) : Encoding → Option Text
  | .utf8 n => Utf8.decode? true (bs.drop n)
  | .utf16 order n => Utf16.decode? order (bs.drop n)
  | .utf32 order n => Utf32.decode? order (bs.drop n)

/-- The value that bytes write. -/
def readBytes (depth : Nat) (bs : Bytes) : Except ReadError Value :=
  match (encodingOf bs).decode? bs with
  | some t => read depth t
  | none => .error .badEncoding

end Json

end SemverDispatch
