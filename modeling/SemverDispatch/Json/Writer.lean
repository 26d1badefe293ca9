import SemverDispatch.Value.Basic
import SemverDispatch.Text.Quoted
import SemverDispatch.Text.Encoding

/-!
# Writing JSON

Values as compact JSON: no blanks, entries in their order, and ASCII alone, since everything beyond is
escaped by UTF-16 units. Keys that are numbers, truth values or nothing become text; two keys that
become the same text are both written. `depth` says how many arrays and objects may be inside each other.
-/

namespace SemverDispatch

namespace Json

/-- Why a value has no JSON. -/
inductive WriteError where
  /-- a value of a type that JSON has nothing for -/
  | unsupported (typeName : Text)
  /-- a key of a type that cannot become text -/
  | badKey (typeName : Text)
  /-- an integer with more digits than are written -/
  | tooLarge
  /-- arrays and objects too deep inside each other -/
  | tooDeep
  deriving DecidableEq, Repr

/-- The error as a message. -/
def WriteError.message : WriteError → Text
  | .unsupported name => "Object of type " ++ name ++ " is not JSON serializable"
  | .badKey name => "keys must be str, int, float, bool or None, not " ++ name
  | .tooLarge => Decimal.tooLarge
  | .tooDeep => "maximum recursion depth exceeded while encoding a JSON object"

/-- Characters with a short escape. -/
def shortEscapes : List (CodePoint × CodePoint) :=
  [(.char '"', .char '"'), (.char '\\', .char '\\'), (.char '\n', .char 'n'),
    (.char '\r', .char 'r'), (.char '\t', .char 't'), (.ofNat 0x0C, .char 'f'),
    (.ofNat 0x08, .char 'b')]

/-- A UTF-16 unit in four hexadecimal digits. -/
def unitEscape (unit : Nat) : Text := "\\u" ++ hexDigits 4 unit

/-- One code point inside a JSON string. -/
def escapePoint (c : CodePoint) : Text :=
  match shortEscapes.lookup c with
  | some letter => [.char '\\', letter]
  | none =>
    if 0x20 ≤ c.value ∧ c.value < 0x7F then [c] else (Utf16.unitsOf c).flatMap unitEscape

/-- A JSON string. -/
def string (t : Text) : Text := .char '"' :: t.flatMap escapePoint ++ [.char '"']

/-- An integer, if it has not too many digits. -/
def integer (n : Int) : Except WriteError Text :=
  if Decimal.isTooLarge n then .error .tooLarge else .ok (Decimal.ofInt n)

/-- The text that a key becomes. -/
def key : Value → Except WriteError Text
  | .text t => .ok t
  | .float x => .ok (x.text .json)
  | .bool b => .ok (if b then "true" else "false")
  | .null => .ok "null"
  | .int n => integer n
  | v => .error (.badKey v.qualifiedTypeName)

/-- Several texts, separated by commas. -/
def commaSeparated (parts : List Text) : Text := Text.join [.char ','] parts

/-- A value as JSON. -/
def write : (depth : Nat) → Value → Except WriteError Text
  | _, .null => .ok "null"
  | _, .bool b => .ok (if b then "true" else "false")
  | _, .int n => integer n
  | _, .float x => .ok (x.text .json)
  | _, .text t => .ok (string t)
  | 0, .list _ | 0, .tuple _ | 0, .dict _ => .error .tooDeep
  | depth + 1, .list items | depth + 1, .tuple items => do
    return .char '[' :: commaSeparated (← writeAll depth items) ++ [.char ']']
  | depth + 1, .dict entries => do
    return .char '\x7b' :: commaSeparated (← writeEntries depth entries) ++ [.char '\x7d']
  | _, v => .error (.unsupported v.typeName)
termination_by structural _ v => v
where
  /-- Several values as JSON, up to the first error. -/
  writeAll (depth : Nat) : List Value → Except WriteError (List Text)
    | [] => .ok []
    | v :: rest => do
      let t ← write depth v
      return t :: (← writeAll depth rest)
  termination_by structural items => items
  /-- Entries as JSON, up to the first error; a key is looked at before its value. -/
  writeEntries (depth : Nat) : List (Value × Value) → Except WriteError (List Text)
    | [] => .ok []
    | (k, v) :: rest => do
      let name ← key k
      let t ← write depth v
      return (string name ++ .char ':' :: t) :: (← writeEntries depth rest)
  termination_by structural entries => entries

end Json

end SemverDispatch
