import SemverDispatch.Value.Basic
import SemverDispatch.Text.Quoted

/-!
# Values as text

`Value.display` is how a message shows a value: text is shown as it is, everything else by
`Value.literal`, which quotes the texts inside.
-/

namespace SemverDispatch

namespace Value

/-- Several texts, separated by a comma and a blank. -/
def commas (parts : List Text) : Text := Text.join ", " parts

/-- The greatest length of a pattern's text in quotes; the rest is cut off. -/
def patternWidth : Nat := 200

/-- The name of a flag. -/
def flagName : Flag → Text
  | .template => "re.TEMPLATE"
  | .ignoreCase => "re.IGNORECASE"
  | .locale => "re.LOCALE"
  | .byLine => "re.MULTILINE"
  | .dotAll => "re.DOTALL"
  | .unicode => "re.UNICODE"
  | .verbose => "re.VERBOSE"
  | .debug => "re.DEBUG"
  | .ascii => "re.ASCII"

/-- What a pattern was read from, in quotes. -/
def sourceLiteral : PatternSource → Text
  | .text t => Text.quoted t
  | .bytes b => Bytes.quoted b

/-- The flags that a pattern is shown with. The alphabet of text goes without saying. -/
def shownFlags (p : Pattern) : List Flag :=
  match p.source with
  | .text _ => (Flag.inOrder p.flags).filter (· ≠ .unicode)
  | .bytes _ => Flag.inOrder p.flags

/-- A pattern with its flags. -/
def patternLiteral (p : Pattern) : Text :=
  let flags : Text := match (shownFlags p).map flagName with
    | [] => []
    | names => ", " ++ Text.join "|" names
  "re.compile(" ++ (sourceLiteral p.source).take patternWidth ++ flags ++ ")"

/-- A value with its texts quoted. -/
def literal : Value → Text
  | null => "None"
  | bool b => if b then "True" else "False"
  | int n => Decimal.ofInt n
  | float x => x.text .display
  | text t => Text.quoted t
  | bytes b => Bytes.quoted b
  | buffer b => "bytearray(" ++ Bytes.quoted b ++ ")"
  | list items => "[" ++ commas (literals items) ++ "]"
  | tuple [item] => "(" ++ item.literal ++ ",)"
  | tuple items => "(" ++ commas (literals items) ++ ")"
  | set [] => "set()"
  | set items => "\x7b" ++ commas (literals items) ++ "\x7d"
  | dict entries => "\x7b" ++ commas (entryLiterals entries) ++ "\x7d"
  | pattern p => patternLiteral p
  | record kind fields => kind.name ++ "(" ++ commas (fieldLiterals fields) ++ ")"
  | recordClass _ | plainClass _ => "<class>"
  | function _ => "<function>"
  | other name => "<" ++ name ++ " object>"
where
  /-- The literals of several values. -/
  literals : List Value → List Text
    | [] => []
    | v :: rest => v.literal :: literals rest
  /-- The literals of entries. -/
  entryLiterals : List (Value × Value) → List Text
    | [] => []
    | (k, v) :: rest => (k.literal ++ ": " ++ v.literal) :: entryLiterals rest
  /-- The literals of fields. -/
  fieldLiterals : List (Text × Value) → List Text
    | [] => []
    | (name, v) :: rest => (name ++ "=" ++ v.literal) :: fieldLiterals rest

/-- A value as a message shows it. -/
def display : Value → Text
  | text t => t
  | v => v.literal

end Value

end SemverDispatch
