import SemverDispatch.Decimal

/-!
# Marks of patterns

The text of a pattern is cut into marks, a mark being one code point or a backslash with the next one. A
`Scan` takes marks one after another from a `Place`.

A backslash with nothing behind it is an error as soon as the mark before it is taken, whatever that mark
turns out to mean.
-/

namespace SemverDispatch

/-- Why a text is no pattern. -/
inductive PatternError where
  /-- something is wrong at a place, which is counted in code points -/
  | fault (reason : Text) (position : Nat)
  /-- a number of repetitions is out of range -/
  | hugeCount
  /-- a number of repetitions has more digits than are read -/
  | longCount (digits : Nat)
  /-- the number of a code point is no number of 31 bits -/
  | hugePoint
  /-- parentheses are nested too deeply -/
  | tooDeep
  /-- something is wrong with what has been read as a whole -/
  | unplaced (reason : Text)
  /-- the flags exclude each other, or what is read -/
  | badFlags (reason : Text)
  /-- a code point is written by its name; names are not looked up -/
  | pointName (name : Text)
  deriving DecidableEq, Repr

namespace PatternError

/-- The line and column of a place, both from 1 on. -/
def lineColumn (source : Text) (position : Nat) : Nat × Nat :=
  let lines := Text.splitOn (.char '\n') (source.take position)
  (lines.length, (lines.getLast?.getD []).length + 1)

/-- A place as text. Line and column are given if the pattern has a line break. -/
def placeText (source : Text) (position : Nat) : Text :=
  let place := " at position " ++ Decimal.ofNat position
  if .char '\n' ∈ source then
    let (line, column) := lineColumn source position
    place ++ " (line " ++ Decimal.ofNat line ++ ", column " ++ Decimal.ofNat column ++ ")"
  else place

/-- The error as text. -/
def message (source : Text) : PatternError → Text
  | fault reason position => reason ++ placeText source position
  | hugeCount => "the repetition number is too large"
  | longCount digits => Decimal.tooLong digits
  | hugePoint => "Python int too large to convert to C int"
  | tooDeep => "maximum recursion depth exceeded"
  | unplaced reason => reason
  | badFlags reason => reason
  | pointName name => "names of code points are not looked up: " ++ name

end PatternError

/-! ## Marks -/

/-- The smallest unit of a pattern. -/
inductive Mark where
  /-- a code point by itself -/
  | plain (c : CodePoint)
  /-- a code point behind a backslash -/
  | escaped (c : CodePoint)
  /-- a backslash at the end -/
  | dangling
  deriving DecidableEq

namespace Mark

/-- The marks of a text. -/
def ofText : Text → List Mark
  | [] => []
  | [c] => if c = .char '\\' then [.dangling] else [.plain c]
  | c :: d :: rest =>
    if c = .char '\\' then .escaped d :: ofText rest else .plain c :: ofText (d :: rest)

/-- The mark as it is written. -/
def text : Mark → Text
  | plain c => [c]
  | escaped c => [.char '\\', c]
  | dangling => [.char '\\']

/-- The number of code points of a mark. -/
def width (mark : Mark) : Nat := mark.text.length

end Mark

/-! ## Scans -/

/-- A place in a pattern. -/
structure Place where
  /-- how many code points are behind it -/
  position : Nat
  /-- the marks ahead of it -/
  ahead : List Mark

namespace Place

/-- The place before a whole text. -/
def start (source : Text) : Place := ⟨0, Mark.ofText source⟩

/-- The place behind the next mark. -/
def pass (place : Place) : Place :=
  match place.ahead with
  | [] => place
  | mark :: rest => ⟨place.position + mark.width, rest⟩

end Place

/-- Reads something from a place on, and leaves the place behind it. -/
abbrev Scan := StateT Place (Except PatternError)

namespace Scan

variable {α : Type}

/-- Something is wrong at a place. -/
def fault (reason : Text) (position : Nat) : Scan α := throw (.fault reason position)

/-- How many code points have been read. -/
def position : Scan Nat := return (← get).position

/-- The next mark, which is not taken. -/
def next? : Scan (Option Mark) := return (← get).ahead.head?

/-- What is said of a dangling backslash. -/
def danglingReason : Text := "bad escape (end of pattern)"

/-- A dangling backslash must not come next. -/
def check : Scan Unit := do
  if (← next?) = some .dangling then fault danglingReason (← position)

/-- Passes the next mark, whatever comes behind it. -/
def pass : Scan Unit := modify Place.pass

/-- Takes the next mark, if there is one. -/
def take? : Scan (Option Mark) := do
  let mark ← next?
  pass
  check
  return mark

/-- Takes the next mark if it is a given character by itself. -/
def accept (c : Char) : Scan Bool := do
  if (← next?) = some (.plain (.char c)) then
    pass
    check
    return true
  else return false

/-- Takes code points, at most `limit`, as long as they pass a test. -/
def takeWhile (test : CodePoint → Bool) : (limit : Nat) → Scan Text
  | 0 => return []
  | limit + 1 => do
    match ← next? with
    | some (.plain c) =>
      if test c then
        pass
        check
        return c :: (← takeWhile test limit)
      else return []
    | _ => return []

/-- Takes all code points that pass a test. -/
def takeAll (test : CodePoint → Bool) : Scan Text := do takeWhile test (← get).ahead.length

/-- Takes marks up to a closing one, at most `limit`: their text, and whether the closing one came. It is
taken too. -/
def takeUntil (close : Char) : (limit : Nat) → Scan (Text × Bool)
  | 0 => return ([], false)
  | limit + 1 => do
    match ← take? with
    | none => return ([], false)
    | some mark =>
      if mark = .plain (.char close) then return ([], true)
      else
        let (t, closed) ← takeUntil close limit
        return (mark.text ++ t, closed)

/-- Takes all marks up to a closing one. -/
def takeTo (close : Char) : Scan (Text × Bool) := do takeUntil close (← get).ahead.length

/-- Takes a name of some kind up to its closing mark, and says where it begins. -/
def takeName (kind : Text) (close : Char) : Scan (Text × Nat) := do
  let start ← position
  let (t, closed) ← takeTo close
  if t = [] then fault ("missing " ++ kind) start
  else if !closed then
    fault (Text.ofString "missing " ++ [.char close] ++ Text.ofString ", unterminated name") start
  else return (t, start)

end Scan

end SemverDispatch
