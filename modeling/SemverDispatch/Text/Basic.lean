/-!
# Text

Text as a host hands it over: a list of code points. A code point is a character or a surrogate
that stands alone, since a host may pass on half of a pair; every other module reads and writes
text through this type. String literals are text by coercion.

Main definitions: `CodePoint`, `Text`, `Text.ofString`, `Text.join`, `Text.splitOn`.
-/

namespace SemverDispatch

/-- A code point of text. -/
inductive CodePoint where
  /-- a Unicode scalar value -/
  | char (c : Char)
  /-- the surrogate `0xD800 + half`, without its partner -/
  | lone (half : Fin 2048)
  deriving DecidableEq, Repr, Inhabited

namespace CodePoint

/-- The number of a code point. -/
def value : CodePoint → Nat
  | .char c => c.toNat
  | .lone half => 0xD800 + half.val

/-- The code point with a given number, if there is one. -/
def ofNat? (n : Nat) : Option CodePoint :=
  if h : n.isValidChar then some (.char (Char.ofNatAux n h))
  else if h : 0xD800 ≤ n ∧ n < 0xE000 then some (.lone ⟨n - 0xD800, by omega⟩)
  else none

/-- The character with a given number; numbers outside Unicode become U+FFFD. -/
def ofNat (n : Nat) : CodePoint := (ofNat? n).getD (.char '\uFFFD')

/-- The digit `0` to `9` that a code point is, by value. -/
def asciiDigit? (c : CodePoint) : Option Nat :=
  if 0x30 ≤ c.value ∧ c.value ≤ 0x39 then some (c.value - 0x30) else none

/-- Is this one of `0` to `9`? -/
def isAsciiDigit (c : CodePoint) : Bool := c.asciiDigit?.isSome

/-- Is this one of the letters `a` to `z` and `A` to `Z`? -/
def isAsciiLetter (c : CodePoint) : Bool :=
  (0x41 ≤ c.value && c.value ≤ 0x5A) || (0x61 ≤ c.value && c.value ≤ 0x7A)

/-- The value of a hexadecimal digit, in either case. -/
def hexDigit? (c : CodePoint) : Option Nat :=
  let n := c.value
  if 0x30 ≤ n ∧ n ≤ 0x39 then some (n - 0x30)
  else if 0x41 ≤ n ∧ n ≤ 0x46 then some (n - 0x41 + 10)
  else if 0x61 ≤ n ∧ n ≤ 0x66 then some (n - 0x61 + 10)
  else none

end CodePoint

/-- Text is a list of code points. -/
abbrev Text := List CodePoint

/-- Bytes, in order. -/
abbrev Bytes := List UInt8

namespace Text

/-- The code points of a string, none of which is a surrogate. -/
def ofString (s : String) : Text := s.toList.map .char

instance : Coe String Text := ⟨ofString⟩

/-- The parts in order, with `separator` between neighbours. -/
def join (separator : Text) : List Text → Text
  | [] => []
  | [t] => t
  | t :: rest => t ++ separator ++ join separator rest

/-- The parts of a text around every occurrence of a code point: one more than it occurs. -/
def splitOn (mark : CodePoint) : Text → List Text
  | [] => [[]]
  | c :: rest =>
    if c = mark then [] :: splitOn mark rest
    else
      match splitOn mark rest with
      | [] => [[c]]
      | part :: parts => (c :: part) :: parts

/-- A text up to the first occurrence of a code point, and what follows it if it occurs. -/
def splitFirst (mark : CodePoint) : Text → Text × Option Text
  | [] => ([], none)
  | c :: rest =>
    if c = mark then ([], some rest)
    else
      let (before, after) := splitFirst mark rest
      (c :: before, after)

/-- Is every code point a scalar value? -/
def isScalar (t : Text) : Bool :=
  t.all fun
    | .char _ => true
    | .lone _ => false

/-- Texts in the order of their code points. -/
def lt : Text → Text → Bool
  | _, [] => false
  | [], _ :: _ => true
  | a :: as, b :: bs => a.value < b.value || (a.value == b.value && lt as bs)

theorem splitOn_ne_nil (mark : CodePoint) (t : Text) : splitOn mark t ≠ [] := by
  cases t with
  | nil => simp [splitOn]
  | cons c rest =>
    simp only [splitOn]
    split
    · simp
    · split <;> simp

/-- A text without the mark is its only part. -/
theorem splitOn_of_not_mem {mark : CodePoint} {t : Text} (h : mark ∉ t) : splitOn mark t = [t] := by
  induction t with
  | nil => rfl
  | cons c rest ih =>
    obtain ⟨hc, hrest⟩ : mark ≠ c ∧ mark ∉ rest := not_or.mp (mt List.mem_cons.mpr h)
    rw [splitOn, if_neg fun heq => hc heq.symm, ih hrest]

/-- A mark in the middle separates the parts before it from those behind it. -/
theorem splitOn_append (mark : CodePoint) (s t : Text) :
    splitOn mark (s ++ mark :: t) = splitOn mark s ++ splitOn mark t := by
  induction s with
  | nil => exact if_pos rfl
  | cons c rest ih =>
    rw [List.cons_append, splitOn, splitOn, ih]
    split
    · rfl
    · obtain ⟨part, parts, hsplit⟩ := List.exists_cons_of_ne_nil (splitOn_ne_nil mark rest)
      rw [hsplit]
      rfl

end Text

/-- A range table: first and last numbers of disjoint runs of code points, in increasing order. -/
abbrev RangeTable := List (Nat × Nat)

namespace RangeTable

/-- Does a run of the table hold this number? The scan ends at the first run that starts later. -/
def covers : RangeTable → Nat → Bool
  | [], _ => false
  | (first, last) :: rest, n => if n < first then false else n ≤ last || covers rest n

/-- Does a run of the table have a number in common with the run from `first` to `last`? -/
def meets (table : RangeTable) (first last : Nat) : Bool :=
  table.any fun (a, b) => a ≤ last && first ≤ b

end RangeTable

end SemverDispatch
