import SemverDispatch.Decimal
import SemverDispatch.Failure
import SemverDispatch.Text.Blank

/-!
# Versions

A version is a triple of natural numbers, ordered by major, then minor, then patch. `Version.parse?` reads
what a client sends: one to three runs of digits joined by points, where missing numbers are zero.
-/

namespace SemverDispatch

/-- A version, with the text that it was read from. -/
structure Version where
  /-- the first number -/
  major : Nat
  /-- the second number -/
  minor : Nat
  /-- the third number -/
  patch : Nat
  /-- the text it was read from -/
  raw : Text
  deriving DecidableEq, Repr

namespace Version

/-- The numbers of a version. -/
def triple (v : Version) : Nat × Nat × Nat := (v.major, v.minor, v.patch)

/-- The version of three integers, none of them negative. -/
def ofIntegers (major minor patch : Int) : Except Failure Version :=
  if 0 ≤ major ∧ 0 ≤ minor ∧ 0 ≤ patch then .ok ⟨major.toNat, minor.toNat, patch.toNat, []⟩
  else .error (.negativeComponent major minor patch)

/-- The version in full: three numbers joined by points. -/
def text (v : Version) : Text :=
  Decimal.ofNat v.major ++ .char '.' :: Decimal.ofNat v.minor ++ .char '.' :: Decimal.ofNat v.patch

/-! ## Order -/

/-- Triples in lexicographic order. -/
def tripleLt (a b : Nat × Nat × Nat) : Prop :=
  a.1 < b.1 ∨ (a.1 = b.1 ∧ (a.2.1 < b.2.1 ∨ (a.2.1 = b.2.1 ∧ a.2.2 < b.2.2)))

instance (a b : Nat × Nat × Nat) : Decidable (tripleLt a b) := by
  unfold tripleLt; infer_instance

/-- Versions are ordered by their triples; their texts do not matter. -/
instance : LT Version := ⟨fun a b => tripleLt a.triple b.triple⟩

instance : LE Version := ⟨fun a b => ¬ tripleLt b.triple a.triple⟩

instance (a b : Version) : Decidable (a < b) := inferInstanceAs (Decidable (tripleLt _ _))

instance (a b : Version) : Decidable (a ≤ b) := inferInstanceAs (Decidable (¬ tripleLt _ _))

/-- Which of two versions comes first. -/
def compare (a b : Version) : Ordering :=
  if a.triple = b.triple then .eq else if b < a then .gt else .lt

/-! ## Reading -/

/-- The greatest number of digits of a component. -/
def maxDigits : Nat := 16

/-- The number that one component of a version text writes. -/
def component? (t : Text) : Option Nat :=
  if t.length ≤ maxDigits then Decimal.toNat? t else none

/-- The version that a text without blanks around it writes, and how many numbers it spells out. -/
def split? (t : Text) : Option (Version × Nat) :=
  match (Text.splitOn (.char '.') t).mapM component? with
  | some [major] => some (⟨major, 0, 0, t⟩, 1)
  | some [major, minor] => some (⟨major, minor, 0, t⟩, 2)
  | some [major, minor, patch] => some (⟨major, minor, patch, t⟩, 3)
  | _ => none

/-- The version that a client's text writes. -/
def parse? (t : Text) : Option Version := (split? t.strip).map Prod.fst

/-- The version that a value writes, if it is text. -/
def ofValue? (v : Value) : Option Version := v.text?.bind parse?

/-- Does a value write a version? -/
def isValid (v : Value) : Bool := (ofValue? v).isSome

end Version

end SemverDispatch
