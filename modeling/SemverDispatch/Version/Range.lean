import SemverDispatch.Version.Basic

/-!
# Version ranges

A range is the key that a handler is registered under: a base version, and a kind that says which other
versions it admits.

    1.2.3    exact    1.2.3 only
    ~1.2.3   tilde    1.2.3 and up, below 1.3.0
    ^1.2.3   caret    1.2.3 and up, below 2.0.0
    ^0.2.3   caret    0.2.3 and up, below 0.3.0
    ^0.0.3   caret    0.0.3 only
    ^0.0     caret    0.0.0 and up, below 0.1.0
    ^0       caret    0.0.0 and up, below 1.0.0
-/

namespace SemverDispatch

/-- The kinds of range. -/
inductive RangeKind where
  /-- the base version alone -/
  | exact
  /-- later patches too -/
  | tilde
  /-- later versions too, up to the next change of the leftmost number that is not zero -/
  | caret
  /-- a kind that admits nothing -/
  | unknown (name : Text)
  deriving DecidableEq, Repr

namespace RangeKind

/-- The name of a kind. -/
def name : RangeKind → Text
  | exact => "exact"
  | tilde => "tilde"
  | caret => "caret"
  | unknown name => name

/-- The kind of a name. -/
def ofName (name : Text) : RangeKind :=
  if name = "exact" then exact
  else if name = "tilde" then tilde
  else if name = "caret" then caret
  else unknown name

end RangeKind

/-- A range of versions. -/
structure VersionRange where
  /-- which versions beyond the base it admits -/
  kind : RangeKind
  /-- the base version -/
  version : Version
  /-- the text it was read from -/
  raw : Text
  /-- how many numbers were written out -/
  precision : Nat
  deriving DecidableEq, Repr

namespace VersionRange

/-! ## Reading -/

/-- The kind that a text starts with, and what follows its mark. -/
def splitKind : Text → RangeKind × Text
  | .char '^' :: body => (.caret, body)
  | .char '~' :: body => (.tilde, body)
  | body => (.exact, body)

/-- The range that a text writes. -/
def parse? (t : Text) : Option VersionRange :=
  let (kind, body) := splitKind t.strip
  (Version.split? body).map fun (version, precision) => ⟨kind, version, t.strip, precision⟩

/-- The range that a value writes, if it is text. -/
def ofValue? (v : Value) : Option VersionRange := v.text?.bind parse?

/-- Does a value write a range? -/
def isValid (v : Value) : Bool := (ofValue? v).isSome

/-! ## Membership -/

/-- Does a caret range admit a version with the same major number zero? The leftmost number that is not
zero must stay; if there is none, as many numbers must stay as were written beyond the first. -/
def admitsBelowOne (base client : Version) (precision : Nat) : Bool :=
  if 0 < base.minor then client.minor == base.minor && base.patch ≤ client.patch
  else if precision = 1 then true
  else if precision = 2 then client.minor == 0
  else client.minor == 0 && client.patch == base.patch

/-- Does a range admit a version? -/
def admits (r : VersionRange) (client : Version) : Bool :=
  let base := r.version
  match r.kind with
  | .exact => client.triple == base.triple
  | .tilde =>
    client.major == base.major && client.minor == base.minor && base.patch ≤ client.patch
  | .caret =>
    client.major == base.major &&
      if base.major = 0 then admitsBelowOne base client r.precision
      else base.minor < client.minor || (base.minor == client.minor && base.patch ≤ client.patch)
  | .unknown _ => false

/-! ## Texts -/

/-- A range as it was written. -/
def text (r : VersionRange) : Text := r.raw

/-- A version or range in full, without its mark. -/
def normalize? (v : Value) : Option Text := (ofValue? v).map fun r => r.version.text

/-- The later of a version found so far and the base of a range; on a tie the earlier one stays. -/
def later (found : Option Version) (r : VersionRange) : Option Version :=
  match found with
  | none => some r.version
  | some v => if v < r.version then some r.version else some v

/-- The text, without its mark, of the first of the highest base versions among ranges; values that write
no range are skipped. -/
def latest? (values : List Value) : Option Text :=
  ((values.filterMap ofValue?).foldl later none).map Version.raw

end VersionRange

end SemverDispatch
