import SemverDispatch.Value.Access
import SemverDispatch.Version.Range

/-!
# Routes

A registration is a handler under a range. A route is a registration with a priority, one number into
which kind, base version and precision are packed, so that comparing priorities compares these fields
from left to right:

    kind | major | minor | patch | precision

The three middle fields have a width in bits that is common to all routes of a table.
-/

namespace SemverDispatch

/-- The rank of a kind: the narrower a range of this kind, the higher. -/
def RangeKind.band : RangeKind → Nat
  | exact => 3
  | tilde => 2
  | caret => 1
  | unknown _ => 0

namespace VersionRange

/-- The width of the lowest field, that of the precision. -/
def precisionBits : Nat := 2

/-- Appends a field of `bits` bits to a packed number. A field that is too wide runs into its neighbour. -/
def pack (bits packed field : Nat) : Nat := packed <<< bits ||| field

/-- Kind and base version, packed. -/
def packedBase (bits : Nat) (r : VersionRange) : Nat :=
  let base := r.version
  pack bits (pack bits (pack bits r.kind.band base.major) base.minor) base.patch

/-- The priority of a range, for a table whose components have `bits` bits. -/
def packed (bits : Nat) (r : VersionRange) : Nat :=
  pack precisionBits (r.packedBase bits) r.precision

/-- The bits of a natural number and of an integer together. A negative integer has all high bits. -/
def orInt (n : Nat) : Int → Int
  | .ofNat m => .ofNat (n ||| m)
  | .negSucc m => .negSucc (m - (m &&& n))

/-- The priority of any range at any width and with any precision: a kind without rank and a negative width
have none. -/
def priority (r : VersionRange) (precision bits : Int) : Except Failure Int :=
  match r.kind with
  | .unknown name => .error (.noKey name)
  | _ =>
    if bits < 0 then .error .negativeShift
    else .ok (orInt (r.packedBase bits.toNat <<< precisionBits) precision)

end VersionRange

/-- A handler under a range. -/
structure Registration where
  /-- the key as it was given -/
  key : Text
  /-- the range that the key writes -/
  range : VersionRange
  /-- what answers requests within the range -/
  handler : Callable

namespace Registration

/-- What is said of a key that writes no range. -/
def badKey : Text := "invalid version format. Expected: \"1.0.0\", \"^1.0\", \"~1.2\", etc."

/-- What is said of a handler that cannot be called. -/
def badHandler : Text := "handler must be callable"

/-- The registration that an entry of a mapping writes. Of two faults that of the handler is reported. -/
def ofEntry (entry : Value × Value) : Except Failure Registration :=
  let (key, handler) := entry
  match handler.callable?, key.text?, VersionRange.ofValue? key with
  | none, _, _ => .error (.handler key badHandler)
  | some c, some t, some r => .ok ⟨t, r, c⟩
  | some _, _, _ => .error (.handler key badKey)

/-- The greatest of a registration's numbers. -/
def largest (r : Registration) : Nat :=
  max r.range.version.major (max r.range.version.minor r.range.version.patch)

/-- The fewest bits, but at least one, that hold every number of some registrations. -/
def width (rs : List Registration) : Nat := ((rs.map largest).foldr max 0).log2 + 1

end Registration

/-- A registration with its priority. -/
structure Route extends Registration where
  /-- kind, base version and precision in one number -/
  priority : Nat

namespace Route

/-- The route of a registration, for a table whose components have `bits` bits. -/
def ofRegistration (bits : Nat) (r : Registration) : Route := ⟨r, r.range.packed bits⟩

end Route

end SemverDispatch
