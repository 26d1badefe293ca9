import SemverDispatch.Pattern.Syntax
import SemverDispatch.Text.Blank
import SemverDispatch.Text.Digit
import SemverDispatch.Text.Word
import SemverDispatch.Text.Lowercase

/-!
# Single code points in patterns

Which code points a point, a dot or a set of a pattern takes under given flags. `Node.test?` is the test of a
node that always takes exactly one code point. The letters of a locale are those of ASCII here.
-/

namespace SemverDispatch

/-! ## Letters up to case -/

/-- What a pattern makes of the case of letters. -/
inductive Casing where
  /-- letters of both cases differ -/
  | exact
  /-- ASCII letters of both cases are the same -/
  | ascii
  /-- letters of both cases are the same -/
  | unicode
  deriving DecidableEq, Repr

/-- What flags make of the case of letters. -/
def Casing.of (flags : List Flag) : Casing :=
  if Flag.ignoreCase ∈ flags then if Flag.unicode ∈ flags then .unicode else .ascii else .exact

/-- The lower case of an ASCII letter; any other code point as it is. -/
def CodePoint.asciiLower (c : CodePoint) : CodePoint :=
  if 0x41 ≤ c.value ∧ c.value ≤ 0x5A then .ofNat (c.value + 0x20) else c

/-- Lower case letters that are the same letter up to case, without being equal. -/
def caseVariants : List (Nat × List Nat) :=
  [(0x69, [0x131]), (0x73, [0x17F]), (0xB5, [0x3BC]), (0x131, [0x69]), (0x17F, [0x73]),
   (0x345, [0x3B9, 0x1FBE]), (0x390, [0x1FD3]), (0x3B0, [0x1FE3]), (0x3B2, [0x3D0]),
   (0x3B5, [0x3F5]), (0x3B8, [0x3D1]), (0x3B9, [0x345, 0x1FBE]), (0x3BA, [0x3F0]),
   (0x3BC, [0xB5]), (0x3C0, [0x3D6]), (0x3C1, [0x3F1]), (0x3C2, [0x3C3]), (0x3C3, [0x3C2]),
   (0x3C6, [0x3D5]), (0x3D0, [0x3B2]), (0x3D1, [0x3B8]), (0x3D5, [0x3C6]), (0x3D6, [0x3C0]),
   (0x3F0, [0x3BA]), (0x3F1, [0x3C1]), (0x3F5, [0x3B5]), (0x432, [0x1C80]), (0x434, [0x1C81]),
   (0x43E, [0x1C82]), (0x441, [0x1C83]), (0x442, [0x1C84, 0x1C85]), (0x44A, [0x1C86]),
   (0x463, [0x1C87]), (0x1C80, [0x432]), (0x1C81, [0x434]), (0x1C82, [0x43E]), (0x1C83, [0x441]),
   (0x1C84, [0x442, 0x1C85]), (0x1C85, [0x442, 0x1C84]), (0x1C86, [0x44A]), (0x1C87, [0x463]),
   (0x1C88, [0xA64B]), (0x1E61, [0x1E9B]), (0x1E9B, [0x1E61]), (0x1FBE, [0x345, 0x3B9]),
   (0x1FD3, [0x390]), (0x1FE3, [0x3B0]), (0xA64B, [0x1C88]), (0xFB05, [0xFB06]),
   (0xFB06, [0xFB05])]

/-- The numbers that a letter in lower case stands for when case is ignored. -/
def caseClass (n : Nat) : List Nat := n :: (caseVariants.lookup n).getD []

/-- The numbers whose lower case is `n`. -/
def lowercaseSources (n : Nat) : List Nat :=
  let mapped := lowercaseRows.filterMap fun row =>
    let source := row.first + (n - row.target)
    if row.target ≤ n ∧ row.apply? source = some n then some source else none
  let dotted := if n = 0x69 then [0x130] else []
  (n :: mapped ++ dotted).filter fun m => (CodePoint.ofNat m).simpleLower.value = n

/-! ## Tests -/

/-- Is a code point in a named class of Unicode? -/
def Shorthand.holds (c : CodePoint) : Shorthand → Bool
  | .digit => c.isDigit
  | .blank => c.isBlank
  | .word => c.isWord

/-- Is a code point in a named class of ASCII? -/
def Shorthand.holdsAscii (c : CodePoint) : Shorthand → Bool
  | .digit => c.isAsciiDigit
  | .blank => c.isAsciiBlank
  | .word => c.isAsciiLetter || c.isAsciiDigit || c == .char '_'

/-- Is a code point in a named class, as flags have it? -/
def Shorthand.admits (flags : List Flag) (s : Shorthand) (c : CodePoint) : Bool :=
  if Flag.unicode ∈ flags then s.holds c else s.holdsAscii c

namespace SetItem

/-- Is a code point a member? -/
def holds (flags : List Flag) (c : CodePoint) : SetItem → Bool
  | .point p => p == c
  | .range first last => first ≤ c.value && c.value ≤ last
  | .shorthand s negated => s.admits flags c != negated

/-- Is a code point in lower case a member up to the case of ASCII letters? -/
def holdsAsciiLower (flags : List Flag) (c : CodePoint) (item : SetItem) : Bool :=
  match item with
  | .shorthand .. => item.holds flags c
  | .point p => p.asciiLower == c
  | .range .. => item.holds flags c ||
      (0x61 ≤ c.value && c.value ≤ 0x7A && item.holds flags (.ofNat (c.value - 0x20)))

/-- Is a code point in lower case a member up to case? Beyond U+FFFF a point is compared as it is, and a
range is not. -/
def holdsLower (flags : List Flag) (c : CodePoint) (item : SetItem) : Bool :=
  match item with
  | .shorthand .. => item.holds flags c
  | .point p =>
    if 0xFFFF < p.value then p == c else (caseClass c.value).contains p.simpleLower.value
  | .range .. => (caseClass c.value).any fun n =>
      (lowercaseSources n).any fun m => item.holds flags (CodePoint.ofNat m)

end SetItem

/-- Are two code points the same? -/
def samePoint (flags : List Flag) (p c : CodePoint) : Bool :=
  match Casing.of flags with
  | .exact => p == c
  | .ascii => p.asciiLower == c.asciiLower
  | .unicode => (caseClass p.simpleLower.value).contains c.simpleLower.value

/-- Is a code point the same as one that a group kept? Letters with one lower case are the same up to case. -/
def sameKept (flags : List Flag) (p c : CodePoint) : Bool :=
  match Casing.of flags with
  | .exact => p == c
  | .ascii => p.asciiLower == c.asciiLower
  | .unicode => p.simpleLower == c.simpleLower

/-- Is a code point among members, of which there are two at least, or which are no points? -/
def amongMembers (flags : List Flag) (items : List SetItem) (c : CodePoint) : Bool :=
  items.any fun item =>
    match Casing.of flags with
    | .exact => item.holds flags c
    | .ascii => item.holdsAsciiLower flags c.asciiLower
    | .unicode => item.holdsLower flags c.simpleLower

/-- Is a code point in a set? A single point is compared as it is outside sets. -/
def inSet (flags : List Flag) (negated : Bool) (items : List SetItem) (c : CodePoint) : Bool :=
  let inside := match items with
    | [.point p] => samePoint flags p c
    | _ => amongMembers flags items c
  inside != negated

/-- Does a dot take a code point? -/
def dotTakes (flags : List Flag) (c : CodePoint) : Bool := decide (Flag.dotAll ∈ flags) || c != .char '\n'

/-- The test that a code point has to pass for a node that takes one, whatever it is. -/
def Node.test? (flags : List Flag) : Node → Option (CodePoint → Bool)
  | .point p => some (samePoint flags p)
  | .any => some (dotTakes flags)
  | .oneOf negated items => some (inSet flags negated items)
  | .under added removed body => body.test? (Flag.within added removed flags)
  | _ => none

/-! ## First code points -/

/-- Does a change of case change a code point? -/
def Casing.changes (c : CodePoint) : Casing → Bool
  | .exact => false
  | .ascii => c.isAsciiLetter
  | .unicode => c.changesCase

/-- Does a change of case change what a member stands for? -/
def SetItem.changesCase (casing : Casing) : SetItem → Bool
  | .point c => casing.changes c
  | .range first last =>
    match casing with
    | .exact => false
    | .ascii => RangeTable.meets [(0x41, 0x5A), (0x61, 0x7A)] first last
    | .unicode => caseChangingTable.meets first last
  | .shorthand .. => false

/-- What a pattern starts with, as far as one look at it tells. -/
inductive Lead where
  /-- anything -/
  | unknown
  /-- a given code point -/
  | point (c : CodePoint)
  /-- a code point that passes a test -/
  | among (test : CodePoint → Bool)

namespace Lead

/-- The start with a given code point. It is no sure one if its case is ignored. -/
def ofPoint (flags : List Flag) (c : CodePoint) : Lead :=
  if (Casing.of flags).changes c then unknown else point c

/-- The start with a code point in a set of several members. -/
def ofSet (flags : List Flag) (negated : Bool) (items : List SetItem) : Lead :=
  if items.any (SetItem.changesCase (Casing.of flags)) then unknown else among (inSet flags negated items)

/-- Does the text ahead start with something else? -/
def refuses : Lead → Text → Bool
  | unknown, _ => false
  | _, [] => true
  | point p, c :: _ => p != c
  | among test, c :: _ => !test c

/-- Does the text ahead start with something else than a given code point? -/
def refusesPoint : Lead → Text → Bool
  | point p, t => (point p).refuses t
  | _, _ => false

end Lead

/-- What a node starts with, where `after` starts what follows it. -/
def Node.lead (flags : List Flag) (after : Lead) : Node → Lead
  | .empty => after
  | .point c => .ofPoint flags c
  | .oneOf false [.point c] => .ofPoint flags c
  | .oneOf true [.point _] => .unknown
  | .oneOf negated items => .ofSet flags negated items
  | .seq first second => first.lead flags (second.lead flags after)
  | .under added removed body => body.lead (Flag.within added removed flags) after
  | _ => .unknown

end SemverDispatch
