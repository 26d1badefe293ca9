import SemverDispatch.Text.Basic

/-!
# Encodings

Text as bytes in Latin-1 and UTF-8, and the readers of UTF-16 and UTF-32 that JSON needs.

A reader of UTF-8 goes through `Utf8.next`, one code point at a time: it answers the point, or the
length of the longest start of one that the bytes still agree with. `Utf8.decodeLossy` puts U+FFFD
for each such piece; `Utf8.decode?` gives up at the first.
-/

namespace SemverDispatch

/-! ## Latin-1: one byte for each of the first 256 code points -/

namespace Latin1

/-- The byte of a code point below 256. -/
def encodePoint? (c : CodePoint) : Option UInt8 :=
  if c.value < 256 then some (UInt8.ofNat c.value) else none

/-- The bytes of a text, if every code point has one. -/
def encode? (t : Text) : Option Bytes := t.mapM encodePoint?

/-- The text of any bytes. -/
def decode (bs : Bytes) : Text := bs.map fun b => .ofNat b.toNat

end Latin1

/-! ## UTF-8 -/

namespace Utf8

/-- The bytes of a scalar value. -/
def encodeScalar (n : Nat) : Bytes :=
  if n < 0x80 then [UInt8.ofNat n]
  else if n < 0x800 then [UInt8.ofNat (0xC0 + n / 64), UInt8.ofNat (0x80 + n % 64)]
  else if n < 0x10000 then
    [UInt8.ofNat (0xE0 + n / 4096), UInt8.ofNat (0x80 + n / 64 % 64), UInt8.ofNat (0x80 + n % 64)]
  else
    [UInt8.ofNat (0xF0 + n / 262144), UInt8.ofNat (0x80 + n / 4096 % 64),
      UInt8.ofNat (0x80 + n / 64 % 64), UInt8.ofNat (0x80 + n % 64)]

/-- The bytes of a code point; a surrogate has none. -/
def encodePoint? : CodePoint → Option Bytes
  | .char c => some (encodeScalar c.toNat)
  | .lone _ => none

/-- The bytes of a text, if it holds no surrogate. -/
def encode? (t : Text) : Option Bytes := (t.mapM encodePoint?).map List.flatten

/-- What a leading byte announces: how many bytes follow, the least and greatest value of the first
of them, and the bits it holds itself. Surrogates are let through on request. -/
def announced? (surrogates : Bool) (lead : Nat) : Option (Nat × Nat × Nat × Nat) :=
  if lead < 0x80 then some (0, 0x80, 0xBF, lead)
  else if lead < 0xC2 then none
  else if lead < 0xE0 then some (1, 0x80, 0xBF, lead - 0xC0)
  else if lead = 0xE0 then some (2, 0xA0, 0xBF, 0)
  else if lead = 0xED ∧ !surrogates then some (2, 0x80, 0x9F, 0xD)
  else if lead < 0xF0 then some (2, 0x80, 0xBF, lead - 0xE0)
  else if lead = 0xF0 then some (3, 0x90, 0xBF, 0)
  else if lead < 0xF4 then some (3, 0x80, 0xBF, lead - 0xF0)
  else if lead = 0xF4 then some (3, 0x80, 0x8F, 4)
  else none

/-- Reads `count` following bytes, the first of them between `low` and `high`, behind the bits `acc`.
At a byte that does not fit, nothing is read from there on. -/
def follow : (count low high acc : Nat) → Bytes → Option Nat × Bytes
  | 0, _, _, acc, rest => (some acc, rest)
  | _ + 1, _, _, _, [] => (none, [])
  | count + 1, low, high, acc, b :: rest =>
    if low ≤ b.toNat ∧ b.toNat ≤ high then
      follow count 0x80 0xBF (acc * 64 + (b.toNat - 0x80)) rest
    else (none, b :: rest)

/-- Reads one code point that starts with `lead`: its number and what follows it, or nothing and what
follows the longest piece that could have started one. -/
def next (surrogates : Bool) (lead : UInt8) (rest : Bytes) : Option Nat × Bytes :=
  match announced? surrogates lead.toNat with
  | some (count, low, high, bits) => follow count low high bits rest
  | none => (none, rest)

theorem length_follow_le (count low high acc : Nat) (rest : Bytes) :
    (follow count low high acc rest).2.length ≤ rest.length := by
  fun_induction follow count low high acc rest with
  | case1 => simp
  | case2 => simp
  | case3 count low high acc b rest _ ih => exact Nat.le_succ_of_le ih
  | case4 => simp

/-- Reading a point never lengthens what is left. -/
theorem length_next_le (surrogates : Bool) (lead : UInt8) (rest : Bytes) :
    (next surrogates lead rest).2.length ≤ rest.length := by
  unfold next
  split
  · exact length_follow_le ..
  · exact Nat.le_refl _

/-- The text of bytes, with U+FFFD for each longest piece that starts no code point. -/
def decodeLossy : Bytes → Text
  | [] => []
  | lead :: rest =>
    match (next false lead rest).1 with
    | some n => .ofNat n :: decodeLossy (next false lead rest).2
    | none => .char '\uFFFD' :: decodeLossy (next false lead rest).2
termination_by bs => bs.length
decreasing_by all_goals exact Nat.lt_succ_of_le (length_next_le ..)

/-- The text of bytes, if they are well formed; surrogates are let through on request. -/
def decode? (surrogates : Bool) : Bytes → Option Text
  | [] => some []
  | lead :: rest =>
    match (next surrogates lead rest).1 with
    | some n => (decode? surrogates (next surrogates lead rest).2).map (.ofNat n :: ·)
    | none => none
termination_by bs => bs.length
decreasing_by exact Nat.lt_succ_of_le (length_next_le ..)

end Utf8

/-! ## UTF-16 and UTF-32 -/

/-- The order of the bytes of a unit. -/
inductive ByteOrder where
  /-- the most significant byte first -/
  | big
  /-- the least significant byte first -/
  | little
  deriving DecidableEq

namespace Utf16

/-- The value of a unit of two bytes. -/
def unit (order : ByteOrder) (a b : UInt8) : Nat :=
  match order with
  | .big => a.toNat * 256 + b.toNat
  | .little => b.toNat * 256 + a.toNat

/-- The units of bytes, if their number is even. -/
def units? (order : ByteOrder) : Bytes → Option (List Nat)
  | [] => some []
  | [_] => none
  | a :: b :: rest => (units? order rest).map (unit order a b :: ·)

/-- Is this unit the first half of a pair? -/
def isHigh (u : Nat) : Bool := 0xD800 ≤ u && u < 0xDC00

/-- Is this unit the second half of a pair? -/
def isLow (u : Nat) : Bool := 0xDC00 ≤ u && u < 0xE000

/-- The number that a pair of halves stands for. -/
def pair (high low : Nat) : Nat := 0x10000 + (high - 0xD800) * 1024 + (low - 0xDC00)

/-- The text of units; a half without its partner stays alone. -/
def ofUnits : List Nat → Text
  | [] => []
  | [u] => [.ofNat u]
  | u :: v :: rest =>
    if isHigh u && isLow v then .ofNat (pair u v) :: ofUnits rest
    else .ofNat u :: ofUnits (v :: rest)

/-- The units of a code point. -/
def unitsOf (c : CodePoint) : List Nat :=
  let n := c.value
  if n < 0x10000 then [n] else [0xD800 + (n - 0x10000) / 1024, 0xDC00 + (n - 0x10000) % 1024]

/-- The text of bytes, if their number is even. -/
def decode? (order : ByteOrder) (bs : Bytes) : Option Text := (units? order bs).map ofUnits

end Utf16

namespace Utf32

/-- The text of bytes, if they are whole units that are code points. -/
def decode? (order : ByteOrder) : Bytes → Option Text
  | [] => some []
  | a :: b :: c :: d :: rest =>
    let n := match order with
      | .big => Utf16.unit .big a b * 65536 + Utf16.unit .big c d
      | .little => Utf16.unit .little c d * 65536 + Utf16.unit .little a b
    match CodePoint.ofNat? n, decode? order rest with
    | some point, some text => some (point :: text)
    | _, _ => none
  | _ => none

end Utf32

end SemverDispatch
