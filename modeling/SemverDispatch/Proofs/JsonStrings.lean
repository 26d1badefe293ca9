import Mathlib.Data.List.Chain
import SemverDispatch.Json.Reader
import SemverDispatch.Json.Writer
import SemverDispatch.Proofs.Decoding

/-!
# JSON strings read back

A string in JSON is read back as what was written, whatever follows it (`Json.readString_escaped`). A single code
point takes one of four forms there, which `Json.Escape` lists, and is read back from each of them.

One thing is lost. A surrogate is written like the half of a pair, so two that stand side by side in the right order
are read as the character that they make up. `Text.Unpaired` rules this out. The reader only joins two halves
that both come as escapes, so what has to be known of the text behind a first half is `Json.NoLowAhead`: no
second half follows as an escape.
-/

namespace SemverDispatch

/-- No surrogate stands before one that makes a pair with it. -/
def Text.Unpaired (t : Text) : Prop :=
  t.IsChain fun c d => Utf16.isHigh c.value = true → Utf16.isLow d.value = false

instance (t : Text) : Decidable t.Unpaired :=
  inferInstanceAs (Decidable (t.IsChain fun c d => Utf16.isHigh c.value = true → Utf16.isLow d.value = false))

namespace Utf16

variable {u : Nat}

theorem isHigh_iff : isHigh u = true ↔ 0xD800 ≤ u ∧ u < 0xDC00 := by
  rw [isHigh, Bool.and_eq_true, decide_eq_true_eq, decide_eq_true_eq]

theorem isLow_iff : isLow u = true ↔ 0xDC00 ≤ u ∧ u < 0xE000 := by
  rw [isLow, Bool.and_eq_true, decide_eq_true_eq, decide_eq_true_eq]

/-- A first half is not a second one. -/
theorem isLow_of_isHigh (h : isHigh u = true) : isLow u = false := by
  rw [isHigh_iff] at h
  rw [← Bool.not_eq_true, isLow_iff]
  omega

end Utf16

namespace CodePoint

/-- All numbers are within Unicode. -/
theorem value_lt (c : CodePoint) : c.value < 0x110000 := by
  cases c with
  | char c =>
    have hvalid : c.toNat.isValidChar := c.valid
    simp only [Nat.isValidChar] at hvalid
    show c.toNat < _
    omega
  | lone half =>
    show 0xD800 + half.val < _
    omega

/-- A character is no half of a pair. -/
theorem isHigh_char (c : Char) : Utf16.isHigh (CodePoint.char c).value = false := by
  have hvalid : c.toNat.isValidChar := c.valid
  simp only [Nat.isValidChar] at hvalid
  rw [← Bool.not_eq_true, Utf16.isHigh_iff, value]
  omega

end CodePoint

/-- Text without surrogates has none side by side. -/
theorem Text.unpaired_of_isScalar {t : Text} (h : t.isScalar = true) : t.Unpaired := by
  refine List.isChain_iff_getElem.mpr fun i hi hhigh => ?_
  have hmem : t[i] ∈ t := List.getElem_mem _
  cases hpoint : t[i] with
  | char c =>
    rw [hpoint, CodePoint.isHigh_char] at hhigh
    cases hhigh
  | lone half => exact absurd hpoint (Text.isScalar_iff.mp h _ hmem half)

namespace Json

variable {c d : CodePoint} {t rest : Text} {fuel high low u : Nat}

/-! ## Escapes of units -/

theorem hexDigit?_lowerDigit : ∀ d < 16, (lowerDigit d).hexDigit? = some d := by decide

/-- A unit is read back from its four digits. -/
theorem unit?_hexDigits (h : u < 0x10000) (rest : Text) : unit? (hexDigits 4 u ++ rest) = some (u, rest) := by
  have hdigit (n : Nat) : (lowerDigit (n % 16)).hexDigit? = some (n % 16) :=
    hexDigit?_lowerDigit _ (Nat.mod_lt _ (by decide))
  have hsum : ((u / 16 / 16 / 16 % 16 * 16 + u / 16 / 16 % 16) * 16 + u / 16 % 16) * 16 + u % 16 = u := by omega
  simp only [hexDigits, List.nil_append, List.cons_append, unit?, hdigit]
  simp [hsum]

/-- A unit as an escape, with what follows it. -/
theorem unitEscape_append (u : Nat) (rest : Text) :
    unitEscape u ++ rest = .char '\\' :: .char 'u' :: (hexDigits 4 u ++ rest) := rfl

/-- No second half of a pair follows as an escape, nor an escape that is broken. -/
def NoLowAhead (rest : Text) : Prop :=
  ∀ more, rest = .char '\\' :: .char 'u' :: more →
    ∃ u behind, unit? more = some (u, behind) ∧ Utf16.isLow u = false

theorem noLowAhead_of_head_ne (h : c ≠ .char '\\') : NoLowAhead (c :: rest) := fun _ heq =>
  absurd (List.cons.inj heq).1 h

theorem noLowAhead_unitEscape (h : u < 0x10000) (hlow : Utf16.isLow u = false) :
    NoLowAhead (unitEscape u ++ rest) := by
  intro more heq
  rw [unitEscape_append] at heq
  obtain rfl : hexDigits 4 u ++ rest = more := by simpa using heq
  exact ⟨u, rest, unit?_hexDigits h rest, hlow⟩

/-- A unit stays alone, unless it is a first half and a second one follows. -/
theorem unicodeEscape?_unit (h : u < 0x10000) (hrest : Utf16.isHigh u = true → NoLowAhead rest) :
    unicodeEscape? (hexDigits 4 u ++ rest) = some (.ofNat u, rest) := by
  rw [unicodeEscape?, unit?_hexDigits h]
  simp only [Option.bind_eq_bind, Option.bind_some]
  split
  · rename_i hhigh
    split
    · rename_i more
      obtain ⟨low, behind, hunit, hlow⟩ := hrest hhigh more rfl
      rw [hunit]
      simp [hlow]
    · rfl
  · rfl

/-- The two halves of a pair are read as its character. -/
theorem unicodeEscape?_pair (hhigh : Utf16.isHigh high = true) (hlow : Utf16.isLow low = true) :
    unicodeEscape? (hexDigits 4 high ++ (unitEscape low ++ rest)) = some (.ofNat (Utf16.pair high low), rest) := by
  have hhigh' := Utf16.isHigh_iff.mp hhigh
  have hlow' := Utf16.isLow_iff.mp hlow
  rw [unicodeEscape?, unit?_hexDigits (by omega), unitEscape_append]
  simp [hhigh, unit?_hexDigits (show low < 0x10000 by omega), hlow]

/-! ## Code points -/

/-- What a code point becomes in a string. -/
inductive Escape (c : CodePoint) : Text → Prop
  /-- a letter behind a backslash -/
  | short {letter : CodePoint} : letter ≠ .char 'u' → unescape? letter = some c →
      0x20 ≤ letter.value ∧ letter.value < 0x7F → Escape c [.char '\\', letter]
  /-- itself -/
  | plain : c ≠ .char '"' → c ≠ .char '\\' → 0x20 ≤ c.value ∧ c.value < 0x7F → Escape c [c]
  /-- its one unit -/
  | unit : c.value < 0x10000 → Escape c (unitEscape c.value)
  /-- its two units -/
  | pair {high low : Nat} : Utf16.isHigh high = true → Utf16.isLow low = true → Utf16.pair high low = c.value →
      Escape c (unitEscape high ++ unitEscape low)

theorem shortEscapes_spec : ∀ entry ∈ shortEscapes, entry.2 ≠ .char 'u' ∧ unescape? entry.2 = some entry.1 ∧
    0x20 ≤ entry.2.value ∧ entry.2.value < 0x7F := by
  decide

theorem escape_escapePoint (c : CodePoint) : Escape c (escapePoint c) := by
  rw [escapePoint]
  cases hletter : shortEscapes.lookup c with
  | some letter =>
    obtain ⟨before, after, hsplit, -⟩ := List.lookup_eq_some_iff.mp hletter
    have hmem : (c, letter) ∈ shortEscapes := hsplit ▸ List.mem_append_right _ (List.mem_cons_self ..)
    obtain ⟨hne, hletter, hprintable⟩ := shortEscapes_spec _ hmem
    exact .short hne hletter hprintable
  | none =>
    have hquote : c ≠ .char '"' := fun h => by rw [h] at hletter; cases hletter
    have hbackslash : c ≠ .char '\\' := fun h => by rw [h] at hletter; revert hletter; decide
    by_cases hplain : 0x20 ≤ c.value ∧ c.value < 0x7F
    · rw [if_pos hplain]
      exact .plain hquote hbackslash hplain
    dsimp only
    rw [if_neg hplain, Utf16.unitsOf]
    by_cases hunit : c.value < 0x10000
    · rw [if_pos hunit, List.flatMap_singleton]
      exact .unit hunit
    · have hlt := c.value_lt
      obtain ⟨n, hn⟩ : ∃ n, c.value - 0x10000 = n := ⟨_, rfl⟩
      have hhigh : Utf16.isHigh (0xD800 + n / 1024) = true := Utf16.isHigh_iff.mpr (by omega)
      have hlow : Utf16.isLow (0xDC00 + n % 1024) = true := Utf16.isLow_iff.mpr (by omega)
      have hpair : Utf16.pair (0xD800 + n / 1024) (0xDC00 + n % 1024) = c.value := by
        unfold Utf16.pair
        omega
      rw [if_neg hunit, hn, List.flatMap_cons, List.flatMap_singleton]
      exact .pair hhigh hlow hpair

/-- Behind a first half, any code point that is not a second half may be written. -/
theorem Escape.noLowAhead (h : Escape d t) (hd : Utf16.isLow d.value = false) : NoLowAhead (t ++ rest) := by
  cases h with
  | short hne =>
    intro more heq
    exact absurd (List.cons.inj (List.cons.inj heq).2).1 hne
  | plain _ hne => exact noLowAhead_of_head_ne hne
  | unit hlt => exact noLowAhead_unitEscape hlt hd
  | pair hhigh =>
    have hlt := Utf16.isHigh_iff.mp hhigh
    rw [List.append_assoc]
    exact noLowAhead_unitEscape (by omega) (Utf16.isLow_of_isHigh hhigh)

/-! ## One step of the reader -/

theorem readString_plain (hquote : c ≠ .char '"') (hbackslash : c ≠ .char '\\') (hc : 0x20 ≤ c.value) :
    readString (fuel + 1) (c :: rest) = (do
      let (t, last) ← readString fuel rest
      return (c :: t, last)) := by
  rw [readString.eq_def]
  dsimp only
  rw [if_neg hquote, if_neg hbackslash, if_neg (Nat.not_lt.mpr hc)]

theorem readString_short {letter : CodePoint} (hne : letter ≠ .char 'u') (h : unescape? letter = some c) :
    readString (fuel + 1) (.char '\\' :: letter :: rest) = (do
      let (t, last) ← readString fuel rest
      return (c :: t, last)) := by
  rw [readString.eq_def]
  dsimp only
  rw [if_neg (by decide), if_pos rfl, if_neg hne, h]
  rfl

theorem readString_unicode (h : unicodeEscape? t = some (c, rest)) :
    readString (fuel + 1) (.char '\\' :: .char 'u' :: t) = (do
      let (t, last) ← readString fuel rest
      return (c :: t, last)) := by
  rw [readString.eq_def]
  dsimp only
  rw [if_neg (by decide), if_pos rfl, if_pos rfl, h]

/-- **A code point is read back from what it becomes**, and reading goes on behind it. -/
theorem Escape.readString_append (h : Escape c t) (hrest : Utf16.isHigh c.value = true → NoLowAhead rest) :
    readString (fuel + 1) (t ++ rest) = (do
      let (t, last) ← readString fuel rest
      return (c :: t, last)) := by
  cases h with
  | short hne hletter => exact readString_short hne hletter
  | plain hquote hbackslash hc => exact readString_plain hquote hbackslash hc.1
  | unit hlt =>
    refine readString_unicode ((unicodeEscape?_unit hlt hrest).trans ?_)
    rw [CodePoint.ofNat_value]
  | pair hhigh hlow hpair =>
    rw [List.append_assoc]
    refine readString_unicode ((unicodeEscape?_pair hhigh hlow).trans ?_)
    rw [hpair, CodePoint.ofNat_value]

/-! ## Strings -/

/-- **A string is read back**, up to its closing quote and not further. -/
theorem readString_escaped (ht : t.Unpaired) (hfuel : t.length < fuel) :
    readString fuel (t.flatMap escapePoint ++ .char '"' :: rest) = .ok (t, rest) := by
  induction t generalizing fuel with
  | nil =>
    obtain ⟨fuel, rfl⟩ := Nat.exists_eq_add_one_of_ne_zero (Nat.ne_of_gt hfuel)
    rfl
  | cons c tail ih =>
    obtain ⟨fuel, rfl⟩ := Nat.exists_eq_add_one_of_ne_zero (Nat.ne_zero_of_lt hfuel)
    rw [List.flatMap_cons, List.append_assoc, (escape_escapePoint c).readString_append, ih]
    · rfl
    · exact ht.tail
    · exact Nat.lt_of_succ_lt_succ hfuel
    · intro hhigh
      cases tail with
      | nil => exact noLowAhead_of_head_ne (by decide)
      | cons d tail =>
        rw [List.flatMap_cons, List.append_assoc]
        exact (escape_escapePoint d).noLowAhead ((List.isChain_cons_cons.mp ht).1 hhigh)

theorem Escape.length_pos (h : Escape c t) : 0 < t.length := by
  cases h with
  | short => exact Nat.zero_lt_succ _
  | plain => exact Nat.zero_lt_succ _
  | unit => exact Nat.zero_lt_succ _
  | pair => exact Nat.zero_lt_succ _

/-- Escaping makes no text shorter. -/
theorem length_le_flatMap_escapePoint (t : Text) : t.length ≤ (t.flatMap escapePoint).length := by
  induction t with
  | nil => exact Nat.le_refl _
  | cons c tail ih =>
    have hpos := (escape_escapePoint c).length_pos
    rw [List.flatMap_cons, List.length_append, List.length_cons]
    omega

/-- A string is read back with as much fuel as the reader of values gives. -/
theorem readString_inside (ht : t.Unpaired) (rest : Text) :
    readString ((t.flatMap escapePoint ++ .char '"' :: rest).length + 1)
      (t.flatMap escapePoint ++ .char '"' :: rest) = .ok (t, rest) := by
  have hlength := length_le_flatMap_escapePoint t
  refine readString_escaped ht ?_
  rw [List.length_append]
  omega

theorem string_append (t rest : Text) :
    string t ++ rest = .char '"' :: (t.flatMap escapePoint ++ .char '"' :: rest) := by
  simp [string]

-- Two halves side by side are not read back: they come back as the character that they make up.
example : readString 3 (([.lone 0x03D, .lone 0x600] : Text).flatMap escapePoint ++ [.char '"'])
    = .ok ([.char '😀'], []) := by decide +kernel

end Json

end SemverDispatch
