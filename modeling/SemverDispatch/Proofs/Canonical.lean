import SemverDispatch.Proofs.Grammar

/-!
# Versions in full

A version is written as its three numbers in full, and read back from there: `Version.parse?_text` says that this gives
the same three numbers, as long as none of them has more digits than are read. Nothing stands around such a text that
reading would take off, and its points separate the numbers, since digits are neither blanks nor points.

What was read from a text can always be read back, since it is short enough. So a text has a normal form, the version
in full, which is its own normal form and which texts share exactly if they write the same numbers
(`VersionRange.parse?_roundTrips`).
-/

namespace SemverDispatch

/-! ## Texts without blanks -/

namespace Text

variable {t : Text} {c mark : CodePoint} {parts : List Text}

/-- A visible ASCII character is not blank. -/
theorem not_isBlank (hlow : 0x21 ≤ c.value) (hhigh : c.value < 0x7F) : c.isBlank = false := by
  have hleft : ¬ c.value < 0x9 ∧ ¬ c.value ≤ 0xD ∧ ¬ c.value < 0x1C ∧ ¬ c.value ≤ 0x20 := by omega
  have hright : c.value < 0x85 := by omega
  simp [CodePoint.isBlank, blankTable, RangeTable.covers, hleft, hright]

/-- Nothing is taken off a text without blanks. -/
theorem strip_of_not_isBlank (h : ∀ c ∈ t, c.isBlank = false) : t.strip = t := by
  have hdrop {s : Text} (hs : ∀ c ∈ s, c.isBlank = false) : s.dropWhile CodePoint.isBlank = s := by
    cases s with
    | nil => rfl
    | cons c rest => rw [List.dropWhile_cons, hs c (List.mem_cons_self ..)]; rfl
  rw [strip, stripLeft, hdrop h, hdrop fun c hc => h c (List.mem_reverse.mp hc), List.reverse_reverse]

/-- Joined parts are made of what the parts are made of, and of marks. -/
theorem eq_mark_or_mem_of_mem_join (h : c ∈ join [mark] parts) : c = mark ∨ ∃ part ∈ parts, c ∈ part := by
  induction parts with
  | nil => cases h
  | cons part rest ih =>
    cases rest with
    | nil => exact .inr ⟨part, List.mem_cons_self .., h⟩
    | cons next rest =>
      simp only [join, List.append_assoc, List.mem_append, List.mem_singleton] at h
      rcases h with h | h | h
      · exact .inr ⟨part, List.mem_cons_self .., h⟩
      · exact .inl h
      · rcases ih h with rfl | ⟨other, hother, hc⟩
        · exact .inl rfl
        · exact .inr ⟨other, List.mem_cons_of_mem _ hother, hc⟩

end Text

/-! ## Numbers -/

namespace Decimal

/-- A number is written in digits. -/
theorem digit_of_mem_ofNat {c : CodePoint} {n : Nat} (h : c ∈ ofNat n) : 0x30 ≤ c.value ∧ c.value ≤ 0x39 := by
  obtain ⟨d, hd, rfl⟩ := List.mem_map.mp h
  have hdigit := Nat.isDigit_of_mem_toDigits (by decide) (by decide) hd
  simp only [Char.isDigit, Bool.and_eq_true, decide_eq_true_eq] at hdigit
  exact hdigit

/-- A number is the value of its digits. -/
theorem value_ofNat (n : Nat) : value (ofNat n) = n := by
  have hfold : value (ofNat n) = Nat.ofDigitChars 10 (Nat.toDigits 10 n) 0 := by
    rw [value, valueFrom, ofNat, List.foldl_map, Nat.ofDigitChars_eq_foldl]
    simp only [Nat.mul_comm 10]
    rfl
  exact hfold.trans Nat.ofDigitChars_ten_toDigits

theorem ofNat_inj {m n : Nat} : ofNat m = ofNat n ↔ m = n := by
  refine ⟨fun h => ?_, fun h => h ▸ rfl⟩
  rw [← value_ofNat m, h, value_ofNat]

end Decimal

/-! ## Versions in full -/

namespace Version

variable {t : Text} {runs : List Text} {v w : Version} {n : Nat}

/-- A version of numbers that have sixteen digits at most. -/
def IsShort (v : Version) : Prop := v.major < 10 ^ 16 ∧ v.minor < 10 ^ 16 ∧ v.patch < 10 ^ 16

/-- The digits of a number are a run exactly if there are not too many. -/
theorem isRun_ofNat_iff : IsRun (Decimal.ofNat n) ↔ n < 10 ^ 16 := by
  have hlength : (Decimal.ofNat n).length = (Nat.toDigits 10 n).length := List.length_map ..
  have hne : Decimal.ofNat n ≠ [] := mt List.map_eq_nil_iff.mp Nat.toDigits_ne_nil
  rw [← Nat.length_toDigits_le_iff (by decide) (by decide), ← hlength]
  exact ⟨IsRun.length_le, fun h => ⟨hne, h, fun _ => Decimal.digit_of_mem_ofNat⟩⟩

/-- The number of a run has as many digits at most. -/
theorem IsRun.decimal_lt {run : Text} (h : IsRun run) : decimal run < 10 ^ 16 := by
  have hdigits : ∀ d ∈ run.reverse.map fun c => c.value - 0x30, d < 10 := by
    intro d hd
    obtain ⟨c, hc, rfl⟩ := List.mem_map.mp hd
    have hdigit := h.digit c (List.mem_reverse.mp hc)
    omega
  have hlt := Nat.ofDigits_lt_base_pow_length (by decide) hdigits
  rw [List.length_map, List.length_reverse] at hlt
  exact hlt.trans_le (Nat.pow_le_pow_right (by decide) h.length_le)

/-- The version that a version in full writes. -/
def inFull (v : Version) : Version := ⟨v.major, v.minor, v.patch, v.text⟩

@[simp] theorem triple_inFull (v : Version) : v.inFull.triple = v.triple := rfl

/-- The digits of the three numbers of a version. -/
def fullRuns (v : Version) : List Text := [Decimal.ofNat v.major, Decimal.ofNat v.minor, Decimal.ofNat v.patch]

theorem exists_of_mem_fullRuns {run : Text} (h : run ∈ v.fullRuns) : ∃ n, run = Decimal.ofNat n := by
  simp only [fullRuns, List.mem_cons, List.not_mem_nil, or_false] at h
  rcases h with rfl | rfl | rfl
  · exact ⟨_, rfl⟩
  · exact ⟨_, rfl⟩
  · exact ⟨_, rfl⟩

theorem text_eq_join (v : Version) : v.text = Text.join [.char '.'] v.fullRuns := by
  simp [text, fullRuns, Text.join]

/-- The points of a version in full separate its numbers. -/
theorem splitOn_text (v : Version) : Text.splitOn (.char '.') v.text = v.fullRuns := by
  rw [text_eq_join]
  refine Text.splitOn_join (List.cons_ne_nil _ _) fun run hrun hmem => ?_
  obtain ⟨n, rfl⟩ := exists_of_mem_fullRuns hrun
  exact absurd (Decimal.digit_of_mem_ofNat hmem).1 (by decide)

/-- The text of a version tells its numbers, and depends on nothing else. -/
theorem text_eq_text_iff : v.text = w.text ↔ v.triple = w.triple := by
  simp only [triple, Prod.mk.injEq]
  constructor
  · intro h
    have hruns : v.fullRuns = w.fullRuns := by rw [← splitOn_text, h, splitOn_text]
    simpa [fullRuns, Decimal.ofNat_inj] using hruns
  · rintro ⟨hmajor, hminor, hpatch⟩
    rw [text, text, hmajor, hminor, hpatch]

/-- A version in full is made of the runs of its numbers, if these are runs. -/
theorem spells_text_iff : Spells v.text runs ↔ runs = v.fullRuns ∧ v.IsShort := by
  have hruns : (∀ run ∈ v.fullRuns, IsRun run) ↔ v.IsShort := by
    simp [fullRuns, isRun_ofNat_iff, IsShort]
  constructor
  · intro h
    obtain rfl : v.fullRuns = runs := (splitOn_text v).symm.trans h.splitOn_eq
    exact ⟨rfl, hruns.mp h.isRun⟩
  · rintro ⟨rfl, h⟩
    exact ⟨List.cons_ne_nil _ _, le_refl 3, hruns.mpr h, text_eq_join v⟩

/-- Digits and points are not blank. -/
theorem not_isBlank_of_mem_join {c : CodePoint} (h : ∀ run ∈ runs, ∀ c ∈ run, 0x30 ≤ c.value ∧ c.value ≤ 0x39)
    (hc : c ∈ Text.join [.char '.'] runs) : c.isBlank = false := by
  rcases Text.eq_mark_or_mem_of_mem_join hc with rfl | ⟨run, hrun, hc⟩
  · decide
  · obtain ⟨hlow, hhigh⟩ := h run hrun c hc
    exact Text.not_isBlank (by omega) (by omega)

theorem Spells.not_isBlank (h : Spells t runs) : ∀ c ∈ t, c.isBlank = false := by
  rw [h.joined]
  exact fun _ => not_isBlank_of_mem_join fun run hrun => (h.isRun run hrun).digit

theorem strip_text (v : Version) : v.text.strip = v.text := by
  refine Text.strip_of_not_isBlank fun c hc => ?_
  rw [text_eq_join] at hc
  refine not_isBlank_of_mem_join (fun run hrun d hd => ?_) hc
  obtain ⟨n, rfl⟩ := exists_of_mem_fullRuns hrun
  exact Decimal.digit_of_mem_ofNat hd

/-- The runs of a version in full write its numbers. -/
theorem ofRuns_fullRuns (v : Version) : ofRuns v.fullRuns v.text = v.inFull := by
  have hnumber (n : Nat) : decimal (Decimal.ofNat n) = n := by rw [← value_eq_decimal, Decimal.value_ofNat]
  simp [ofRuns, numberAt, fullRuns, inFull, hnumber]

/-- **A version in full is read back exactly if its numbers are short enough**, and then as the version that it is. -/
theorem parse?_text_eq_some_iff : parse? v.text = some w ↔ v.IsShort ∧ w = v.inFull := by
  simp only [parse?_eq_some_iff, strip_text, spells_text_iff]
  constructor
  · rintro ⟨runs, ⟨rfl, hshort⟩, rfl⟩
    exact ⟨hshort, ofRuns_fullRuns v⟩
  · rintro ⟨hshort, rfl⟩
    exact ⟨v.fullRuns, ⟨rfl, hshort⟩, (ofRuns_fullRuns v).symm⟩

theorem parse?_text_eq_none_iff : parse? v.text = none ↔ ¬ v.IsShort := by
  rw [Option.eq_none_iff_forall_ne_some]
  exact ⟨fun h hshort => h _ (parse?_text_eq_some_iff.mpr ⟨hshort, rfl⟩),
    fun h w hw => h (parse?_text_eq_some_iff.mp hw).1⟩

/-- What is read from runs of digits is short. -/
theorem isShort_ofRuns (h : ∀ run ∈ runs, IsRun run) (raw : Text) : (ofRuns runs raw).IsShort := by
  have hnumber (i : Nat) : numberAt runs i < 10 ^ 16 := by
    rw [numberAt]
    cases hrun : runs[i]? with
    | none => exact Nat.pow_pos (by decide)
    | some run => exact (h run (List.mem_of_getElem? hrun)).decimal_lt
  exact ⟨hnumber 0, hnumber 1, hnumber 2⟩

end Version

/-! ## Ranges and their normal forms -/

namespace VersionRange

variable {t t' : Text} {r r' : VersionRange}

theorem not_isBlank_of_marked {kind : RangeKind} {body : Text} (h : kind.Marked body t)
    (hbody : ∀ c ∈ body, c.isBlank = false) : ∀ c ∈ t, c.isBlank = false := by
  cases h with
  | exact => exact hbody
  | tilde => exact List.forall_mem_cons.mpr ⟨by decide, hbody⟩
  | caret => exact List.forall_mem_cons.mpr ⟨by decide, hbody⟩

/-- **A range is read back from its text, and its version from the text behind the mark.** -/
theorem parse?_text_of_parse? (h : parse? t = some r) :
    parse? r.text = some r ∧ Version.parse? r.version.raw = some r.version ∧ r.version.IsShort := by
  obtain ⟨kind, body, runs, hmarked, hruns, rfl⟩ := parse?_eq_some_iff.mp h
  have hbody : body.strip = body := Text.strip_of_not_isBlank hruns.not_isBlank
  have hstrip : t.strip.strip = t.strip :=
    Text.strip_of_not_isBlank (not_isBlank_of_marked hmarked hruns.not_isBlank)
  refine ⟨?_, ?_, Version.isShort_ofRuns hruns.isRun body⟩
  · rw [parse?_eq_some_iff, text, hstrip]
    exact ⟨kind, body, runs, hmarked, hruns, rfl⟩
  · have hraw : (Version.ofRuns runs body).raw.strip = body := hbody
    rw [Version.parse?_eq_some_iff, hraw]
    exact ⟨runs, hruns, rfl⟩

theorem normalize?_eq_some_iff {n : Text} :
    normalize? (.text t) = some n ↔ ∃ r, parse? t = some r ∧ r.version.text = n :=
  Option.map_eq_some_iff

/-- **The normal form of a range text is its version in full**, and is its own normal form. -/
theorem normalize?_of_parse? (h : parse? t = some r) :
    normalize? (.text t) = some r.version.text ∧ normalize? (.text r.version.text) = some r.version.text := by
  obtain ⟨-, -, hshort⟩ := parse?_text_of_parse? h
  have hfull : Version.parse? r.version.text = some r.version.inFull :=
    Version.parse?_text_eq_some_iff.mpr ⟨hshort, rfl⟩
  obtain ⟨s, hs, -, hversion⟩ := (parse?_version_iff _).mp hfull
  refine ⟨normalize?_eq_some_iff.mpr ⟨r, h, rfl⟩, normalize?_eq_some_iff.mpr ⟨s, hs, ?_⟩⟩
  rw [hversion]
  exact Version.text_eq_text_iff.mpr (Version.triple_inFull _)

/-- **Texts have one normal form exactly if they write the same numbers.** -/
theorem normalize?_eq_iff (h : parse? t = some r) (h' : parse? t' = some r') :
    normalize? (.text t') = normalize? (.text t) ↔ r'.version.triple = r.version.triple := by
  rw [(normalize?_of_parse? h).1, (normalize?_of_parse? h').1, Option.some_inj]
  exact Version.text_eq_text_iff

/-- **Versions and ranges are read back from their texts.** A version in full is read with its own numbers exactly if
all of them have sixteen digits at most, and not at all otherwise. A range that was read is read again from its text, as
the same range, and its version from the text behind the mark. Its version in full is a normal form: it is read with the
numbers of the range, it is its own normal form, and it is that of exactly those texts that write these numbers. -/
theorem parse?_roundTrips :
    (∀ v : Version,
      ((∃ w, Version.parse? v.text = some w ∧ w.triple = v.triple) ↔ v.IsShort) ∧
      (Version.parse? v.text = none ↔ ¬ v.IsShort)) ∧
    ∀ (t : Text) (r : VersionRange), parse? t = some r →
      parse? r.text = some r ∧ Version.parse? r.version.raw = some r.version ∧
      ∃ n, normalize? (.text t) = some n ∧
        (∃ w, Version.parse? n = some w ∧ w.triple = r.version.triple) ∧
        normalize? (.text n) = some n ∧
        ∀ (t' : Text) (r' : VersionRange), parse? t' = some r' →
          (normalize? (.text t') = normalize? (.text t) ↔ r'.version.triple = r.version.triple) := by
  refine ⟨fun v => ⟨⟨?_, fun hshort => ?_⟩, Version.parse?_text_eq_none_iff⟩, fun t r h => ?_⟩
  · rintro ⟨w, hw, -⟩
    exact (Version.parse?_text_eq_some_iff.mp hw).1
  · exact ⟨_, Version.parse?_text_eq_some_iff.mpr ⟨hshort, rfl⟩, rfl⟩
  · obtain ⟨hrange, hversion, hshort⟩ := parse?_text_of_parse? h
    obtain ⟨hnormal, hself⟩ := normalize?_of_parse? h
    have hfull := Version.parse?_text_eq_some_iff.mpr ⟨hshort, rfl⟩
    exact ⟨hrange, hversion, _, hnormal, ⟨_, hfull, rfl⟩, hself, fun _ _ => normalize?_eq_iff h⟩

/-- Leading zeros, blanks and a mark go, and what is not written comes. -/
theorem parse?_roundTrips_leadingZeros : ∃ r, parse? " ^007.10 " = some r ∧
    parse? r.text = some r ∧ normalize? (.text " ^007.10 ") = some "7.10.0" ∧
    normalize? (.text "~7.10.00") = normalize? (.text " ^007.10 ") ∧
    Version.parse? (Version.text ⟨7, 10 ^ 16, 0, []⟩) = none := by
  obtain ⟨hversions, hranges⟩ := parse?_roundTrips
  obtain ⟨r, hr, hnumbers⟩ : ∃ r, parse? " ^007.10 " = some r ∧ r.version.triple = (7, 10, 0) := ⟨_, rfl, rfl⟩
  obtain ⟨s, hs, hnumbers'⟩ : ∃ s, parse? "~7.10.00" = some s ∧ s.version.triple = (7, 10, 0) := ⟨_, rfl, rfl⟩
  obtain ⟨hrange, -, n, hn, -, -, hsame⟩ := hranges _ r hr
  refine ⟨r, hr, hrange, rfl, (hsame _ s hs).mpr (hnumbers'.trans hnumbers.symm), ?_⟩
  exact (hversions _).2.mpr fun hshort => absurd hshort.2.1 (lt_irrefl _)

end VersionRange

end SemverDispatch
