import SemverDispatch.Proofs.Reading

/-!
# Ranges as intervals

`admits` decides by components, with a branch for each kind and for every way in which a caret range may
begin with zeros. What it decides is an interval: a range admits the versions from its base on, up to and
without an upper bound that depends on the kind, on the leftmost number that is not zero and, if there is
none, on how many numbers were written (`admits_iff_mem_interval`).

For the last case the base has to be zero where nothing was written, which reading a text ensures.
-/

namespace SemverDispatch

namespace VersionRange

/-- The first version above all that a range admits. -/
def upperBound (kind : RangeKind) (base : Version) (written : Nat) : Nat × Nat × Nat :=
  match kind with
  | .exact => (base.major, base.minor, base.patch + 1)
  | .tilde => (base.major, base.minor + 1, 0)
  | .caret =>
    if 0 < base.major then (base.major + 1, 0, 0)
    else if 0 < base.minor then (0, base.minor + 1, 0)
    else if written = 1 then (1, 0, 0)
    else if written = 2 then (0, 1, 0)
    else (0, 0, base.patch + 1)
  | .unknown _ => base.triple

/-- A version lies between a base version and an upper bound, which is left out. -/
def Between (base : Version) (upper : Nat × Nat × Nat) (client : Version) : Prop :=
  base ≤ client ∧ Version.tripleLt client.triple upper

variable {base client : Version} {upper : Nat × Nat × Nat} {t : Text} {r : VersionRange} {n : Nat}

/-- An interval by the numbers at its ends. -/
theorem between_iff : Between base upper client ↔
    (base.major < client.major ∨ (base.major = client.major ∧
      (base.minor < client.minor ∨ (base.minor = client.minor ∧ base.patch ≤ client.patch)))) ∧
    (client.major < upper.1 ∨ (client.major = upper.1 ∧
      (client.minor < upper.2.1 ∨ (client.minor = upper.2.1 ∧ client.patch < upper.2.2)))) := by
  have hle : base ≤ client ↔ ¬ Version.tripleLt client.triple base.triple := Iff.rfl
  rw [Between, hle]
  simp only [Version.tripleLt, Version.triple]
  omega

/-! ## One kind after another -/

theorem exact_iff_between :
    client.triple = base.triple ↔ Between base (upperBound .exact base n) client := by
  rw [between_iff]
  simp only [Version.triple, upperBound, Prod.mk.injEq]
  omega

theorem tilde_iff_between :
    (client.major = base.major ∧ client.minor = base.minor) ∧ base.patch ≤ client.patch ↔
      Between base (upperBound .tilde base n) client := by
  rw [between_iff]
  simp only [upperBound]
  omega

/-- A caret range from 1.0.0 on ends at the next major number. -/
theorem caret_iff_between_of_major (hmajor : 0 < base.major) :
    (client.major = base.major ∧
      (base.minor < client.minor ∨ (base.minor = client.minor ∧ base.patch ≤ client.patch))) ↔
      Between base (upperBound .caret base n) client := by
  rw [between_iff]
  simp only [upperBound, if_pos hmajor]
  omega

/-- A caret range below 1.0.0 ends where the leftmost number that is not zero changes, or the last one that
was written. -/
theorem caret_iff_between_of_zero (hmajor : base.major = 0) (hv : base.Spelled n) :
    client.major = base.major ∧ admitsBelowOne base client n = true ↔
      Between base (upperBound .caret base n) client := by
  obtain ⟨hpos, hle, hminor, hpatch⟩ := hv
  have hzero : ¬ 0 < base.major := by omega
  rw [between_iff]
  simp only [upperBound, if_neg hzero, admitsBelowOne]
  by_cases hm : 0 < base.minor
  · simp only [if_pos hm, Bool.and_eq_true, beq_iff_eq, decide_eq_true_eq]
    omega
  · -- nothing but zeros: what was written decides
    simp only [if_neg hm]
    obtain rfl | rfl | rfl : n = 1 ∨ n = 2 ∨ n = 3 := by omega
    · have hp := hpatch (by decide)
      simp only [if_true, and_true]
      omega
    · have hp := hpatch (by decide)
      simp only [Nat.reduceEqDiff, if_false, if_true, beq_iff_eq]
      omega
    · simp only [Nat.reduceEqDiff, if_false, Bool.and_eq_true, beq_iff_eq]
      omega

/-- A range whose unwritten numbers are zero admits an interval. -/
theorem admits_iff_between (hv : r.version.Spelled r.precision) :
    r.admits client = true ↔
      Between r.version (upperBound r.kind r.version r.precision) client := by
  obtain ⟨kind, base, raw, n⟩ := r
  cases kind with
  | exact => rw [admits, beq_iff_eq]; exact exact_iff_between
  | tilde =>
    simp only [admits, Bool.and_eq_true, beq_iff_eq, decide_eq_true_eq]
    exact tilde_iff_between
  | caret =>
    by_cases hmajor : base.major = 0
    · simp only [admits, if_pos hmajor, Bool.and_eq_true, beq_iff_eq]
      exact caret_iff_between_of_zero hmajor hv
    · simp only [admits, if_neg hmajor, Bool.and_eq_true, Bool.or_eq_true, beq_iff_eq,
        decide_eq_true_eq]
      exact caret_iff_between_of_major (by omega)
  | unknown name =>
    simp only [admits, upperBound, between_iff, Version.triple, Bool.false_eq_true, false_iff]
    omega

/-! ## Ranges of texts -/

/-- **A range admits exactly the versions from its base on and below its upper bound**, for every range
that is read from a text. -/
theorem admits_iff_mem_interval (h : parse? t = some r) (client : Version) :
    r.admits client = true ↔
      r.version ≤ client ∧
        Version.tripleLt client.triple (upperBound r.kind r.version (written t)) := by
  obtain ⟨-, hn, hv⟩ := parse?_eq_some h
  rw [← hn]
  exact admits_iff_between hv

/-- Two zeros alone leave the patch free: ^0.0 admits 0.0.7. -/
theorem admits_of_two_zeros : (⟨.caret, ⟨0, 0, 0, "0.0"⟩, "^0.0", 2⟩ : VersionRange).admits
    ⟨0, 0, 7, "0.0.7"⟩ = true :=
  (admits_iff_mem_interval (show parse? " ^0.0 " = some _ by decide) _).mpr (by decide)

-- No text writes the range whose third number is there but not written, and its versions are no interval
-- from its base on.
example : (⟨.caret, ⟨0, 0, 5, []⟩, [], 2⟩ : VersionRange).admits ⟨0, 0, 3, []⟩ = true := by decide

end VersionRange

end SemverDispatch
