import Mathlib.Algebra.Group.Nat.Defs
import Mathlib.Data.List.MinMax
import SemverDispatch.Route.Table

/-!
# Ranks

The order in which routes are tried, without the numbers that stand for it. A range ranks below another
by kind first, then by base version, then by how many numbers are written out. `packed` turns ranges into
numbers, and the statement of this module is that nothing is lost by it: as long as every component fits
the width of its field, comparing packed numbers is comparing ranks (`packed_lt_packed_iff`,
`packed_eq_packed_iff`), and the width that a table computes is always wide enough (`fits_width`).

The packing is positional notation: a field that fits lies beside its neighbour and not over it.
-/

namespace SemverDispatch

/-! ## The order of versions -/

namespace Version

variable {a b c : Nat × Nat × Nat}

theorem tripleLt_irrefl (a : Nat × Nat × Nat) : ¬ tripleLt a a := by
  unfold tripleLt
  omega

theorem tripleLt_trans (hab : tripleLt a b) (hbc : tripleLt b c) : tripleLt a c := by
  unfold tripleLt at *
  omega

theorem not_tripleLt_trans (hba : ¬ tripleLt b a) (hcb : ¬ tripleLt c b) : ¬ tripleLt c a := by
  unfold tripleLt at *
  omega

/-- Of two triples one comes first, unless they are the same. -/
theorem eq_of_not_tripleLt (hab : ¬ tripleLt a b) (hba : ¬ tripleLt b a) : a = b := by
  obtain ⟨a₁, a₂, a₃⟩ := a
  obtain ⟨b₁, b₂, b₃⟩ := b
  simp only [tripleLt] at hab hba
  simp only [Prod.mk.injEq]
  omega

end Version

/-! ## The order of ranges -/

/-- Kinds that have a mark are told apart by their ranks. -/
theorem RangeKind.band_inj {kind kind' : RangeKind} (h : ∀ name, kind ≠ .unknown name)
    (h' : ∀ name, kind' ≠ .unknown name) : kind.band = kind'.band ↔ kind = kind' := by
  refine ⟨fun heq => ?_, fun heq => heq ▸ rfl⟩
  cases kind with
  | unknown name => exact absurd rfl (h name)
  | _ =>
    cases kind' with
    | unknown name => exact absurd rfl (h' name)
    | _ => first | rfl | cases heq

namespace VersionRange

/-- One range ranks below another: by kind, then by base version, then by how many numbers are written. -/
def RanksBelow (r s : VersionRange) : Prop :=
  r.kind.band < s.kind.band ∨ (r.kind.band = s.kind.band ∧
    (Version.tripleLt r.version.triple s.version.triple ∨
      (r.version.triple = s.version.triple ∧ r.precision < s.precision)))

/-- Two ranges of one kind and base version, with as many numbers written out. -/
def RanksWith (r s : VersionRange) : Prop :=
  r.kind.band = s.kind.band ∧ r.version.triple = s.version.triple ∧ r.precision = s.precision

variable {r s : VersionRange}

theorem RanksWith.symm (h : RanksWith r s) : RanksWith s r :=
  ⟨h.1.symm, h.2.1.symm, h.2.2.symm⟩

/-! ## Fields -/

variable {bits p q f g : Nat}

/-- A field that fits is a digit behind the number before it. -/
theorem pack_eq_add (hf : f < 2 ^ bits) (p : Nat) : pack bits p f = p * 2 ^ bits + f := by
  rw [pack, ← Nat.shiftLeft_add_eq_or_of_lt hf, Nat.shiftLeft_eq]

/-- Numbers with one more field are compared without it first. -/
theorem pack_lt_pack_iff (hf : f < 2 ^ bits) (hg : g < 2 ^ bits) :
    pack bits p f < pack bits q g ↔ p < q ∨ (p = q ∧ f < g) := by
  rw [pack_eq_add hf, pack_eq_add hg]
  rcases Nat.lt_trichotomy p q with hpq | rfl | hqp
  · -- the numbers before differ by one unit of the field at least
    have hunit : (p + 1) * 2 ^ bits ≤ q * 2 ^ bits := Nat.mul_le_mul_right _ hpq
    rw [Nat.succ_mul] at hunit
    omega
  · omega
  · have hunit : (q + 1) * 2 ^ bits ≤ p * 2 ^ bits := Nat.mul_le_mul_right _ hqp
    rw [Nat.succ_mul] at hunit
    omega

/-- Numbers with one more field are the same where both parts are. -/
theorem pack_eq_pack_iff (hf : f < 2 ^ bits) (hg : g < 2 ^ bits) :
    pack bits p f = pack bits q g ↔ p = q ∧ f = g := by
  have hlt := pack_lt_pack_iff (p := p) (q := q) hf hg
  have hgt := pack_lt_pack_iff (p := q) (q := p) hg hf
  constructor
  · intro heq
    omega
  · rintro ⟨rfl, rfl⟩
    rfl

/-- Every field of a range fits, where those of its base version have `bits` bits. -/
structure Fits (bits : Nat) (r : VersionRange) : Prop where
  /-- the first number -/
  major : r.version.major < 2 ^ bits
  /-- the second number -/
  minor : r.version.minor < 2 ^ bits
  /-- the third number -/
  patch : r.version.patch < 2 ^ bits
  /-- how many are written -/
  precision : r.precision < 2 ^ precisionBits

/-- **Packing keeps the order of ranks.** -/
theorem packed_lt_packed_iff (hr : Fits bits r) (hs : Fits bits s) :
    r.packed bits < s.packed bits ↔ RanksBelow r s := by
  simp only [packed, packedBase, RanksBelow, Version.tripleLt, Version.triple, Prod.mk.injEq]
  rw [pack_lt_pack_iff hr.precision hs.precision, pack_lt_pack_iff hr.patch hs.patch,
    pack_lt_pack_iff hr.minor hs.minor, pack_lt_pack_iff hr.major hs.major,
    pack_eq_pack_iff hr.patch hs.patch, pack_eq_pack_iff hr.minor hs.minor,
    pack_eq_pack_iff hr.major hs.major]
  omega

/-- **Packing keeps ranks apart.** -/
theorem packed_eq_packed_iff (hr : Fits bits r) (hs : Fits bits s) :
    r.packed bits = s.packed bits ↔ RanksWith r s := by
  simp only [packed, packedBase, RanksWith, Version.triple, Prod.mk.injEq]
  rw [pack_eq_pack_iff hr.precision hs.precision, pack_eq_pack_iff hr.patch hs.patch,
    pack_eq_pack_iff hr.minor hs.minor, pack_eq_pack_iff hr.major hs.major]
  omega

end VersionRange

/-! ## The width of a table -/

namespace Registration

/-- Every number of a table's registrations fits its width. -/
theorem largest_lt_width {r : Registration} {rs : List Registration} (h : r ∈ rs) :
    r.largest < 2 ^ width rs := by
  have hle : r.largest ≤ (rs.map largest).foldr max 0 :=
    List.le_max_of_le' 0 (List.mem_map_of_mem h) le_rfl
  exact Nat.lt_of_le_of_lt hle Nat.lt_log2_self

/-- **The width of a table is wide enough** for all of its ranges, whose precision is that of a text. -/
theorem fits_width {r : Registration} {rs : List Registration} (h : r ∈ rs)
    (hp : r.range.precision ≤ 3) : r.range.Fits (width rs) := by
  have hlt : r.largest < 2 ^ width rs := largest_lt_width h
  simp only [largest] at hlt
  exact ⟨by omega, by omega, by omega, by simp only [VersionRange.precisionBits]; omega⟩

end Registration

end SemverDispatch
