import Mathlib.Data.List.MinMax
import Mathlib.Order.Nat
import SemverDispatch.Proofs.Compilation

/-!
# Fields and widths

A priority is a number, and what it stands for is a row of five fields: kind, base version and precision. Rows are
compared from left to right, which is the order of ranks (`fields_lt_fields_iff`). The number is compared as its row is
at every width that holds the components, however wide, and not only within one table.

A table computes its width once, from its largest component. That is the least positive width that has room for all
numbers of its registrations (`isLeast_width`). A key never writes an unknown kind, and writes out one to three numbers,
so this is also the least one at which all routes can be packed (`forall_packable_iff`).

The main result `priority_embeds_fields` says both.
-/

namespace SemverDispatch

/-! ## Rows of fields -/

namespace VersionRange

variable {r s : VersionRange} {bits : Nat}

/-- The fields of a priority, from left to right. -/
def fields (r : VersionRange) : List Nat :=
  [r.kind.band, r.version.major, r.version.minor, r.version.patch, r.precision]

/-- Fields are compared from left to right as ranks are. -/
theorem fields_lt_fields_iff : r.fields < s.fields ↔ RanksBelow r s := by
  simp only [fields, List.cons_lt_cons_iff, List.not_lt_nil, and_false, or_false, RanksBelow, Version.tripleLt,
    Version.triple, Prod.mk.injEq]
  omega

/-- Ranges have the same fields exactly if they rank alike. -/
theorem fields_eq_fields_iff : r.fields = s.fields ↔ RanksWith r s := by
  simp only [fields, List.cons.injEq, and_true, RanksWith, Version.triple, Prod.mk.injEq, and_assoc]

/-- A range that can be packed at a width: its kind has a rank, its components fit, and it has as many numbers
written out as a version text may have. -/
structure Packable (bits : Nat) (r : VersionRange) : Prop where
  /-- the kind is none of the unknown ones -/
  known : ∀ name, r.kind ≠ .unknown name
  /-- the first number fits -/
  major : r.version.major < 2 ^ bits
  /-- the second number fits -/
  minor : r.version.minor < 2 ^ bits
  /-- the third number fits -/
  patch : r.version.patch < 2 ^ bits
  /-- a number is written out -/
  one_le : 1 ≤ r.precision
  /-- no more than three are -/
  le_three : r.precision ≤ 3

theorem Packable.fits (h : Packable bits r) : Fits bits r := by
  have hprecision : r.precision < 2 ^ precisionBits := Nat.lt_of_le_of_lt h.le_three (by decide)
  exact ⟨h.major, h.minor, h.patch, hprecision⟩

/-- A range of a kind that has a rank has a priority at every width, the packed number. -/
theorem priority_eq_packed (h : ∀ name, r.kind ≠ .unknown name) (bits : Nat) :
    r.priority r.precision bits = .ok (r.packed bits) := by
  have hbits : ¬ (bits : Int) < 0 := by omega
  unfold priority
  split
  · rename_i name hname
    exact absurd hname (h name)
  · rw [if_neg hbits]
    rfl

end VersionRange

/-! ## The least width -/

namespace Registration

variable {rs : List Registration} {bits : Nat}

/-- A positive width has room for the numbers of some registrations exactly if it is no less than theirs. -/
theorem width_le_iff (hbits : 1 ≤ bits) : width rs ≤ bits ↔ ∀ reg ∈ rs, reg.largest < 2 ^ bits := by
  constructor
  · intro hle reg hreg
    exact Nat.lt_of_lt_of_le (largest_lt_width hreg) (Nat.pow_le_pow_right (by decide) hle)
  · intro hall
    -- the greatest number of all fits as well, and its bits are what is counted
    have hmax : (rs.map largest).foldr max 0 ≤ 2 ^ bits - 1 := by
      refine List.max_le_of_forall_le _ _ fun n hn => ?_
      obtain ⟨reg, hreg, rfl⟩ := List.mem_map.mp hn
      exact Nat.le_sub_one_of_lt (hall reg hreg)
    have hpow : 0 < 2 ^ bits := Nat.two_pow_pos bits
    unfold width
    rcases Nat.eq_zero_or_pos ((rs.map largest).foldr max 0) with hzero | hpos
    · rw [hzero]
      exact hbits
    · exact (Nat.log2_lt (by omega)).mpr (by omega)

/-- **The width of a table is the least** positive one that has room for all of its numbers. -/
theorem isLeast_width (rs : List Registration) :
    IsLeast {bits | 1 ≤ bits ∧ ∀ reg ∈ rs, reg.largest < 2 ^ bits} (width rs) :=
  ⟨⟨Nat.le_add_left 1 _, fun _ => largest_lt_width⟩, fun _ h => (width_le_iff h.1).mpr h.2⟩

end Registration

/-! ## Tables -/

namespace RouteTable

variable {entries : List (Value × Value)} {table : RouteTable} {strict : Bool} {route : Route} {bits : Nat}

/-- The routes of a compiled table are those of the registrations, at their width. -/
theorem mem_iff_of_compile (h : compile strict entries = .ok table) : route ∈ table ↔
    ∃ reg ∈ registrations entries,
      Route.ofRegistration (Registration.width (registrations entries)) reg = route := by
  rw [eq_ofUsableEntries_of_compile h, ofUsableEntries, ofRegistrations_eq_sorted, (perm_sorted _).mem_iff]
  exact List.mem_map

/-- A range that is written can be packed wherever its numbers fit. -/
theorem packable_iff_largest_lt {reg : Registration} (h : reg ∈ registrations entries) :
    reg.range.Packable bits ↔ reg.largest < 2 ^ bits := by
  obtain ⟨entry, -, hwritten⟩ := mem_registrations.mp h
  obtain ⟨hknown, -, hspelled⟩ := VersionRange.parse?_eq_some hwritten.2.1
  simp only [Registration.largest, Nat.max_lt]
  constructor
  · intro hpackable
    exact ⟨hpackable.major, hpackable.minor, hpackable.patch⟩
  · rintro ⟨hmajor, hminor, hpatch⟩
    exact ⟨hknown, hmajor, hminor, hpatch, hspelled.pos, hspelled.le_three⟩

/-- All routes of a table can be packed at a width exactly if all registered numbers fit. -/
theorem forall_packable_iff (h : compile strict entries = .ok table) :
    (∀ route ∈ table, route.range.Packable bits) ↔
      ∀ reg ∈ registrations entries, reg.largest < 2 ^ bits := by
  constructor
  · intro hall reg hreg
    exact (packable_iff_largest_lt hreg).mp (hall _ ((mem_iff_of_compile h).mpr ⟨reg, hreg, rfl⟩))
  · intro hall route hroute
    obtain ⟨reg, hreg, rfl⟩ := (mem_iff_of_compile h).mp hroute
    exact (packable_iff_largest_lt hreg).mpr (hall reg hreg)

/-- The number of a compiled route is the priority of its range at the width of the table. -/
theorem priority_of_mem (h : compile strict entries = .ok table) (hroute : route ∈ table) :
    route.range.priority route.range.precision (Registration.width (registrations entries))
      = .ok route.priority := by
  obtain ⟨reg, hreg, rfl⟩ := (mem_iff_of_compile h).mp hroute
  have hpackable : reg.range.Packable (Registration.width (registrations entries)) :=
    (packable_iff_largest_lt hreg).mpr (Registration.largest_lt_width hreg)
  exact VersionRange.priority_eq_packed hpackable.known _

/-- **Priorities are an order embedding of rows of fields**, at every width that the components fit: ranges that can
be packed have priorities, one is less exactly if its fields are less from left to right, and two are the same exactly
if all five fields are. The width that a mapping is compiled with is such a width for every route of its table,
and the least positive one; the numbers of the routes are the priorities of their ranges at this width. -/
theorem priority_embeds_fields :
    (∀ (bits : Nat) (r s : VersionRange), r.Packable bits → s.Packable bits →
      ∃ p q, r.priority r.precision bits = .ok p ∧ s.priority s.precision bits = .ok q ∧
        (p < q ↔ r.fields < s.fields) ∧ (p = q ↔ r.fields = s.fields)) ∧
    ∀ (strict : Bool) (entries : List (Value × Value)) (table : RouteTable),
      compile strict entries = .ok table →
        IsLeast {bits | 1 ≤ bits ∧ ∀ route ∈ table, route.range.Packable bits}
          (Registration.width (registrations entries)) ∧
        ∀ route ∈ table, route.range.priority route.range.precision
          (Registration.width (registrations entries)) = .ok route.priority := by
  refine ⟨fun bits r s hr hs => ?_, fun strict entries table h => ?_⟩
  · refine ⟨_, _, VersionRange.priority_eq_packed hr.known bits, VersionRange.priority_eq_packed hs.known bits,
      ?_, ?_⟩
    · rw [Int.ofNat_lt, VersionRange.packed_lt_packed_iff hr.fits hs.fits, VersionRange.fields_lt_fields_iff]
    · rw [Int.ofNat_inj, VersionRange.packed_eq_packed_iff hr.fits hs.fits, VersionRange.fields_eq_fields_iff]
  · simp only [forall_packable_iff h]
    exact ⟨Registration.isLeast_width _, fun route hroute => priority_of_mem h hroute⟩

/-- A range whose second number takes one bit more than the others. -/
def belowEight : VersionRange := ⟨.caret, ⟨7, 8, 7, "7.8.7"⟩, "^7.8.7", 3⟩

/-- The range of the next major version. -/
def fromEight : VersionRange := ⟨.caret, ⟨8, 0, 0, "8"⟩, "^8", 1⟩

/-- Both as keys of a mapping. -/
def eightKeys : List (Value × Value) :=
  [(.text belowEight.raw, .function 0), (.text fromEight.raw, .function 1)]

/-- The largest component is a power of two, and four bits are what it takes. -/
theorem priority_embeds_fields_eightKeys : ∃ table, compile true eightKeys = .ok table ∧
    table.map (·.range) = [fromEight, belowEight] ∧
    IsLeast {bits | 1 ≤ bits ∧ ∀ route ∈ table, route.range.Packable bits} 4 ∧
    ∃ p q, belowEight.priority 3 4 = .ok p ∧ fromEight.priority 1 4 = .ok q ∧ p < q := by
  obtain ⟨hembeds, hwidth⟩ := priority_embeds_fields
  have hranges : (compile true eightKeys).map (List.map (·.range)) = .ok [fromEight, belowEight] := rfl
  obtain ⟨table, htable, htableRanges⟩ := Result.map_eq_ok_iff.mp hranges
  have hbelow : belowEight.Packable 4 := ⟨nofun, by decide, by decide, by decide, by decide, by decide⟩
  have hfrom : fromEight.Packable 4 := ⟨nofun, by decide, by decide, by decide, by decide, by decide⟩
  obtain ⟨p, q, hp, hq, hlt, -⟩ := hembeds 4 _ _ hbelow hfrom
  exact ⟨table, htable, htableRanges, (hwidth _ _ _ htable).1, p, q, hp, hq, hlt.mpr (by decide)⟩

-- With three bits the major number 8 falls onto the kind, and the order is the wrong way round.
example : fromEight.packed 3 < belowEight.packed 3 := by decide

end RouteTable

end SemverDispatch
