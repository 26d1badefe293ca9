import Mathlib.Data.Set.Lattice
import Mathlib.Order.CompletePartialOrder
import SemverDispatch.Proofs.Compilation
import SemverDispatch.Proofs.Interval

/-!
# The most specific route

The order of a table prefers the narrower of two ranges, as far as they compete. Ranges of one kind that admit
a common version are nested, and the one that ranks higher lies inside the other: its base is no lower, and since
the two overlap its upper bound is no higher (`upperBound_mono`). From 1.0.0 on this extends to ranges of
different kinds: no range that admits the same version lies strictly inside the one that ranks highest
(`not_ssubset_of_rank`). Below 1.0.0 it does not, as a caret range may admit less than a tilde range there.

The main result `exists_compile_specific` says both of the route that a table finds for a version.
-/

namespace SemverDispatch

namespace VersionRange

variable {base base' client : Version} {upper upper' : Nat × Nat × Nat} {n n' : Nat} {r s : VersionRange}

/-- The versions that a range admits. -/
def admitted (r : VersionRange) : Set Version := {client | r.admits client = true}

theorem mem_admitted : client ∈ r.admitted ↔ r.admits client = true := Iff.rfl

/-- An interval lies inside another one that begins no later and ends no earlier. -/
theorem Between.mono (hbase : base' ≤ base) (hupper : ¬ Version.tripleLt upper' upper)
    (h : Between base upper client) : Between base' upper' client := by
  obtain ⟨hle, hlt⟩ := h
  refine ⟨Version.not_tripleLt_trans hbase hle, ?_⟩
  simp only [Version.tripleLt] at hupper hlt ⊢
  omega

/-- Where a caret range ends, by what comes first in its base: a number that is not zero, or the end of what is
written. -/
theorem upperBound_caret_cases (h : base.Spelled n) :
    (0 < base.major ∧ upperBound .caret base n = (base.major + 1, 0, 0)) ∨
      base.major = 0 ∧
        ((0 < base.minor ∧ upperBound .caret base n = (0, base.minor + 1, 0)) ∨
          base.minor = 0 ∧
            ((n = 1 ∧ base.patch = 0 ∧ upperBound .caret base n = (1, 0, 0)) ∨
              (n = 2 ∧ base.patch = 0 ∧ upperBound .caret base n = (0, 1, 0)) ∨
              n = 3 ∧ upperBound .caret base n = (0, 0, base.patch + 1))) := by
  obtain ⟨hpos, hle, -, hpatch⟩ := h
  simp only [upperBound]
  by_cases hmajor : 0 < base.major
  · exact .inl ⟨hmajor, if_pos hmajor⟩
  refine .inr ⟨by omega, ?_⟩
  rw [if_neg hmajor]
  by_cases hminor : 0 < base.minor
  · exact .inl ⟨hminor, if_pos hminor⟩
  refine .inr ⟨by omega, ?_⟩
  rw [if_neg hminor]
  obtain rfl | rfl | rfl : n = 1 ∨ n = 2 ∨ n = 3 := by omega
  · exact .inl ⟨rfl, hpatch (by decide), rfl⟩
  · exact .inr (.inl ⟨rfl, hpatch (by decide), rfl⟩)
  · exact .inr (.inr ⟨rfl, rfl⟩)

/-- Of two caret ranges that overlap the one that ranks higher ends no later. -/
theorem upperBound_caret_mono (hr : base.Spelled n) (hs : base'.Spelled n')
    (hrank : Version.tripleLt base'.triple base.triple ∨ base'.triple = base.triple ∧ n' ≤ n)
    (hclient : Between base (upperBound .caret base n) client)
    (hclient' : Between base' (upperBound .caret base' n') client) :
    ¬ Version.tripleLt (upperBound .caret base' n') (upperBound .caret base n) := by
  rw [between_iff] at hclient hclient'
  simp only [Version.tripleLt, Version.triple, Prod.mk.injEq] at hrank ⊢
  have hu := upperBound_caret_cases hr
  have hu' := upperBound_caret_cases hs
  simp only [Prod.ext_iff] at hu hu'
  omega

/-- Of two ranges of one kind that overlap the one that ranks higher begins no earlier and ends no later. -/
theorem bounds_mono (hr : r.version.Spelled r.precision) (hs : s.version.Spelled s.precision)
    (hkind : s.kind = r.kind) (hrank : s.RanksBelow r ∨ s.RanksWith r)
    (hclient : Between r.version (upperBound r.kind r.version r.precision) client)
    (hclient' : Between s.version (upperBound s.kind s.version s.precision) client) :
    s.version ≤ r.version ∧ ¬ Version.tripleLt (upperBound s.kind s.version s.precision)
      (upperBound r.kind r.version r.precision) := by
  have hbase : Version.tripleLt s.version.triple r.version.triple ∨
      s.version.triple = r.version.triple ∧ s.precision ≤ r.precision := by
    simp only [RanksBelow, RanksWith, hkind, Nat.lt_irrefl, true_and, false_or] at hrank
    rcases hrank with (hlt | ⟨heq, hlt⟩) | ⟨heq, hsame⟩
    · exact .inl hlt
    · exact .inr ⟨heq, Nat.le_of_lt hlt⟩
    · exact .inr ⟨heq, Nat.le_of_eq hsame⟩
  have hle : s.version ≤ r.version := by
    show ¬ Version.tripleLt r.version.triple s.version.triple
    simp only [Version.tripleLt, Version.triple, Prod.mk.injEq] at hbase ⊢
    omega
  refine ⟨hle, ?_⟩
  rw [hkind] at hclient' ⊢
  cases hk : r.kind with
  | caret =>
    rw [hk] at hclient hclient'
    exact upperBound_caret_mono hr hs hbase hclient hclient'
  | _ =>
    -- the numbers that have to stay are those of the common version
    rw [hk, between_iff] at hclient hclient'
    simp only [upperBound, Version.tripleLt, Version.triple] at hclient hclient' ⊢
    omega

/-- **Of two ranges of one kind that admit a common version the one that ranks higher is the narrower.** -/
theorem admitted_subset_of_rank (hr : r.version.Spelled r.precision) (hs : s.version.Spelled s.precision)
    (hkind : s.kind = r.kind) (hrank : s.RanksBelow r ∨ s.RanksWith r)
    (hclient : r.admits client = true) (hclient' : s.admits client = true) :
    r.admitted ⊆ s.admitted := by
  intro v hv
  rw [mem_admitted, admits_iff_between hr] at hv
  obtain ⟨hbase, hupper⟩ := bounds_mono hr hs hkind hrank ((admits_iff_between hr).mp hclient)
    ((admits_iff_between hs).mp hclient')
  exact (admits_iff_between hs).mpr (hv.mono hbase hupper)

/-! ## Different kinds -/

/-- Only the numbers of a version count for a range. -/
theorem admits_congr {v w : Version} (r : VersionRange) (h : v.triple = w.triple) :
    r.admits v = r.admits w := by
  obtain ⟨hmajor, hminor, hpatch⟩ : v.major = w.major ∧ v.minor = w.minor ∧ v.patch = w.patch := by
    simpa [Version.triple] using h
  simp only [admits, admitsBelowOne, Version.triple, hmajor, hminor, hpatch]

/-- What an exact range admits is admitted wherever it overlaps. -/
theorem admitted_subset_of_exact (hkind : r.kind = .exact) (hclient : r.admits client = true)
    (hclient' : s.admits client = true) : r.admitted ⊆ s.admitted := by
  intro v hv
  simp only [mem_admitted, admits, hkind, beq_iff_eq] at hv hclient
  rw [mem_admitted, admits_congr s (hv.trans hclient.symm)]
  exact hclient'

/-- From 1.0.0 on a caret range goes on beyond every minor number in it. -/
theorem admits_next_minor (hkind : s.kind = .caret) (hmajor : 1 ≤ client.major)
    (hclient : s.admits client = true) :
    s.admits ⟨client.major, client.minor + 1, 0, []⟩ = true := by
  simp only [admits, hkind, Bool.and_eq_true, beq_iff_eq] at hclient ⊢
  obtain ⟨hsame, hlater⟩ := hclient
  have hzero : ¬ s.version.major = 0 := by omega
  rw [if_neg hzero] at hlater ⊢
  simp only [Bool.or_eq_true, Bool.and_eq_true, beq_iff_eq, decide_eq_true_eq] at hlater ⊢
  omega

/-- A tilde range does not. -/
theorem not_admits_next_minor (hkind : r.kind = .tilde) (hclient : r.admits client = true) :
    ¬ r.admits ⟨client.major, client.minor + 1, 0, []⟩ = true := by
  simp only [admits, hkind, Bool.and_eq_true, beq_iff_eq, decide_eq_true_eq] at hclient ⊢
  omega

/-- Below a range of another kind only caret ranges and tilde ranges rank. -/
theorem band_lt_of_rank (hr : ∀ name, r.kind ≠ .unknown name) (hs : ∀ name, s.kind ≠ .unknown name)
    (hkind : s.kind ≠ r.kind) (hrank : s.RanksBelow r ∨ s.RanksWith r) : s.kind.band < r.kind.band := by
  have hne : s.kind.band ≠ r.kind.band := fun heq => hkind ((RangeKind.band_inj hs hr).mp heq)
  simp only [RanksBelow, RanksWith] at hrank
  omega

/-- **From 1.0.0 on no range lies strictly inside one that ranks higher**, if they admit a common version. -/
theorem not_ssubset_of_rank (hr : r.version.Spelled r.precision) (hs : s.version.Spelled s.precision)
    (hr' : ∀ name, r.kind ≠ .unknown name) (hs' : ∀ name, s.kind ≠ .unknown name)
    (hrank : s.RanksBelow r ∨ s.RanksWith r) (hmajor : 1 ≤ client.major)
    (hclient : r.admits client = true) (hclient' : s.admits client = true) :
    ¬ s.admitted ⊂ r.admitted := by
  intro hinside
  by_cases hkind : s.kind = r.kind
  · exact hinside.2 (admitted_subset_of_rank hr hs hkind hrank hclient hclient')
  have hband : s.kind.band < r.kind.band := band_lt_of_rank hr' hs' hkind hrank
  cases hk : r.kind with
  | exact => exact hinside.2 (admitted_subset_of_exact hk hclient hclient')
  | tilde =>
    cases hk' : s.kind with
    | caret => exact not_admits_next_minor hk hclient (hinside.1 (admits_next_minor hk' hmajor hclient'))
    | unknown name => exact hs' name hk'
    | _ => simp [hk, hk', RangeKind.band] at hband
  | caret =>
    cases hk' : s.kind with
    | unknown name => exact hs' name hk'
    | _ => simp [hk, hk', RangeKind.band] at hband
  | unknown name => exact hr' name hk

end VersionRange

/-! ## Routes -/

namespace RouteTable

variable {entries : List (Value × Value)} {client : Version} {route other : Route}

/-- Ranges of compiled routes have a kind with a mark and are zero where nothing is written. -/
theorem spelled_of_mem (h : route ∈ ofUsableEntries entries) :
    (∀ name, route.range.kind ≠ .unknown name) ∧ route.range.version.Spelled route.range.precision := by
  obtain ⟨_, -, hwritten⟩ := exists_mem_toRegistration.mp ⟨route, h, rfl⟩
  obtain ⟨hknown, -, hspelled⟩ := VersionRange.parse?_eq_some hwritten.2.1
  exact ⟨hknown, hspelled⟩

/-- No route that admits a version ranks above the one that answers it. -/
theorem rank_of_findMatch (h : (ofUsableEntries entries).findMatch client = some route)
    (hother : other ∈ ofUsableEntries entries) (hadmits : other.range.admits client = true) :
    other.range.RanksBelow route.range ∨ other.range.RanksWith route.range := by
  obtain ⟨_, hentry, hwritten⟩ := exists_mem_toRegistration.mp ⟨other, hother, rfl⟩
  exact (isBest_of_findMatch h).rank hentry hwritten hadmits

/-- **The route that answers a version is the most specific one.** Among the routes of its kind that admit the
version it admits the fewest others: all that it admits is admitted by each of them. From 1.0.0 on no route of any
kind that admits the version has its versions strictly inside. -/
theorem exists_compile_specific (strict : Bool)
    (h : ∀ entry ∈ entries, ∃ reg : Registration, reg.WrittenBy entry) :
    ∃ table, compile strict entries = .ok table ∧
      ∀ client route, table.findMatch client = some route →
        (∀ other ∈ table, other.range.kind = route.range.kind → other.range.admits client = true →
          route.range.admitted ⊆ other.range.admitted) ∧
        (1 ≤ client.major → ∀ other ∈ table, other.range.admits client = true →
          ¬ other.range.admitted ⊂ route.range.admitted) := by
  refine ⟨ofUsableEntries entries, compile_of_usable strict h, fun client route hroute => ?_⟩
  obtain ⟨hmem, hclient⟩ := mem_and_admits_of_findMatch hroute
  obtain ⟨hknown, hspelled⟩ := spelled_of_mem hmem
  constructor
  · intro other hother hkind hadmits
    exact VersionRange.admitted_subset_of_rank hspelled (spelled_of_mem hother).2 hkind
      (rank_of_findMatch hroute hother hadmits) hclient hadmits
  · intro hmajor other hother hadmits
    obtain ⟨hknown', hspelled'⟩ := spelled_of_mem hother
    exact VersionRange.not_ssubset_of_rank hspelled hspelled' hknown hknown'
      (rank_of_findMatch hroute hother hadmits) hmajor hclient hadmits

/-- Three keys of one base version, the widest one first. -/
def nestedKeys : List (Value × Value) :=
  [(.text "^0", .function 0), (.text "^0.0", .function 1),
    (.text "^0.0.0", .function 2)]

/-- The one that admits nothing but 0.0.0 answers 0.0.0. -/
theorem exists_compile_specific_nestedKeys : ∃ table route, compile true nestedKeys = .ok table ∧
    table.findMatch ⟨0, 0, 0, "0"⟩ = some route ∧ route.key = "^0.0.0" ∧
    ∀ other ∈ table, other.range.kind = .caret → other.range.admits ⟨0, 0, 0, "0"⟩ = true →
      route.range.admitted ⊆ other.range.admitted := by
  have husable : ∀ entry ∈ nestedKeys, ∃ reg : Registration, reg.WrittenBy entry := by decide
  obtain ⟨table, htable, hspecific⟩ := exists_compile_specific true husable
  have hfound : (compile true nestedKeys).map (fun table =>
      (table.findMatch ⟨0, 0, 0, "0"⟩).map fun r => (r.key, r.range.kind))
      = .ok (some ("^0.0.0", .caret)) := rfl
  rw [htable] at hfound
  obtain ⟨route, hroute, hshown⟩ := Option.map_eq_some_iff.mp (Except.ok.inj hfound)
  obtain ⟨hkey, hkind⟩ := Prod.mk.inj hshown
  refine ⟨table, route, htable, hroute, hkey, fun other hother hcaret hadmits => ?_⟩
  exact (hspecific _ _ hroute).1 other hother (hcaret.trans hkind.symm) hadmits

-- Below 1.0.0 a caret range may lie inside a tilde range, which comes first nevertheless.
example : ((ofUsableEntries [(.text "^0.0.3", .function 0),
    (.text "~0.0", .function 1)]).findMatch ⟨0, 0, 3, []⟩).map (·.key) = some "~0.0" := by
  decide

end RouteTable

end SemverDispatch
