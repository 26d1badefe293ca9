import SemverDispatch.Proofs.Reading
import SemverDispatch.Proofs.TableOrder

/-!
# The best route for a version

What a table that is compiled from a mapping finds, in terms of the mapping alone. An entry registers a
handler if its key writes a range and its value can be called (`WrittenBy`); whether the other entries are
an error or are skipped, the table holds the registrations of exactly these entries. The first route whose
range passes a test is the best registration that does (`IsBest`): no other one ranks above it, and among
equals it stands first in the mapping. Neither priorities nor the order of the table occur in this.

Two searches are of this form. The route of a version is the first that admits it, and the latest route is
the first of the highest base version.
-/

namespace SemverDispatch

namespace Registration

/-- A registration is that of an entry: the key writes its range, and the value can be called. -/
def WrittenBy (reg : Registration) (entry : Value × Value) : Prop :=
  entry.1 = .text reg.key ∧ VersionRange.parse? reg.key = some reg.range ∧
    entry.2 = reg.handler.value

variable {reg reg' best : Registration} {entry : Value × Value} {entries : List (Value × Value)}
  {test : VersionRange → Bool}

theorem WrittenBy.unique (h : reg.WrittenBy entry) (h' : reg'.WrittenBy entry) : reg = reg' := by
  obtain ⟨key, range, handler⟩ := reg
  obtain ⟨key', range', handler'⟩ := reg'
  obtain ⟨hkey, hrange, hhandler⟩ := h
  obtain ⟨hkey', hrange', hhandler'⟩ := h'
  obtain rfl : key = key' := Value.text.inj (hkey.symm.trans hkey')
  obtain rfl : range = range' := Option.some.inj (hrange.symm.trans hrange')
  obtain rfl : handler = handler' := Callable.ext (hhandler.symm.trans hhandler')
  rfl

/-- The entries that are accepted are those that register a handler. -/
theorem ofEntry_eq_ok_iff : ofEntry entry = .ok reg ↔ reg.WrittenBy entry := by
  obtain ⟨key, handler⟩ := entry
  constructor
  · intro h
    unfold ofEntry at h
    dsimp only at h
    split at h
    · cases h
    · rename_i c t range hhandler hkey hrange
      obtain rfl := Except.ok.inj h
      rw [VersionRange.ofValue?, hkey, Option.bind_some] at hrange
      exact ⟨Value.text?_eq_some_iff.mp hkey, hrange, Value.callable?_eq_some_iff.mp hhandler⟩
    · cases h
  · rintro ⟨hkey, hrange, hhandler⟩
    dsimp only at hkey hhandler
    subst hkey hhandler
    simp only [ofEntry, Callable.callable?_value, Value.text?, VersionRange.ofValue?, Option.bind_some, hrange]

theorem toOption_ofEntry_eq_some : (ofEntry entry).toOption = some reg ↔ reg.WrittenBy entry := by
  rw [← ofEntry_eq_ok_iff]
  cases ofEntry entry <;> simp [Except.toOption]

/-- An entry is usable exactly if it is accepted. -/
theorem exists_writtenBy_iff :
    (∃ reg : Registration, reg.WrittenBy entry) ↔ (ofEntry entry).toOption.isSome = true := by
  simp only [Option.isSome_iff_exists, toOption_ofEntry_eq_some]

instance : Decidable (∃ reg : Registration, reg.WrittenBy entry) :=
  decidable_of_iff _ exists_writtenBy_iff.symm

/-- What a text spells out is at most three numbers, which is what a priority has room for. -/
theorem WrittenBy.precision_le (h : reg.WrittenBy entry) : reg.range.precision ≤ 3 :=
  (VersionRange.parse?_eq_some h.2.1).2.2.le_three

/-- The best registration of a mapping whose range passes a test: every other one that passes ranks below
it, or ranks with it and stands behind it. -/
structure IsBest (entries : List (Value × Value)) (test : VersionRange → Bool) (best : Registration) :
    Prop where
  /-- it passes -/
  passes : test best.range = true
  /-- it is ahead of all others -/
  ahead : ∃ before entry after, entries = before ++ entry :: after ∧ best.WrittenBy entry ∧
    (∀ e ∈ before, ∀ reg : Registration, reg.WrittenBy e → test reg.range = true →
      reg.range.RanksBelow best.range) ∧
    ∀ e ∈ after, ∀ reg : Registration, reg.WrittenBy e → test reg.range = true →
      reg.range.RanksBelow best.range ∨ reg.range.RanksWith best.range

/-- The latest registration of a mapping: the best of those that have the highest base version. -/
structure IsLatest (entries : List (Value × Value)) (latest : Registration) : Prop where
  /-- it is the best of its base version -/
  isBest : IsBest entries (·.version.triple == latest.range.version.triple) latest
  /-- no base version is higher -/
  highest : ∀ entry ∈ entries, ∀ reg : Registration, reg.WrittenBy entry →
    ¬ latest.range.version < reg.range.version

end Registration

namespace VersionRange

/-- Of two ranges at most one ranks below the other, and none if they rank alike. -/
theorem RanksBelow.asymm {r s : VersionRange} (h : RanksBelow r s) :
    ¬ (RanksBelow s r ∨ RanksWith s r) := by
  simp only [RanksBelow, RanksWith, Version.tripleLt, Version.triple, Prod.mk.injEq] at *
  omega

end VersionRange

namespace Registration

variable {best best' : Registration} {entries : List (Value × Value)} {test : VersionRange → Bool}

/-- **No registration that passes ranks above the best one.** -/
theorem IsBest.rank {reg : Registration} {entry : Value × Value} (h : IsBest entries test best)
    (hentry : entry ∈ entries) (hreg : reg.WrittenBy entry) (hpass : test reg.range = true) :
    reg.range.RanksBelow best.range ∨ reg.range.RanksWith best.range := by
  obtain ⟨before, own, after, rfl, hwritten, hbefore, hafter⟩ := h.ahead
  rcases List.mem_append.mp hentry with hentry | hentry
  · exact .inl (hbefore entry hentry reg hreg hpass)
  rcases List.mem_cons.mp hentry with rfl | hentry
  · rw [hreg.unique hwritten]
    exact .inr ⟨rfl, rfl, rfl⟩
  · exact hafter entry hentry reg hreg hpass

/-- Of two best registrations the second stands where the first does, if it does not stand before it: each would
otherwise rank below the other. -/
theorem eq_of_not_before {before between after after' : List (Value × Value)} {entry entry' : Value × Value}
    (hsplit : entry :: after = between ++ entry' :: after')
    (hwritten : best.WrittenBy entry) (hpasses : test best.range = true)
    (hafter : ∀ e ∈ after, ∀ reg : Registration, reg.WrittenBy e → test reg.range = true →
      reg.range.RanksBelow best.range ∨ reg.range.RanksWith best.range)
    (hwritten' : best'.WrittenBy entry') (hpasses' : test best'.range = true)
    (hbefore' : ∀ e ∈ before ++ between, ∀ reg : Registration, reg.WrittenBy e → test reg.range = true →
      reg.range.RanksBelow best'.range) : best' = best := by
  cases between with
  | nil =>
    obtain ⟨rfl, -⟩ := List.cons.inj hsplit
    exact hwritten'.unique hwritten
  | cons e rest =>
    obtain ⟨rfl, hrest⟩ := List.cons.inj hsplit
    have hmem : entry ∈ before ++ entry :: rest := List.mem_append_right _ (List.mem_cons_self ..)
    have hmem' : entry' ∈ after := by
      rw [hrest]
      exact List.mem_append_right _ (List.mem_cons_self ..)
    have hbelow : best.range.RanksBelow best'.range := hbefore' entry hmem best hwritten hpasses
    exact absurd (hafter entry' hmem' best' hwritten' hpasses') hbelow.asymm

/-- **There is one best registration at most.** -/
theorem IsBest.unique (h : IsBest entries test best) (h' : IsBest entries test best') :
    best' = best := by
  obtain ⟨hpasses, before, entry, after, hsplit, hwritten, hbefore, hafter⟩ := h
  obtain ⟨hpasses', before', entry', after', hsplit', hwritten', hbefore', hafter'⟩ := h'
  rw [hsplit] at hsplit'
  rcases List.append_eq_append_iff.mp hsplit' with ⟨between, rfl, htail⟩ | ⟨between, rfl, htail⟩
  · exact eq_of_not_before htail hwritten hpasses hafter hwritten' hpasses' hbefore'
  · exact (eq_of_not_before htail hwritten' hpasses' hafter' hwritten hpasses hbefore).symm

end Registration

namespace RouteTable

variable {entries : List (Value × Value)} {table : RouteTable} {strict : Bool} {client : Version}
  {test : VersionRange → Bool} {route : Route}

/-! ## What a table holds -/

/-- **Strict and lenient reading agree** where strict reading succeeds: then every entry is usable. -/
theorem eq_ofUsableEntries_of_compile (h : compile strict entries = .ok table) :
    table = ofUsableEntries entries := by
  cases strict with
  | false => exact (Except.ok.inj h).symm
  | true =>
    obtain ⟨rs, hrs, rfl⟩ := Result.map_eq_ok_iff.mp h
    have hall : List.Forall₂ (fun e r => Registration.ofEntry e = .ok r) entries rs :=
      Result.mapM_eq_ok_iff.mp hrs
    -- an entry that is accepted is usable, so that nothing is skipped
    rw [ofUsableEntries]
    congr 1
    clear hrs h
    induction hall with
    | nil => rfl
    | cons hentry _ ih =>
      rw [List.filterMap_cons, hentry, ← ih]
      rfl

/-- The registrations of the usable entries of a mapping, in its order. -/
def registrations (entries : List (Value × Value)) : List Registration :=
  entries.filterMap fun entry => (Registration.ofEntry entry).toOption

theorem registrations_append (before after : List (Value × Value)) :
    registrations (before ++ after) = registrations before ++ registrations after :=
  List.filterMap_append ..

theorem registrations_cons {reg : Registration} {entry : Value × Value} (h : reg.WrittenBy entry)
    (rest : List (Value × Value)) : registrations (entry :: rest) = reg :: registrations rest := by
  rw [registrations, List.filterMap_cons, Registration.toOption_ofEntry_eq_some.mpr h]
  rfl

theorem mem_registrations {reg : Registration} :
    reg ∈ registrations entries ↔ ∃ entry ∈ entries, reg.WrittenBy entry := by
  simp only [registrations, List.mem_filterMap, Registration.toOption_ofEntry_eq_some]

theorem precision_le_of_mem {reg : Registration} (h : reg ∈ registrations entries) :
    reg.range.precision ≤ 3 := by
  obtain ⟨entry, -, hwritten⟩ := mem_registrations.mp h
  exact hwritten.precision_le

/-- The routes of a compiled table are the registrations of the mapping. -/
theorem exists_mem_toRegistration {reg : Registration} :
    (∃ route ∈ ofUsableEntries entries, route.toRegistration = reg) ↔
      ∃ entry ∈ entries, reg.WrittenBy entry := by
  rw [← mem_registrations, ofUsableEntries, ofRegistrations_eq_sorted]
  constructor
  · rintro ⟨route, hroute, rfl⟩
    obtain ⟨reg, hreg, rfl⟩ := List.mem_map.mp ((perm_sorted _).mem_iff.mp hroute)
    exact hreg
  · intro hreg
    exact ⟨_, (perm_sorted _).mem_iff.mpr (List.mem_map_of_mem hreg), rfl⟩

/-! ## What a table finds -/

/-- Among the registrations of one table priorities are compared as ranks are. -/
theorem ofRegistration_priority_lt_iff {r s : Registration} (hr : r ∈ registrations entries)
    (hs : s ∈ registrations entries) :
    (Route.ofRegistration (Registration.width (registrations entries)) r).priority
        < (Route.ofRegistration (Registration.width (registrations entries)) s).priority ↔
      r.range.RanksBelow s.range :=
  VersionRange.packed_lt_packed_iff (Registration.fits_width hr (precision_le_of_mem hr))
    (Registration.fits_width hs (precision_le_of_mem hs))

theorem ofRegistration_priority_eq_iff {r s : Registration} (hr : r ∈ registrations entries)
    (hs : s ∈ registrations entries) :
    (Route.ofRegistration (Registration.width (registrations entries)) r).priority
        = (Route.ofRegistration (Registration.width (registrations entries)) s).priority ↔
      r.range.RanksWith s.range :=
  VersionRange.packed_eq_packed_iff (Registration.fits_width hr (precision_le_of_mem hr))
    (Registration.fits_width hs (precision_le_of_mem hs))

/-- **The first route of a table that passes a test is the best registration of the mapping that does.** -/
theorem isBest_of_find? (h : (ofUsableEntries entries).find? (fun r => test r.range) = some route) :
    Registration.IsBest entries test route.toRegistration := by
  obtain ⟨hpasses, before, after, hsplit, hbefore, hafter⟩ := find?_sorted h
  refine ⟨hpasses, ?_⟩
  -- the place in the row of registrations is a place in the mapping
  obtain ⟨regs, tail, hregs, hregsBefore, htail⟩ := List.map_eq_append_iff.mp hsplit
  obtain ⟨reg, regsAfter, rfl, rfl, hregsAfter⟩ := List.map_eq_cons_iff.mp htail
  obtain ⟨front, back, rfl, hfront, hback⟩ := List.filterMap_eq_append_iff.mp hregs
  obtain ⟨skipped, entry, behind, rfl, hskipped, hentry, hbehind⟩ :=
    List.filterMap_eq_cons_iff.mp hback
  have hwritten : reg.WrittenBy entry := Registration.toOption_ofEntry_eq_some.mp hentry
  have hmem : reg ∈ registrations (front ++ (skipped ++ entry :: behind)) :=
    mem_registrations.mpr ⟨entry, by simp, hwritten⟩
  refine ⟨front ++ skipped, entry, behind, by rw [List.append_assoc], hwritten, ?_, ?_⟩
  · intro e he other hother htest
    have hothers : other ∈ registrations (front ++ (skipped ++ entry :: behind)) :=
      mem_registrations.mpr ⟨e, by simp at he ⊢; tauto, hother⟩
    rcases List.mem_append.mp he with he | he
    · refine (ofRegistration_priority_lt_iff hothers hmem).mp (hbefore _ ?_ htest)
      rw [← hregsBefore, ← hfront]
      exact List.mem_map_of_mem (mem_registrations.mpr ⟨e, he, hother⟩)
    · have hnone := hskipped e he
      rw [Registration.toOption_ofEntry_eq_some.mpr hother] at hnone
      cases hnone
  · intro e he other hother htest
    have hothers : other ∈ registrations (front ++ (skipped ++ entry :: behind)) :=
      mem_registrations.mpr ⟨e, by simp at he ⊢; tauto, hother⟩
    have hle := hafter (Route.ofRegistration _ other) (by
      rw [← hregsAfter, ← hbehind]
      exact List.mem_map_of_mem (mem_registrations.mpr ⟨e, he, hother⟩)) htest
    rcases Nat.lt_or_eq_of_le hle with hlt | heq
    · exact .inl ((ofRegistration_priority_lt_iff hothers hmem).mp hlt)
    · exact .inr ((ofRegistration_priority_eq_iff hothers hmem).mp heq)

/-- The route that answers a version is one of the table that admits it. -/
theorem mem_and_admits_of_findMatch (h : table.findMatch client = some route) :
    route ∈ table ∧ route.range.admits client = true :=
  ⟨List.mem_of_find?_eq_some h, (List.find?_eq_some_iff_append.mp h).1⟩

/-- The route that answers a version is the best registration that admits it. -/
theorem isBest_of_findMatch (h : (ofUsableEntries entries).findMatch client = some route) :
    Registration.IsBest entries (·.admits client) route.toRegistration :=
  isBest_of_find? h

/-- A table finds no route for a version where no entry of the mapping admits it. -/
theorem findMatch_eq_none_iff : (ofUsableEntries entries).findMatch client = none ↔
    ∀ entry ∈ entries, ∀ reg : Registration, reg.WrittenBy entry →
      ¬ reg.range.admits client = true := by
  rw [findMatch, List.find?_eq_none]
  constructor
  · intro h entry hentry reg hreg
    obtain ⟨route, hroute, rfl⟩ := exists_mem_toRegistration.mpr ⟨entry, hentry, hreg⟩
    exact h route hroute
  · intro h route hroute
    obtain ⟨entry, hentry, hreg⟩ := exists_mem_toRegistration.mp ⟨route, hroute, rfl⟩
    exact h entry hentry _ hreg

/-! ## The latest route -/

/-- Of a route and those behind it, what is kept has the highest base version and is the first that has it. -/
theorem find?_of_foldl_later {first : Route} (h : table.foldl later (some first) = some route) :
    (∀ s ∈ first :: table, ¬ route.range.version < s.range.version) ∧
      (first :: table).find? (fun s => s.range.version.triple == route.range.version.triple)
        = some route := by
  induction table generalizing first with
  | nil =>
    obtain rfl := Option.some.inj h
    refine ⟨fun s hs => ?_, List.find?_cons_of_pos (beq_self_eq_true _)⟩
    rw [List.mem_singleton.mp hs]
    exact Version.tripleLt_irrefl _
  | cons t rest ih =>
    rw [List.foldl_cons, later] at h
    split at h
    · -- what is behind replaces the first route, which is lower and so is not met again
      rename_i hlt
      obtain ⟨hmax, hfind⟩ := ih h
      have ht : ¬ route.range.version < t.range.version := hmax t (List.mem_cons_self ..)
      have hfirst : ¬ route.range.version < first.range.version := fun hlt' =>
        ht (Version.tripleLt_trans hlt' hlt)
      have hne : (first.range.version.triple == route.range.version.triple) = false :=
        beq_eq_false_iff_ne.mpr fun heq => ht (show Version.tripleLt _ _ from heq ▸ hlt)
      refine ⟨List.forall_mem_cons.mpr ⟨hfirst, hmax⟩, ?_⟩
      rw [List.find?_cons, hne]
      exact hfind
    · rename_i hge
      obtain ⟨hmax, hfind⟩ := ih h
      obtain ⟨hfirst, hrest⟩ := List.forall_mem_cons.mp hmax
      have ht : ¬ route.range.version < t.range.version := Version.not_tripleLt_trans hge hfirst
      refine ⟨List.forall_mem_cons.mpr ⟨hfirst, List.forall_mem_cons.mpr ⟨ht, hrest⟩⟩, ?_⟩
      cases hpass : first.range.version.triple == route.range.version.triple with
      | true =>
        rw [List.find?_cons, hpass] at hfind ⊢
        exact hfind
      | false =>
        -- were the second route as high as the one kept, the first one would be so too, being no lower
        have hne : (t.range.version.triple == route.range.version.triple) = false := by
          refine beq_eq_false_iff_ne.mpr fun heq => beq_eq_false_iff_ne.mp hpass ?_
          have hge' : ¬ first.range.version < route.range.version := fun hlt =>
            hge (show Version.tripleLt _ _ from heq ▸ hlt)
          exact Version.eq_of_not_tripleLt hge' hfirst
        rw [List.find?_cons, hpass] at hfind ⊢
        rw [List.find?_cons, hne]
        exact hfind

/-- What is kept is never lost. -/
theorem exists_foldl_later (first : Route) (table : RouteTable) :
    ∃ route, table.foldl later (some first) = some route := by
  induction table generalizing first with
  | nil => exact ⟨first, rfl⟩
  | cons t rest ih =>
    rw [List.foldl_cons, later]
    split
    · exact ih t
    · exact ih first

/-- A table that has a route has a latest one. -/
theorem exists_findLatest (h : table ≠ []) : ∃ route, table.findLatest = some route := by
  cases table with
  | nil => exact absurd rfl h
  | cons first rest => exact exists_foldl_later first rest

/-- **The latest route is the best registration of the highest base version.** -/
theorem isLatest_of_findLatest (h : (ofUsableEntries entries).findLatest = some route) :
    Registration.IsLatest entries route.toRegistration := by
  cases htable : ofUsableEntries entries with
  | nil =>
    rw [htable] at h
    cases h
  | cons first rest =>
    rw [htable] at h
    obtain ⟨hmax, hfind⟩ := find?_of_foldl_later h
    rw [← htable] at hmax hfind
    refine ⟨isBest_of_find? hfind, fun entry hentry reg hreg => ?_⟩
    obtain ⟨s, hs, rfl⟩ := exists_mem_toRegistration.mpr ⟨entry, hentry, hreg⟩
    exact hmax s hs

end RouteTable

end SemverDispatch
