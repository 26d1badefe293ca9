import SemverDispatch.Proofs.Canonical
import SemverDispatch.Proofs.Latest

/-!
# The latest version among texts

The latest version is sought in two ways. Among texts it is the running maximum of the base versions, from the first
text on, and what is found is a text again, without its mark. Among the routes of a table it is a running maximum too,
but from the highest priority on. Ties are broken in favour of what comes first, so the two may find different entries;
they find the same version (`VersionRange.latest?_agrees_findLatest`).

The running maximum keeps the first of the highest (`VersionRange.IsFirstHighest`). Two facts about a row with something
put in front are all that its induction needs: what is lower does not count (`cons_of_lt`), and neither does what stands
behind something that is at least as high (`insert`).
-/

namespace SemverDispatch

/-- The key of an entry that registers a handler writes its range. -/
theorem Registration.WrittenBy.ofValue?_eq {reg : Registration} {entry : Value × Value} (h : reg.WrittenBy entry) :
    VersionRange.ofValue? entry.1 = some reg.range := by
  rw [h.1]
  exact h.2.1

namespace VersionRange

variable {r s first : VersionRange} {rs : List VersionRange} {values : List Value} {t raw : Text}

/-! ## The first of the highest -/

/-- The first range of the highest base version in a row: those before it are lower, those behind it not higher. -/
def IsFirstHighest (rs : List VersionRange) (r : VersionRange) : Prop :=
  ∃ before after, rs = before ++ r :: after ∧ (∀ s ∈ before, s.version < r.version) ∧
    ∀ s ∈ after, s.version ≤ r.version

theorem version_le_of_lt (h : r.version < s.version) : r.version ≤ s.version := fun hlt =>
  Version.tripleLt_irrefl _ (Version.tripleLt_trans h hlt)

/-- No base version of the row is higher. -/
theorem IsFirstHighest.version_le (h : IsFirstHighest rs r) (hs : s ∈ rs) : s.version ≤ r.version := by
  obtain ⟨before, after, rfl, hbefore, hafter⟩ := h
  rcases List.mem_append.mp hs with hs | hs
  · exact version_le_of_lt (hbefore s hs)
  rcases List.mem_cons.mp hs with rfl | hs
  · exact Version.tripleLt_irrefl _
  · exact hafter s hs

/-- A lower range in front does not count. -/
theorem IsFirstHighest.cons_of_lt (h : IsFirstHighest rs r) (hs : s.version < r.version) :
    IsFirstHighest (s :: rs) r := by
  obtain ⟨before, after, rfl, hbefore, hafter⟩ := h
  exact ⟨s :: before, after, rfl, List.forall_mem_cons.mpr ⟨hs, hbefore⟩, hafter⟩

/-- A range behind one that is at least as high does not count. -/
theorem IsFirstHighest.insert (h : IsFirstHighest (first :: rs) r) (hs : s.version ≤ first.version) :
    IsFirstHighest (first :: s :: rs) r := by
  obtain ⟨before, after, hsplit, hbefore, hafter⟩ := h
  cases before with
  | nil =>
    obtain ⟨rfl, rfl⟩ := List.cons.inj hsplit
    exact ⟨[], s :: rs, rfl, List.forall_mem_nil _, List.forall_mem_cons.mpr ⟨hs, hafter⟩⟩
  | cons _ before =>
    obtain ⟨rfl, rfl⟩ := List.cons.inj hsplit
    obtain ⟨hfirst, hbefore⟩ := List.forall_mem_cons.mp hbefore
    -- what is not above the first range is below the one that is found, as the first range is
    have hlt : s.version < r.version := by
      by_contra hnot
      exact Version.not_tripleLt_trans hnot hs hfirst
    exact ⟨first :: s :: before, after, rfl,
      List.forall_mem_cons.mpr ⟨hfirst, List.forall_mem_cons.mpr ⟨hlt, hbefore⟩⟩, hafter⟩

/-- **The running maximum is the first of the highest.** -/
theorem exists_foldl_later (first : VersionRange) (rs : List VersionRange) :
    ∃ r, rs.foldl later (some first.version) = some r.version ∧ IsFirstHighest (first :: rs) r := by
  induction rs generalizing first with
  | nil => exact ⟨first, rfl, [], [], rfl, List.forall_mem_nil _, List.forall_mem_nil _⟩
  | cons s rest ih =>
    rw [List.foldl_cons, later]
    split
    · rename_i hlt
      obtain ⟨r, hr, hhighest⟩ := ih s
      refine ⟨r, hr, hhighest.cons_of_lt ?_⟩
      by_contra hnot
      have hle : s.version ≤ r.version := hhighest.version_le (List.mem_cons_self ..)
      exact Version.not_tripleLt_trans hle hnot hlt
    · rename_i hge
      obtain ⟨r, hr, hhighest⟩ := ih first
      exact ⟨r, hr, hhighest.insert hge⟩

/-! ## Among texts -/

/-- A text is the first of the highest base version among values that may be text and may write a range. -/
def IsFirstHighestText (values : List Value) (t : Text) (r : VersionRange) : Prop :=
  ∃ before after, values = before ++ .text t :: after ∧ parse? t = some r ∧
    (∀ v ∈ before, ∀ s, ofValue? v = some s → s.version < r.version) ∧
    ∀ v ∈ after, ∀ s, ofValue? v = some s → s.version ≤ r.version

theorem ofValue?_eq_some_iff {v : Value} : ofValue? v = some r ↔ ∃ t, v = .text t ∧ parse? t = some r := by
  simp only [ofValue?, Option.bind_eq_some_iff, Value.text?_eq_some_iff]

/-- The place in the row of ranges is a place in the row of values. -/
theorem IsFirstHighest.exists_text (h : IsFirstHighest (values.filterMap ofValue?) r) :
    ∃ t, IsFirstHighestText values t r := by
  obtain ⟨lower, others, hranges, hlower, hothers⟩ := h
  obtain ⟨front, back, rfl, hfront, hback⟩ := List.filterMap_eq_append_iff.mp hranges
  obtain ⟨skipped, v, after, rfl, hskipped, hv, hafter⟩ := List.filterMap_eq_cons_iff.mp hback
  obtain ⟨t, rfl, ht⟩ := ofValue?_eq_some_iff.mp hv
  refine ⟨t, front ++ skipped, after, (List.append_assoc ..).symm, ht, fun w hw s hs => ?_, fun w hw s hs => ?_⟩
  · rcases List.mem_append.mp hw with hw | hw
    · exact hlower s (hfront ▸ List.mem_filterMap.mpr ⟨w, hw, hs⟩)
    · exact absurd ((hskipped w hw).symm.trans hs) nofun
  · exact hothers s (hafter ▸ List.mem_filterMap.mpr ⟨w, hw, hs⟩)

theorem IsFirstHighestText.parse?_eq (h : IsFirstHighestText values t r) : parse? t = some r := by
  obtain ⟨-, -, -, ht, -⟩ := h
  exact ht

theorem IsFirstHighestText.mem (h : IsFirstHighestText values t r) : .text t ∈ values := by
  obtain ⟨before, after, rfl, -⟩ := h
  exact List.mem_append_right _ (List.mem_cons_self ..)

/-- No text writes a higher base version. -/
theorem IsFirstHighestText.version_le {v : Value} (h : IsFirstHighestText values t r) (hv : v ∈ values)
    (hs : ofValue? v = some s) : s.version ≤ r.version := by
  obtain ⟨before, after, rfl, ht, hbefore, hafter⟩ := h
  rcases List.mem_append.mp hv with hv | hv
  · exact version_le_of_lt (hbefore v hv s hs)
  rcases List.mem_cons.mp hv with rfl | hv
  · obtain rfl : s = r := Option.some.inj (hs.symm.trans ht)
    exact Version.tripleLt_irrefl _
  · exact hafter v hv s hs

/-- No latest version is found exactly if no value writes a range. -/
theorem latest?_eq_none_iff : latest? values = none ↔ ∀ v ∈ values, ofValue? v = none := by
  rw [latest?, Option.map_eq_none_iff, ← List.filterMap_eq_nil_iff]
  cases values.filterMap ofValue? with
  | nil => exact iff_of_true rfl rfl
  | cons first rest =>
    obtain ⟨r, hr, -⟩ := exists_foldl_later first rest
    refine iff_of_false (fun hnone => ?_) (List.cons_ne_nil _ _)
    exact absurd (hr.symm.trans hnone) nofun

/-- What follows the mark of a range text is the text of its version, and is read as this version. -/
theorem marked_of_parse? (h : parse? t = some r) : r.kind.Marked r.version.raw t.strip := by
  obtain ⟨kind, body, runs, hmarked, -, rfl⟩ := parse?_eq_some_iff.mp h
  exact hmarked

/-- **The latest version is that of the first text of the highest base version**, without the mark. -/
theorem exists_of_latest? (h : latest? values = some raw) :
    ∃ t r, IsFirstHighestText values t r ∧ r.kind.Marked raw t.strip ∧ Version.parse? raw = some r.version := by
  obtain ⟨v, hv, rfl⟩ := Option.map_eq_some_iff.mp h
  cases hranges : values.filterMap ofValue? with
  | nil =>
    rw [hranges] at hv
    cases hv
  | cons first rest =>
    obtain ⟨r, hr, hhighest⟩ := exists_foldl_later first rest
    rw [hranges] at hv
    obtain rfl : r.version = v := Option.some.inj (hr.symm.trans hv)
    obtain ⟨t, ht⟩ := IsFirstHighest.exists_text (hranges ▸ hhighest)
    exact ⟨t, r, ht, marked_of_parse? ht.parse?_eq, (parse?_text_of_parse? ht.parse?_eq).2.1⟩

/-! ## Among routes -/

/-- **The latest version among texts is that of the latest route.** Among texts none is found exactly if none writes a
range; otherwise it is what follows the mark of the first text of the highest base version, and it is read as this
version. For a mapping whose values can all be called, if it has a usable entry, the latest version among its keys and
the latest route of its table have the same three numbers. -/
theorem latest?_agrees_findLatest :
    (∀ values : List Value, (latest? values = none ↔ ∀ v ∈ values, ofValue? v = none) ∧
      ∀ raw, latest? values = some raw → ∃ t r, IsFirstHighestText values t r ∧
        r.kind.Marked raw t.strip ∧ Version.parse? raw = some r.version) ∧
    ∀ entries : List (Value × Value), (∀ entry ∈ entries, entry.2.callable?.isSome) →
      (∃ entry ∈ entries, ∃ reg : Registration, reg.WrittenBy entry) →
      ∃ raw v table route, latest? (entries.map Prod.fst) = some raw ∧ Version.parse? raw = some v ∧
        RouteTable.compile false entries = .ok table ∧ table.findLatest = some route ∧
        v.triple = route.range.version.triple := by
  refine ⟨fun values => ⟨latest?_eq_none_iff, fun raw => exists_of_latest?⟩, fun entries hcallable husable => ?_⟩
  obtain ⟨entry, hentry, reg, hreg⟩ := husable
  -- the table has a route, and some key writes a range
  obtain ⟨_, hmem, -⟩ := RouteTable.exists_mem_toRegistration.mpr ⟨entry, hentry, hreg⟩
  obtain ⟨route, hroute⟩ := RouteTable.exists_findLatest (List.ne_nil_of_mem hmem)
  have hlatest : Registration.IsLatest entries route.toRegistration := RouteTable.isLatest_of_findLatest hroute
  have hsome : latest? (entries.map Prod.fst) ≠ none := fun hnone => by
    have hkey := latest?_eq_none_iff.mp hnone entry.1 (List.mem_map_of_mem hentry)
    exact absurd (hkey.symm.trans hreg.ofValue?_eq) nofun
  obtain ⟨raw, hraw⟩ := Option.ne_none_iff_exists'.mp hsome
  obtain ⟨t, r, ht, -, hparse⟩ := exists_of_latest? hraw
  refine ⟨raw, r.version, _, route, hraw, hparse, rfl, hroute, Version.eq_of_not_tripleLt ?_ ?_⟩
  · obtain ⟨own, hown, hwritten⟩ := hlatest.exists_entry
    exact ht.version_le (List.mem_map_of_mem hown) hwritten.ofValue?_eq
  · -- the text is a key, and its value can be called, so it is registered
    obtain ⟨own, hown, hkey⟩ := List.mem_map.mp ht.mem
    obtain ⟨c, hc⟩ := Option.isSome_iff_exists.mp (hcallable own hown)
    have hwritten : Registration.WrittenBy ⟨t, r, c⟩ own := ⟨hkey, ht.parse?_eq, Value.callable?_eq_some_iff.mp hc⟩
    exact hlatest.highest own hown _ hwritten

/-- Four keys that write ranges, three of them of one version, and one that writes none. -/
def spelledKeys : List (Value × Value) :=
  [(.text "2.9", .function 0), (.text "v4", .function 1),
    (.text " ^3", .function 2), (.text "3.0.0", .function 3),
    (.text "~3.0", .function 4)]

/-- Among the keys the first of the three is found, and among the routes the exact one. -/
theorem latest?_agrees_findLatest_spelledKeys : ∃ v table route,
    latest? (spelledKeys.map Prod.fst) = some "3" ∧ Version.parse? "3" = some v ∧
    RouteTable.compile false spelledKeys = .ok table ∧ table.findLatest = some route ∧ route.key = "3.0.0" ∧
    v.triple = route.range.version.triple := by
  obtain ⟨-, hagrees⟩ := latest?_agrees_findLatest
  obtain ⟨raw, v, table, route, hraw, hv, htable, hroute, htriple⟩ :=
    hagrees spelledKeys (by decide) (by decide)
  obtain rfl : "3" = raw := by
    have hfound : latest? (spelledKeys.map Prod.fst) = some "3" := rfl
    exact Option.some.inj (hfound.symm.trans hraw)
  have hkeys : (RouteTable.compile false spelledKeys).map (fun table => table.findLatest.map fun route => route.key)
      = .ok (some "3.0.0") := rfl
  rw [htable] at hkeys
  have hkey : table.findLatest.map (fun route => route.key) = some "3.0.0" := Except.ok.inj hkeys
  rw [hroute] at hkey
  exact ⟨v, table, route, hraw, hv, htable, hroute, Option.some.inj hkey, htriple⟩

end VersionRange

end SemverDispatch
