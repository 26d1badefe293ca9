import SemverDispatch.Proofs.BestRoute

/-!
# What a mapping compiles to

The whole table of a mapping all of whose entries are usable, in terms of the mapping alone: its routes are the
registrations of the entries, each exactly once, by falling rank, and those that rank alike stand in the order of
the mapping (`exists_compile_of_usable`). That one element stands before another is said by a row of the two
being part of the whole row, `[r, s].Sublist table`.

The order of a table is one of numbers (`falling_sorted`), which are only comparable within the table, as they
depend on its largest component. `rank_of_sublist` takes them for ranks, one pair of routes at a time.
-/

namespace SemverDispatch

namespace RouteTable

variable {entries : List (Value × Value)} {written : List Registration} {r s : Route}

/-! ## Reading the entries -/

/-- Reading succeeds where every entry registers a handler, and gives the registrations in their order. -/
theorem mapM_ofEntry_eq_ok_iff : entries.mapM Registration.ofEntry = .ok written ↔
    List.Forall₂ (fun entry reg => Registration.WrittenBy reg entry) entries written := by
  rw [Result.mapM_eq_ok_iff]
  simp only [Registration.ofEntry_eq_ok_iff]

/-- What usable entries register is what they register one by one. -/
theorem registrations_eq_of_written
    (h : List.Forall₂ (fun entry reg => Registration.WrittenBy reg entry) entries written) :
    registrations entries = written := by
  induction h with
  | nil => rfl
  | cons hentry _ ih => rw [registrations_cons hentry, ih]

/-- Every entry that is usable has a registration of its own. -/
theorem exists_written (h : ∀ entry ∈ entries, ∃ reg : Registration, reg.WrittenBy entry) :
    ∃ written, List.Forall₂ (fun entry reg => Registration.WrittenBy reg entry) entries written := by
  simp only [← Registration.ofEntry_eq_ok_iff] at h
  obtain ⟨written, hwritten⟩ := Result.exists_mapM_iff.mpr h
  exact ⟨written, mapM_ofEntry_eq_ok_iff.mp hwritten⟩

/-- Usable entries compile, strictly or not, to the table of their registrations. -/
theorem compile_eq_of_written (strict : Bool)
    (h : List.Forall₂ (fun entry reg => Registration.WrittenBy reg entry) entries written) :
    compile strict entries = .ok (ofRegistrations written) := by
  cases strict with
  | true => exact Result.map_eq_ok_iff.mpr ⟨written, mapM_ofEntry_eq_ok_iff.mpr h, rfl⟩
  | false => exact congrArg (fun rs => Except.ok (ofRegistrations rs)) (registrations_eq_of_written h)

/-- Usable entries compile, strictly or not, to the table of what they register. -/
theorem compile_of_usable (strict : Bool)
    (h : ∀ entry ∈ entries, ∃ reg : Registration, reg.WrittenBy entry) :
    compile strict entries = .ok (ofRegistrations (registrations entries)) := by
  obtain ⟨written, hwritten⟩ := exists_written h
  rw [registrations_eq_of_written hwritten]
  exact compile_eq_of_written strict hwritten

/-! ## The order of the table -/

/-- The routes of a table, without their priorities, are the registrations that it is made of. -/
theorem perm_toRegistration_ofRegistrations (written : List Registration) :
    ((ofRegistrations written).map Route.toRegistration).Perm written := by
  have hmap : (written.map (Route.ofRegistration (Registration.width written))).map
      Route.toRegistration = written := by
    rw [List.map_map]
    exact List.map_id written
  have hperm := (perm_sorted (written.map (Route.ofRegistration (Registration.width written)))).map
    Route.toRegistration
  rw [hmap] at hperm
  exact hperm

/-- **Of two routes of a table the first has the higher rank, or it has the same rank and was registered
first.** -/
theorem rank_of_sublist (hprecision : ∀ reg ∈ written, reg.range.precision ≤ 3)
    (h : [r, s].Sublist (ofRegistrations written)) :
    s.range.RanksBelow r.range ∨
      s.range.RanksWith r.range ∧ [r.toRegistration, s.toRegistration].Sublist written := by
  have hfits (t : Route) (ht : t ∈ [r, s]) : ∃ reg ∈ written,
      Route.ofRegistration (Registration.width written) reg = t ∧
        reg.range.Fits (Registration.width written) := by
    obtain ⟨reg, hreg, rfl⟩ := List.mem_map.mp ((perm_sorted _).mem_iff.mp (h.subset ht))
    exact ⟨reg, hreg, rfl, Registration.fits_width hreg (hprecision reg hreg)⟩
  obtain ⟨reg, -, hr, hfitsr⟩ := hfits r (by simp)
  obtain ⟨reg', -, hs, hfitss⟩ := hfits s (by simp)
  have hle : s.priority ≤ r.priority := List.pairwise_iff_forall_sublist.mp (falling_sorted _) h
  rcases Nat.lt_or_eq_of_le hle with hlt | heq
  · subst hr hs
    exact .inl ((VersionRange.packed_lt_packed_iff hfitss hfitsr).mp hlt)
  · -- the sort is stable, so the two were given in this order
    have hgiven := (sublist_of_priority_eq h heq.symm).map Route.toRegistration
    rw [List.map_map] at hgiven
    subst hr hs
    refine .inr ⟨(VersionRange.packed_eq_packed_iff hfitss hfitsr).mp heq, ?_⟩
    rwa [show Route.toRegistration ∘ Route.ofRegistration (Registration.width written) = id from rfl,
      List.map_id] at hgiven

/-- **A mapping whose entries are all usable compiles to their registrations, by falling rank.** Each entry has
exactly one route, with its key, its handler and the range that the key writes; of two routes the first has the
higher rank, or the same rank and an earlier place in the mapping. -/
theorem exists_compile_of_usable (strict : Bool)
    (h : ∀ entry ∈ entries, ∃ reg : Registration, reg.WrittenBy entry) :
    ∃ table written, compile strict entries = .ok table ∧
      List.Forall₂ (fun entry reg => Registration.WrittenBy reg entry) entries written ∧
      (table.map Route.toRegistration).Perm written ∧
      table.Pairwise fun r s => s.range.RanksBelow r.range ∨
        s.range.RanksWith r.range ∧ [r.toRegistration, s.toRegistration].Sublist written := by
  obtain ⟨written, hwritten⟩ := exists_written h
  have hprecision : ∀ reg ∈ written, reg.range.precision ≤ 3 := by
    rw [← registrations_eq_of_written hwritten]
    exact fun reg hreg => precision_le_of_mem hreg
  exact ⟨_, written, compile_eq_of_written strict hwritten, hwritten,
    perm_toRegistration_ofRegistrations written,
    List.pairwise_iff_forall_sublist.mpr (rank_of_sublist hprecision)⟩

/-- Six keys of all kinds, of very small and very large components. Two of them write the same range. -/
def mixedKeys : List (Value × Value) :=
  [(.text " ^0", .function 0), (.text "^0.0.0", .function 1),
    (.text "~9999999999999999", .function 2), (.text "1.0", .function 3),
    (.text "^0", .function 4), (.text "~1.1000", .function 5)]

/-- The kinds come one after another, each by falling version; of the two keys that write the same range the
one that stands first in the mapping comes first. -/
theorem exists_compile_mixedKeys : ∃ table, compile true mixedKeys = .ok table ∧
    table.keys = ["1.0", "~9999999999999999", "~1.1000", "^0.0.0", " ^0", "^0"] ∧
    table.Pairwise fun r s => s.range.RanksBelow r.range ∨ s.range.RanksWith r.range := by
  have hsome : ∀ entry ∈ mixedKeys, (Registration.ofEntry entry).toOption.isSome = true := by decide
  have husable : ∀ entry ∈ mixedKeys, ∃ reg : Registration, reg.WrittenBy entry := by
    intro entry hentry
    obtain ⟨reg, hreg⟩ := Option.isSome_iff_exists.mp (hsome entry hentry)
    exact ⟨reg, Registration.toOption_ofEntry_eq_some.mp hreg⟩
  obtain ⟨table, written, hcompile, -, -, hpairwise⟩ := exists_compile_of_usable true husable
  have hkeys : (compile true mixedKeys).map keys
      = .ok ["1.0", "~9999999999999999", "~1.1000", "^0.0.0", " ^0", "^0"] := rfl
  rw [hcompile] at hkeys
  exact ⟨table, hcompile, Except.ok.inj hkeys, hpairwise.imp fun h => h.imp_right And.left⟩

end RouteTable

end SemverDispatch
