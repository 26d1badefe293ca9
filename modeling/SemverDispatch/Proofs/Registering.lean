import Mathlib.Data.List.Pairwise
import Mathlib.Data.List.Perm.Basic
import SemverDispatch.Proofs.Compilation

/-!
# Changing what is registered

What becomes of a table when its mapping changes. The tables before and after need not share a single priority:
one large component widens the fields of every route. They share the order of ranks, since packing keeps it at
any width that all components fit (`map_toRegistration_sorted_eq`), and that is enough:

* leaving out registrations leaves out their routes and moves no other (`map_toRegistration_filter`), so a new
  entry takes over the versions that it admits, at most, and disturbs no other (`exists_compile_insert`);
* the same entries in another order give the same ranks in the same order, with the same priorities, and the same
  table unless two of them rank alike (`exists_compile_perm`).
-/

namespace SemverDispatch

/-! ## Ranks of ranges that are written -/

namespace Registration

variable {reg reg' : Registration} {entry entry' : Value × Value} {written written' : List Registration}

/-- Two registrations differ in nothing that counts for the order: kind, base version and precision. -/
def RanksLike (reg reg' : Registration) : Prop :=
  reg.range.kind = reg'.range.kind ∧ reg.range.version.triple = reg'.range.version.triple ∧
    reg.range.precision = reg'.range.precision

instance : Decidable (RanksLike reg reg') :=
  inferInstanceAs (Decidable (_ ∧ _ ∧ _))

theorem RanksLike.symm (h : RanksLike reg reg') : RanksLike reg' reg :=
  ⟨h.1.symm, h.2.1.symm, h.2.2.symm⟩

/-- Ranges of entries rank alike where they agree in kind, base version and precision. -/
theorem WrittenBy.ranksWith_iff (h : reg.WrittenBy entry) (h' : reg'.WrittenBy entry') :
    reg.range.RanksWith reg'.range ↔ RanksLike reg reg' := by
  have hband := RangeKind.band_inj (VersionRange.parse?_eq_some h.2.1).1
    (VersionRange.parse?_eq_some h'.2.1).1
  rw [VersionRange.RanksWith, RanksLike, hband]

/-- The width does not depend on the order of registration. -/
theorem width_eq_of_perm (h : written.Perm written') : width written = width written' := by
  rw [width, width, (h.map largest).foldr_eq 0]

end Registration

namespace RouteTable

variable {written : List Registration} {entries entries' before after : List (Value × Value)}
  {entry : Value × Value} {reg extra : Registration} {bits bits' : Nat} {table : RouteTable} {client : Version}

/-! ## One entry more -/

/-- **The order of a table does not depend on the width of its priorities**, as long as all components fit. -/
theorem map_toRegistration_sorted_eq (h : ∀ reg ∈ written, reg.range.Fits bits)
    (h' : ∀ reg ∈ written, reg.range.Fits bits') :
    (sorted (written.map (Route.ofRegistration bits))).map Route.toRegistration
      = (sorted (written.map (Route.ofRegistration bits'))).map Route.toRegistration := by
  let widen (r : Route) : Route := Route.ofRegistration bits' r.toRegistration
  have hwiden : (sorted (written.map (Route.ofRegistration bits))).map widen
      = sorted (written.map (Route.ofRegistration bits')) := by
    rw [map_sorted, List.map_map]
    · rfl
    · intro s hs r hr
      obtain ⟨reg, hreg, rfl⟩ := List.mem_map.mp hs
      obtain ⟨reg', hreg', rfl⟩ := List.mem_map.mp hr
      exact (VersionRange.packed_lt_packed_iff (h reg hreg) (h reg' hreg')).trans
        (VersionRange.packed_lt_packed_iff (h' reg hreg) (h' reg' hreg')).symm
  rw [← hwiden, List.map_map]
  rfl

/-- **Leaving out registrations leaves out their routes** and moves no other, though all priorities may
change. -/
theorem map_toRegistration_filter (test : Registration → Bool)
    (hprecision : ∀ reg ∈ written, reg.range.precision ≤ 3) :
    ((ofRegistrations written).filter fun r => test r.toRegistration).map Route.toRegistration
      = (ofRegistrations (written.filter test)).map Route.toRegistration := by
  rw [ofRegistrations_eq_sorted, ofRegistrations_eq_sorted, filter_sorted, List.filter_map]
  refine map_toRegistration_sorted_eq (fun reg hreg => ?_) fun reg hreg => ?_
  · have hreg := (List.mem_filter.mp hreg).1
    exact Registration.fits_width hreg (hprecision reg hreg)
  · exact Registration.fits_width hreg (hprecision reg (List.mem_filter.mp hreg).1)

/-- The route that is found, without its priority, is found among the registrations in their order. -/
theorem map_findMatch (table : RouteTable) (client : Version) :
    (table.findMatch client).map Route.toRegistration
      = (table.map Route.toRegistration).find? (·.range.admits client) := by
  rw [findMatch, List.find?_map]
  rfl

/-- A search that ends with something that is kept ends with it as well if all else is left out. -/
theorem find?_filter_of_find? {α : Type} {as : List α} {a : α} {test keep : α → Bool}
    (h : as.find? test = some a) (ha : keep a = true) : (as.filter keep).find? test = some a := by
  obtain ⟨hpass, front, behind, rfl, hfront⟩ := List.find?_eq_some_iff_append.mp h
  rw [List.filter_append, List.filter_cons_of_pos ha]
  refine List.find?_eq_some_iff_append.mpr ⟨hpass, _, _, rfl, fun b hb => ?_⟩
  exact hfront b (List.mem_filter.mp hb).1

/-- Of registrations under other keys and one under its own, the key picks out the one. -/
theorem filter_key_eq {front behind : List Registration}
    (h : ∀ reg ∈ front ++ behind, reg.key ≠ extra.key) :
    (front ++ extra :: behind).filter (·.key = extra.key) = [extra] := by
  obtain ⟨hfront, hbehind⟩ := List.forall_mem_append.mp h
  rw [List.filter_append, List.filter_cons_of_pos (by simp), List.filter_eq_nil_iff.mpr (by simpa),
    List.filter_eq_nil_iff.mpr (by simpa), List.nil_append]

/-- The others are those that the key leaves out. -/
theorem filter_key_ne {front behind : List Registration}
    (h : ∀ reg ∈ front ++ behind, reg.key ≠ extra.key) :
    (front ++ extra :: behind).filter (·.key ≠ extra.key) = front ++ behind := by
  obtain ⟨hfront, hbehind⟩ := List.forall_mem_append.mp h
  rw [List.filter_append, List.filter_cons_of_neg (by simp), List.filter_eq_self.mpr (by simpa),
    List.filter_eq_self.mpr (by simpa)]

/-- What is found in a table is found in what is left of it, or else it is what was left out. -/
theorem findMatch_of_filter {old new : RouteTable} {keep : Route → Bool}
    (h : (new.filter keep).map Route.toRegistration = old.map Route.toRegistration) (client : Version) :
    (∃ route, new.findMatch client = some route ∧ keep route = false) ∨
      (new.findMatch client).map Route.toRegistration
        = (old.findMatch client).map Route.toRegistration := by
  rw [map_findMatch old, ← h, ← map_findMatch]
  cases hfind : new.findMatch client with
  | none =>
    rw [findMatch, List.find?_eq_none] at hfind
    have hnone : findMatch (new.filter keep) client = none :=
      List.find?_eq_none.mpr fun r hr => hfind r (List.mem_filter.mp hr).1
    exact .inr (by rw [hnone])
  | some route =>
    cases hkeep : keep route with
    | false => exact .inl ⟨route, rfl, hkeep⟩
    | true =>
      have hsome : findMatch (new.filter keep) client = some route := find?_filter_of_find? hfind hkeep
      exact .inr (by rw [hsome])

/-- **A new entry disturbs no other.** Wherever it is put into a mapping of usable entries, and however large its
components are, the table gets one route for it, and the others keep their keys, ranges and handlers in their
order. So a version is answered by the new route, if this admits it, or as it was before. -/
theorem exists_compile_insert (strict : Bool)
    (h : ∀ other ∈ before ++ after, ∃ reg : Registration, reg.WrittenBy other)
    (hextra : extra.WrittenBy entry) (hnew : ∀ other ∈ before ++ after, other.1 ≠ entry.1) :
    ∃ old new, compile strict (before ++ after) = .ok old ∧
      compile strict (before ++ entry :: after) = .ok new ∧
      (new.filter (·.key = extra.key)).map Route.toRegistration = [extra] ∧
      (new.filter (·.key ≠ extra.key)).map Route.toRegistration = old.map Route.toRegistration ∧
      ∀ client, (∃ route, new.findMatch client = some route ∧ route.toRegistration = extra ∧
          extra.range.admits client = true) ∨
        (new.findMatch client).map Route.toRegistration
          = (old.findMatch client).map Route.toRegistration := by
  have husable : ∀ other ∈ before ++ entry :: after, ∃ reg : Registration, reg.WrittenBy other := by
    intro other hother
    rcases List.mem_cons.mp (List.perm_middle.mem_iff.mp hother) with rfl | hother
    · exact ⟨extra, hextra⟩
    · exact h other hother
  have hkeys : ∀ reg ∈ registrations before ++ registrations after, reg.key ≠ extra.key := by
    intro reg hreg hkey
    rw [← registrations_append] at hreg
    obtain ⟨other, hother, hwritten⟩ := mem_registrations.mp hreg
    refine hnew other hother ?_
    rw [hwritten.1, hextra.1, hkey]
  have hsplit : registrations (before ++ entry :: after)
      = registrations before ++ extra :: registrations after := by
    rw [registrations_append, registrations_cons hextra]
  have hprecision : ∀ reg ∈ registrations before ++ extra :: registrations after,
      reg.range.precision ≤ 3 := by
    rw [← hsplit]
    exact fun reg hreg => precision_le_of_mem hreg
  have hthis := map_toRegistration_filter (fun reg => reg.key = extra.key) hprecision
  have hothers := map_toRegistration_filter (fun reg => reg.key ≠ extra.key) hprecision
  rw [filter_key_eq hkeys] at hthis
  rw [filter_key_ne hkeys] at hothers
  refine ⟨_, _, compile_of_usable strict h, compile_of_usable strict husable, ?_⟩
  rw [hsplit, registrations_append]
  refine ⟨hthis, hothers, fun client => ?_⟩
  rcases findMatch_of_filter hothers client with ⟨route, hroute, hkey⟩ | hsame
  · -- what was left out is the route of the new entry
    obtain ⟨hmem, hadmits⟩ := mem_and_admits_of_findMatch hroute
    have hone : route.toRegistration ∈ [extra] := by
      rw [← show (ofRegistrations [extra]).map Route.toRegistration = [extra] from rfl, ← hthis]
      exact List.mem_map_of_mem (List.mem_filter.mpr ⟨hmem, by simpa using hkey⟩)
    obtain rfl := List.mem_singleton.mp hone
    exact .inl ⟨route, hroute, rfl, hadmits⟩
  · exact .inr hsame

/-- A key of sixteen digits, with its handler. -/
def hugeKey : Registration :=
  ⟨"^9999999999999999", ⟨.caret, ⟨9999999999999999, 0, 0, "9999999999999999"⟩, "^9999999999999999", 1⟩,
    .function 2⟩

/-- Between two small keys it changes all priorities, and nothing else. -/
theorem exists_compile_insert_hugeKey : ∃ old new,
    compile true [(.text "~1.0.1", .function 0), (.text "~1.0.2", .function 1)]
      = .ok old ∧
    compile true [(.text "~1.0.1", .function 0),
      (.text hugeKey.key, .function 2), (.text "~1.0.2", .function 1)]
      = .ok new ∧
    old.map Route.priority ≠ (new.filter (·.key ≠ hugeKey.key)).map Route.priority ∧
    (new.filter (·.key ≠ hugeKey.key)).map Route.toRegistration = old.map Route.toRegistration := by
  have hextra : hugeKey.WrittenBy (.text hugeKey.key, .function 2) :=
    ⟨rfl, by decide, rfl⟩
  have hkeys : ∀ other ∈ [(Value.text "~1.0.1", Value.function 0)] ++
      [(Value.text "~1.0.2", Value.function 1)], other.1 ≠ .text hugeKey.key := by
    intro other hother
    simp only [List.mem_append, List.mem_singleton] at hother
    rcases hother with rfl | rfl <;> exact fun h => absurd (Value.text.inj h) (by decide)
  obtain ⟨old, new, hold, hnew, -, hothers, -⟩ := exists_compile_insert true (by decide) hextra hkeys
  refine ⟨old, new, hold, hnew, ?_, hothers⟩
  -- two bits make room for the small keys, and it takes fifty-four for the huge one
  have hsmall : (compile true [(.text "~1.0.1", .function 0),
      (.text "~1.0.2", .function 1)]).map (List.map Route.priority) = .ok [587, 583] := rfl
  have hlarge : (compile true [(.text "~1.0.1", .function 0),
      (.text hugeKey.key, .function 2), (.text "~1.0.2", .function 1)]).map
      (fun new => (new.filter (·.key ≠ hugeKey.key)).map Route.priority)
      = .ok [46768052394588894680592129280627963761613923680267,
        46768052394588894680592129280627963761613923680263] := rfl
  rw [List.singleton_append] at hold hnew
  rw [hold] at hsmall
  rw [hnew] at hlarge
  have hlarge := Except.ok.inj hlarge
  dsimp only at hlarge
  rw [Except.ok.inj hsmall, hlarge]
  decide

/-! ## Another order -/

/-- What a route shows of its rank: kind, base version, precision, and the number that stands for all three. -/
def rankOf (r : Route) : RangeKind × (Nat × Nat × Nat) × Nat × Nat :=
  (r.range.kind, r.range.version.triple, r.range.precision, r.priority)

/-- Routes of a table that have one priority show the same rank. -/
theorem ranksLike_of_priority_eq {reg reg' : Registration} (h : reg ∈ registrations entries)
    (h' : reg' ∈ registrations entries)
    (heq : reg.range.packed (Registration.width (registrations entries))
      = reg'.range.packed (Registration.width (registrations entries))) : reg.RanksLike reg' := by
  obtain ⟨_, -, hwritten⟩ := mem_registrations.mp h
  obtain ⟨_, -, hwritten'⟩ := mem_registrations.mp h'
  exact (hwritten.ranksWith_iff hwritten').mp ((ofRegistration_priority_eq_iff h h').mp heq)

/-- No two entries of a mapping register ranges of one kind, base version and precision. -/
def DistinctRanks (entries : List (Value × Value)) : Prop :=
  entries.Pairwise fun entry entry' => ∀ reg reg' : Registration, reg.WrittenBy entry →
    reg'.WrittenBy entry' → ¬ reg.RanksLike reg'

/-- What is registered decides whether ranks are distinct. -/
theorem distinctRanks_iff : DistinctRanks entries ↔
    (registrations entries).Pairwise fun reg reg' => ¬ reg.RanksLike reg' := by
  simp only [DistinctRanks, registrations, List.pairwise_filterMap,
    Registration.toOption_ofEntry_eq_some]
  exact ⟨fun h => h.imp fun hnot reg hreg reg' hreg' => hnot reg reg' hreg hreg',
    fun h => h.imp fun hnot reg reg' hreg hreg' => hnot reg hreg reg' hreg'⟩

instance : Decidable (DistinctRanks entries) := decidable_of_iff _ distinctRanks_iff.symm

/-- Where ranks are distinct a registration is determined by what counts for the order. -/
theorem DistinctRanks.eq_of_ranksLike {reg reg' : Registration} (h : DistinctRanks entries)
    (hreg : reg ∈ registrations entries) (hreg' : reg' ∈ registrations entries)
    (hlike : reg.RanksLike reg') : reg = reg' := by
  have : Std.Symm fun reg reg' : Registration => ¬ reg.RanksLike reg' :=
    ⟨fun _ _ hnot hlike => hnot hlike.symm⟩
  by_contra hne
  exact (distinctRanks_iff.mp h).forall hreg hreg' hne hlike

/-- **The order of registration shows only among entries that rank alike.** The same entries in another order
compile to routes of the same ranks and priorities in the same order. If no two of them agree in kind, base version
and precision, it is the same table, so that whatever is looked for in it is the same as well. -/
theorem exists_compile_perm (strict : Bool)
    (h : ∀ entry ∈ entries, ∃ reg : Registration, reg.WrittenBy entry) (hperm : entries.Perm entries') :
    ∃ table table', compile strict entries = .ok table ∧ compile strict entries' = .ok table' ∧
      table.map rankOf = table'.map rankOf ∧ (DistinctRanks entries → table = table') := by
  have hregs : (registrations entries).Perm (registrations entries') := hperm.filterMap _
  refine ⟨_, _, compile_of_usable strict h,
    compile_of_usable strict fun entry hentry => h entry (hperm.mem_iff.mpr hentry), ?_⟩
  have hroutes := hregs.map (Route.ofRegistration (Registration.width (registrations entries)))
  rw [ofRegistrations_eq_sorted, ofRegistrations_eq_sorted, ← Registration.width_eq_of_perm hregs]
  refine ⟨map_sorted_eq_of_perm rankOf hroutes fun r hr s hs heq => ?_, fun hdistinct => ?_⟩
  · obtain ⟨reg, hreg, rfl⟩ := List.mem_map.mp hr
    obtain ⟨reg', hreg', rfl⟩ := List.mem_map.mp hs
    obtain ⟨hkind, htriple, hprecision⟩ := ranksLike_of_priority_eq hreg hreg' heq
    simp only [rankOf, Route.ofRegistration, hkind, htriple, hprecision, Prod.mk.injEq, true_and]
    exact heq
  · have hid := map_sorted_eq_of_perm id hroutes fun r hr s hs heq => ?_
    · rwa [List.map_id, List.map_id] at hid
    obtain ⟨reg, hreg, rfl⟩ := List.mem_map.mp hr
    obtain ⟨reg', hreg', rfl⟩ := List.mem_map.mp hs
    rw [hdistinct.eq_of_ranksLike hreg hreg' (ranksLike_of_priority_eq hreg hreg' heq)]

/-- Three keys of one base version, which differ in kind or in what they spell out. -/
def zeroKeys : List (Value × Value) :=
  [(.text "^0", .function 0), (.text "~0", .function 1),
    (.text "^0.0.0", .function 2)]

/-- They have one table, in whatever order they are registered. -/
theorem exists_compile_perm_zeroKeys : DistinctRanks zeroKeys ∧
    ∃ table, compile true zeroKeys = .ok table ∧ compile true zeroKeys.reverse = .ok table ∧
      table.keys = ["~0", "^0.0.0", "^0"] := by
  have hdistinct : DistinctRanks zeroKeys := by decide
  obtain ⟨table, table', htable, htable', -, hsame⟩ :=
    exists_compile_perm true (by decide) (List.reverse_perm zeroKeys).symm
  have hkeys : (compile true zeroKeys).map keys = .ok ["~0", "^0.0.0", "^0"] := rfl
  rw [htable] at hkeys
  exact ⟨hdistinct, table, htable, hsame hdistinct ▸ htable', Except.ok.inj hkeys⟩

-- Two spellings of one range are tried in the order of registration.
example : ¬ DistinctRanks [(.text "^1.0", .function 0),
    (.text " ^01.0 ", .function 1)] := by decide

end RouteTable

end SemverDispatch
