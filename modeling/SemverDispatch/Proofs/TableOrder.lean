import SemverDispatch.Proofs.Rank
import SemverDispatch.Proofs.Result

/-!
# The order of a table

A table is made by inserting routes one after another, each behind all routes that have at least its
priority. The invariant of an insertion is that priorities fall along the table (`Falling`), and three
facts about whole tables follow from it:

* nothing is added or lost (`perm_sorted`);
* picking out routes by any test before sorting or after it makes no difference (`filter_sorted`), which for
  the test "has this priority" says that the sort is **stable** (`filter_priority_sorted`);
* hence the first route of a table that passes a test is the one of highest priority among all that pass it,
  and the earliest of these (`find?_sorted`);
* other priorities in the same order give the same table (`map_sorted`), and so do the same routes in another
  order, up to what routes of one priority differ in (`map_sorted_eq_of_perm`).
-/

namespace SemverDispatch

namespace RouteTable

/-- Priorities fall along a table, or stay the same. -/
def Falling (table : RouteTable) : Prop := table.Pairwise fun r s => s.priority ≤ r.priority

/-- Routes inserted one after another, the first one first. -/
def sorted (routes : List Route) : RouteTable := routes.foldl insert []

theorem ofRegistrations_eq_sorted (rs : List Registration) :
    ofRegistrations rs = sorted (rs.map (Route.ofRegistration (Registration.width rs))) := rfl

variable {table : RouteTable} {routes : List Route} {r s : Route}

/-! ## One insertion -/

theorem mem_insert : s ∈ insert table r ↔ s = r ∨ s ∈ table := by
  rw [(insert_perm table r).mem_iff, List.mem_cons]

/-- An insertion keeps priorities falling. -/
theorem Falling.insert (h : Falling table) (r : Route) : Falling (insert table r) := by
  induction table with
  | nil => exact List.pairwise_singleton _ _
  | cons s rest ih =>
    obtain ⟨hs, hrest⟩ := List.pairwise_cons.mp h
    rw [RouteTable.insert]
    split
    · -- the new route goes first: all others have at most the priority of `s`
      rename_i hlt
      refine List.pairwise_cons.mpr ⟨fun t ht => ?_, h⟩
      rcases List.mem_cons.mp ht with rfl | ht
      · exact Nat.le_of_lt hlt
      · exact Nat.le_trans (hs t ht) (Nat.le_of_lt hlt)
    · rename_i hge
      refine List.pairwise_cons.mpr ⟨fun t ht => ?_, ih hrest⟩
      rcases mem_insert.mp ht with rfl | ht
      · exact Nat.le_of_not_lt hge
      · exact hs t ht

/-- A route goes to the end of a table that has nothing of lower priority. -/
theorem insert_of_le (h : ∀ s ∈ table, r.priority ≤ s.priority) : insert table r = table ++ [r] := by
  induction table with
  | nil => rfl
  | cons s rest ih =>
    have hs : ¬ s.priority < r.priority := Nat.not_lt.mpr (h s (List.mem_cons_self ..))
    rw [insert, if_neg hs, ih fun t ht => h t (List.mem_cons_of_mem _ ht), List.cons_append]

/-- A route goes to the front of a table that has nothing of at least its priority. -/
theorem insert_of_lt (h : ∀ s ∈ table, s.priority < r.priority) : insert table r = r :: table := by
  cases table with
  | nil => rfl
  | cons s rest => rw [insert, if_pos (h s (List.mem_cons_self ..))]

/-- What a test picks out of a table after an insertion, if the new route passes it. -/
theorem filter_insert_of_pos (h : Falling table) {test : Route → Bool} (hr : test r = true) :
    (insert table r).filter test = insert (table.filter test) r := by
  induction table with
  | nil => simp [insert, hr]
  | cons s rest ih =>
    obtain ⟨hs, hrest⟩ := List.pairwise_cons.mp h
    by_cases hlt : s.priority < r.priority
    · -- the whole rest is lower still, so the new route comes first on both sides
      have hall : ∀ t ∈ (s :: rest).filter test, t.priority < r.priority := by
        intro t ht
        rcases List.mem_cons.mp (List.mem_filter.mp ht).1 with rfl | ht
        · exact hlt
        · exact Nat.lt_of_le_of_lt (hs t ht) hlt
      rw [insert, if_pos hlt, insert_of_lt hall, List.filter_cons_of_pos hr]
    · rw [insert, if_neg hlt]
      by_cases hts : test s = true
      · rw [List.filter_cons_of_pos hts, List.filter_cons_of_pos hts, ih hrest, insert, if_neg hlt]
      · rw [List.filter_cons_of_neg hts, List.filter_cons_of_neg hts, ih hrest]

/-- What a test picks out of a table after an insertion, if the new route does not pass it. -/
theorem filter_insert_of_neg {test : Route → Bool} (hr : ¬ test r = true) :
    (insert table r).filter test = table.filter test := by
  induction table with
  | nil => simp [insert, hr]
  | cons s rest ih =>
    rw [insert]
    split
    · rw [List.filter_cons_of_neg hr]
    · by_cases hts : test s = true
      · rw [List.filter_cons_of_pos hts, List.filter_cons_of_pos hts, ih]
      · rw [List.filter_cons_of_neg hts, List.filter_cons_of_neg hts, ih]

/-! ## Whole tables

The same facts for a row of insertions into a table, by induction on the row. -/

theorem Falling.foldl_insert (h : Falling table) (routes : List Route) :
    Falling (routes.foldl RouteTable.insert table) := by
  induction routes generalizing table with
  | nil => exact h
  | cons r rest ih => exact ih (h.insert r)

/-- The priorities of a sorted table fall. -/
theorem falling_sorted (routes : List Route) : Falling (sorted routes) :=
  Falling.foldl_insert List.Pairwise.nil routes

theorem perm_foldl_insert (table : RouteTable) (routes : List Route) :
    (routes.foldl insert table).Perm (table ++ routes) := by
  induction routes generalizing table with
  | nil => rw [List.append_nil]; exact .refl _
  | cons r rest ih =>
    refine (ih (insert table r)).trans ?_
    refine ((insert_perm table r).append_right rest).trans ?_
    rw [List.cons_append]
    exact List.perm_middle.symm

/-- A sorted table has exactly the routes that were put into it. -/
theorem perm_sorted (routes : List Route) : (sorted routes).Perm routes :=
  perm_foldl_insert [] routes

theorem filter_foldl_insert (h : Falling table) (test : Route → Bool) :
    (routes.foldl insert table).filter test
      = (routes.filter test).foldl insert (table.filter test) := by
  induction routes generalizing table with
  | nil => rfl
  | cons r rest ih =>
    rw [List.foldl_cons, ih (h.insert r)]
    by_cases hr : test r = true
    · rw [filter_insert_of_pos h hr, List.filter_cons_of_pos hr, List.foldl_cons]
    · rw [filter_insert_of_neg hr, List.filter_cons_of_neg hr]

/-- **Sorting and picking out routes commute.** -/
theorem filter_sorted (routes : List Route) (test : Route → Bool) :
    (sorted routes).filter test = sorted (routes.filter test) :=
  filter_foldl_insert List.Pairwise.nil test

/-- Routes of one priority stay in their order. -/
theorem foldl_insert_of_priority {n : Nat} (ht : ∀ s ∈ table, s.priority = n)
    (hr : ∀ s ∈ routes, s.priority = n) : routes.foldl insert table = table ++ routes := by
  induction routes generalizing table with
  | nil => simp
  | cons r rest ih =>
    have hrn : r.priority = n := hr r (List.mem_cons_self ..)
    have hle : ∀ s ∈ table, r.priority ≤ s.priority := fun s hs => by rw [hrn, ht s hs]
    have htr : ∀ s ∈ table ++ [r], s.priority = n := by
      intro s hs
      rcases List.mem_append.mp hs with hs | hs
      · exact ht s hs
      · rw [List.mem_singleton.mp hs, hrn]
    rw [List.foldl_cons, insert_of_le hle, ih htr fun s hs => hr s (List.mem_cons_of_mem _ hs),
      List.append_assoc, List.singleton_append]

/-- **The sort is stable**: the routes of one priority are in the order in which they were given. -/
theorem filter_priority_sorted (routes : List Route) (n : Nat) :
    (sorted routes).filter (·.priority = n) = routes.filter (·.priority = n) := by
  rw [filter_sorted]
  exact foldl_insert_of_priority (fun s hs => absurd hs List.not_mem_nil)
    fun s hs => by simpa using (List.mem_filter.mp hs).2

/-- Of two routes of one priority the one that stands first in a table was given first. -/
theorem sublist_of_priority_eq (h : [r, s].Sublist (sorted routes)) (heq : r.priority = s.priority) :
    [r, s].Sublist routes := by
  have hfilter : [r, s].filter (fun t => t.priority = s.priority) = [r, s] := by simp [heq]
  have hsub := h.filter fun t => t.priority = s.priority
  rw [hfilter, filter_priority_sorted] at hsub
  exact hsub.trans List.filter_sublist

/-- **The first route of a table that passes a test** is one of highest priority, and the earliest: those
given before it that pass have lower priority, those given behind it at most the same. -/
theorem find?_sorted {test : Route → Bool} (h : (sorted routes).find? test = some r) :
    test r = true ∧ ∃ before after, routes = before ++ r :: after ∧
      (∀ s ∈ before, test s = true → s.priority < r.priority) ∧
      ∀ s ∈ after, test s = true → s.priority ≤ r.priority := by
  have hr : test r = true := List.find?_some h
  -- the table of the routes that pass starts with `r`
  have hhead : (sorted (routes.filter test)).head? = some r := by
    rw [← filter_sorted, List.head?_filter, h]
  obtain ⟨rest, hsorted⟩ := List.head?_eq_some_iff.mp hhead
  have htop : ∀ s ∈ routes, test s = true → s.priority ≤ r.priority := by
    intro s hs hts
    have hmem : s ∈ sorted (routes.filter test) :=
      (perm_sorted _).mem_iff.mpr (List.mem_filter.mpr ⟨hs, hts⟩)
    have hfall := falling_sorted (routes.filter test)
    rw [hsorted] at hmem hfall
    rcases List.mem_cons.mp hmem with rfl | hmem
    · exact Nat.le_refl _
    · exact (List.pairwise_cons.mp hfall).1 s hmem
  -- by stability it is the first one of its priority that was given
  have hfirst : (routes.filter test).find? (·.priority = r.priority) = some r := by
    rw [← List.head?_filter, ← filter_priority_sorted, hsorted,
      List.filter_cons_of_pos (by simp), List.head?_cons]
  rw [List.find?_filter, List.find?_eq_some_iff_append] at hfirst
  obtain ⟨-, before, after, hsplit, hbefore⟩ := hfirst
  refine ⟨hr, before, after, hsplit, fun s hs hts => ?_, fun s hs hts => ?_⟩
  · have hle := htop s (by rw [hsplit]; exact List.mem_append_left _ hs) hts
    have hne : s.priority ≠ r.priority := by simpa [hts] using hbefore s hs
    omega
  · exact htop s (by rw [hsplit]; exact List.mem_append_right _ (List.mem_cons_of_mem _ hs)) hts

/-! ## Changing what is sorted -/

variable {change : Route → Route}

/-- A change of routes passes through an insertion, if it keeps what the insertion compares. -/
theorem map_insert
    (h : ∀ s ∈ table, s.priority < r.priority ↔ (change s).priority < (change r).priority) :
    (insert table r).map change = insert (table.map change) (change r) := by
  induction table with
  | nil => rfl
  | cons s rest ih =>
    obtain ⟨hs, hrest⟩ := List.forall_mem_cons.mp h
    rw [insert, List.map_cons, insert]
    by_cases hlt : s.priority < r.priority
    · rw [if_pos hlt, if_pos (hs.mp hlt), List.map_cons, List.map_cons]
    · rw [if_neg hlt, if_neg (mt hs.mpr hlt), List.map_cons, ih hrest]

theorem map_foldl_insert (h : ∀ s ∈ table ++ routes, ∀ r ∈ table ++ routes,
      s.priority < r.priority ↔ (change s).priority < (change r).priority) :
    (routes.foldl insert table).map change
      = (routes.map change).foldl insert (table.map change) := by
  induction routes generalizing table with
  | nil => rfl
  | cons r rest ih =>
    have hmem {s : Route} (hs : s ∈ insert table r ++ rest) : s ∈ table ++ r :: rest := by
      rw [List.mem_append, mem_insert] at hs
      simp only [List.mem_append, List.mem_cons]
      tauto
    have hr : r ∈ table ++ r :: rest := List.mem_append_right _ (List.mem_cons_self ..)
    rw [List.foldl_cons, ih fun s hs t ht => h s (hmem hs) t (hmem ht),
      map_insert fun s hs => h s (List.mem_append_left _ hs) r hr, List.map_cons, List.foldl_cons]

/-- **Sorting sees priorities only through their order**: a change of routes that keeps the order passes through
it. -/
theorem map_sorted (h : ∀ s ∈ routes, ∀ r ∈ routes,
      s.priority < r.priority ↔ (change s).priority < (change r).priority) :
    (sorted routes).map change = sorted (routes.map change) :=
  map_foldl_insert h

/-- **The order in which routes are given shows only among routes of one priority**: what these have in common
stands in the same order whenever the same routes are sorted. -/
theorem map_sorted_eq_of_perm {β : Type} {routes' : List Route} (view : Route → β)
    (h : routes.Perm routes')
    (hview : ∀ r ∈ routes, ∀ s ∈ routes, r.priority = s.priority → view r = view s) :
    (sorted routes).map view = (sorted routes').map view := by
  -- with the priority beside it, what is seen of a route is determined by the priority
  let seen (r : Route) : Nat × β := (r.priority, view r)
  have hfalling (routes : List Route) :
      ((sorted routes).map seen).Pairwise fun p q => q.1 ≤ p.1 :=
    List.pairwise_map.mpr (falling_sorted routes)
  have hperm : ((sorted routes).map seen).Perm ((sorted routes').map seen) :=
    ((perm_sorted routes).trans (h.trans (perm_sorted routes').symm)).map seen
  have hseen : (sorted routes).map seen = (sorted routes').map seen := by
    refine hperm.eq_of_pairwise (fun p q hp hq hqp hpq => ?_) (hfalling _) (hfalling _)
    obtain ⟨r, hr, rfl⟩ := List.mem_map.mp hp
    obtain ⟨s, hs, rfl⟩ := List.mem_map.mp hq
    have heq : r.priority = s.priority := Nat.le_antisymm hpq hqp
    have hr : r ∈ routes := (perm_sorted routes).mem_iff.mp hr
    have hs : s ∈ routes := h.mem_iff.mpr ((perm_sorted routes').mem_iff.mp hs)
    exact Prod.ext heq (hview r hr s hs heq)
  have hsnd := congrArg (List.map Prod.snd) hseen
  rwa [List.map_map, List.map_map] at hsnd

end RouteTable

end SemverDispatch
