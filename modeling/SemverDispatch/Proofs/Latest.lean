import SemverDispatch.Proofs.Compilation
import SemverDispatch.Proofs.Verdict

/-!
# The latest route

A table is ordered by kind first, and the latest route is sought in it by base version. The result has a meaning of its
own, in which neither order of the search occurs: ranges are compared by base version, then by kind, then by how many
numbers are written (`VersionRange.IsOlder`), and the latest route is the newest registration in this order, the first
of the mapping if there are several (`Registration.isNewest_iff_isLatest`).

The main result, `exists_findLatest_isNewest`, adds what this means for a router: whatever falls back to the latest
route is answered by the handler of one registration, which the mapping alone determines.
-/

namespace SemverDispatch

/-! ## The newest registration -/

namespace VersionRange

variable {r s : VersionRange}

/-- One range is older than another: by base version, then by kind, then by how many numbers are written. -/
def IsOlder (r s : VersionRange) : Prop :=
  r.version < s.version ∨ (r.version.triple = s.version.triple ∧
    (r.kind.band < s.kind.band ∨ (r.kind.band = s.kind.band ∧ r.precision < s.precision)))

theorem version_lt_iff : r.version < s.version ↔ Version.tripleLt r.version.triple s.version.triple := Iff.rfl

/-- Among ranges of one base version the older one ranks below. -/
theorem isOlder_iff_ranksBelow (h : r.version.triple = s.version.triple) : IsOlder r s ↔ RanksBelow r s := by
  have hirrefl : ¬ Version.tripleLt s.version.triple s.version.triple := Version.tripleLt_irrefl _
  simp only [IsOlder, RanksBelow, version_lt_iff, h, true_and]
  tauto

/-- A range of a lower base version is older, and a range of a higher one is not. -/
theorem not_version_lt_of_isOlder (h : IsOlder r s ∨ RanksWith r s) : ¬ s.version < r.version := by
  intro hlt
  rcases h with (hlt' | ⟨heq, -⟩) | ⟨-, heq, -⟩
  · exact Version.tripleLt_irrefl _ (Version.tripleLt_trans hlt hlt')
  · exact Version.tripleLt_irrefl _ (heq ▸ version_lt_iff.mp hlt)
  · exact Version.tripleLt_irrefl _ (heq ▸ version_lt_iff.mp hlt)

end VersionRange

namespace Registration

variable {entries : List (Value × Value)} {newest latest other reg : Registration}

/-- The newest registration of a mapping: all that stand before it are older, and those behind it are not newer. -/
def IsNewest (entries : List (Value × Value)) (newest : Registration) : Prop :=
  ∃ before entry after, entries = before ++ entry :: after ∧ newest.WrittenBy entry ∧
    (∀ e ∈ before, ∀ reg : Registration, reg.WrittenBy e → reg.range.IsOlder newest.range) ∧
    ∀ e ∈ after, ∀ reg : Registration, reg.WrittenBy e →
      reg.range.IsOlder newest.range ∨ reg.range.RanksWith newest.range

/-- What has no higher base version is older, or it has the same base version. -/
theorem isOlder_or_triple_eq (h : ¬ latest.range.version < reg.range.version) :
    reg.range.IsOlder latest.range ∨ reg.range.version.triple = latest.range.version.triple := by
  by_cases hlt : reg.range.version < latest.range.version
  · exact .inl (.inl hlt)
  · exact .inr (Version.eq_of_not_tripleLt hlt h)

theorem IsLatest.isNewest (h : IsLatest entries latest) : IsNewest entries latest := by
  obtain ⟨⟨-, before, entry, after, rfl, hwritten, hbefore, hafter⟩, hhighest⟩ := h
  refine ⟨before, entry, after, rfl, hwritten, ?_, ?_⟩
  · intro e he reg hreg
    rcases isOlder_or_triple_eq (hhighest e (List.mem_append_left _ he) reg hreg) with hold | heq
    · exact hold
    · exact (VersionRange.isOlder_iff_ranksBelow heq).mpr (hbefore e he reg hreg (beq_iff_eq.mpr heq))
  · intro e he reg hreg
    have hmem : e ∈ before ++ entry :: after := List.mem_append_right _ (List.mem_cons_of_mem _ he)
    rcases isOlder_or_triple_eq (hhighest e hmem reg hreg) with hold | heq
    · exact .inl hold
    · exact (hafter e he reg hreg (beq_iff_eq.mpr heq)).imp_left (VersionRange.isOlder_iff_ranksBelow heq).mpr

theorem IsNewest.isLatest (h : IsNewest entries newest) : IsLatest entries newest := by
  obtain ⟨before, entry, after, rfl, hwritten, hbefore, hafter⟩ := h
  refine ⟨⟨beq_self_eq_true _, before, entry, after, rfl, hwritten, ?_, ?_⟩, ?_⟩
  · intro e he reg hreg htriple
    exact (VersionRange.isOlder_iff_ranksBelow (beq_iff_eq.mp htriple)).mp (hbefore e he reg hreg)
  · intro e he reg hreg htriple
    exact (hafter e he reg hreg).imp_left (VersionRange.isOlder_iff_ranksBelow (beq_iff_eq.mp htriple)).mp
  · intro e he reg hreg
    rcases List.mem_append.mp he with he | he
    · exact VersionRange.not_version_lt_of_isOlder (.inl (hbefore e he reg hreg))
    rcases List.mem_cons.mp he with rfl | he
    · rw [hreg.unique hwritten]
      exact Version.tripleLt_irrefl _
    · exact VersionRange.not_version_lt_of_isOlder (hafter e he reg hreg)

/-- **The latest registration is the newest one.** -/
theorem isNewest_iff_isLatest : IsNewest entries newest ↔ IsLatest entries newest :=
  ⟨IsNewest.isLatest, IsLatest.isNewest⟩

theorem IsLatest.exists_entry (h : IsLatest entries latest) : ∃ entry ∈ entries, latest.WrittenBy entry := by
  obtain ⟨before, entry, after, rfl, hwritten, -⟩ := h.isBest.ahead
  exact ⟨entry, List.mem_append_right _ (List.mem_cons_self ..), hwritten⟩

/-- There is one latest registration at most. -/
theorem IsLatest.unique (h : IsLatest entries latest) (h' : IsLatest entries other) : other = latest := by
  obtain ⟨entry, hentry, hwritten⟩ := h.exists_entry
  obtain ⟨entry', hentry', hwritten'⟩ := h'.exists_entry
  have htriple : other.range.version.triple = latest.range.version.triple :=
    Version.eq_of_not_tripleLt (h'.highest entry hentry latest hwritten)
      (h.highest entry' hentry' other hwritten')
  have hbest := h'.isBest
  rw [htriple] at hbest
  exact h.isBest.unique hbest

end Registration

/-! ## Falling back to it -/

namespace Router

variable {r : Router} {host : Host} {request : Request} {entries : List (Value × Value)} {options : Value}
  {found : Option Extracted} {latest : Registration}

/-- A request that no route answers falls back. -/
theorem dispatch_of_unmatched (hr : build (.dict entries) options = .ok r)
    (hfound : ((Extractor.ofPolicy r.policy).extract host request).result = .ok found)
    (hun : Unmatched entries r.policy found) :
    r.dispatch host request =
      ⟨((Extractor.ofPolicy r.policy).extract host request).trace ++ (r.fallBack host request found).trace,
        (r.fallBack host request found).result⟩ := by
  rcases hun with ⟨rfl, hrequire⟩ | ⟨x, client, rfl, hclient, hnot⟩
  · rw [dispatch_of_extract_none hfound, hrequire]
    rfl
  · have hnone : r.routes.findMatch client = none := by
      rw [routes_of_build hr]
      exact RouteTable.findMatch_eq_none_iff.mpr hnot
    rw [dispatch_of_extract_some hfound, answerVersion_of_findMatch_none hclient hnone]

/-- A policy that falls back to the latest route: it says so, or there is no default handler to fall back to. -/
def FallsBackToLatest (policy : Policy) : Prop :=
  policy.fallback = .latest ∨ (policy.fallback = .default ∧ policy.defaultHandler = none)

/-- What falls back to the latest route is answered by the handler of the latest registration. -/
theorem fallbackHandler?_of_latest (hr : build (.dict entries) options = .ok r)
    (hfallback : FallsBackToLatest r.policy) (hlatest : Registration.IsLatest entries latest) :
    r.fallbackHandler? = some (latest.key, latest.handler) := by
  obtain ⟨route, hroute⟩ := RouteTable.exists_findLatest r.routes_ne_nil
  have hfound : Registration.IsLatest entries route.toRegistration :=
    RouteTable.isLatest_of_findLatest (routes_of_build hr ▸ hroute)
  obtain rfl := hlatest.unique hfound
  rcases hfallback with h | ⟨h, hnone⟩
  · simp only [fallbackHandler?, h, hroute, Option.map_some]
  · simp only [fallbackHandler?, h, hnone, hroute, Option.map_some]

end Router

namespace RouteTable

variable {entries : List (Value × Value)}

/-- A mapping with entries that are all usable has routes. -/
theorem ofRegistrations_ne_nil (h : ∀ entry ∈ entries, ∃ reg : Registration, reg.WrittenBy entry)
    (hne : entries ≠ []) : ofRegistrations (registrations entries) ≠ [] := by
  intro hnil
  obtain ⟨entry, rest, rfl⟩ := List.exists_cons_of_ne_nil hne
  obtain ⟨reg, hreg⟩ := h entry (List.mem_cons_self ..)
  have hperm := perm_toRegistration_ofRegistrations (registrations (entry :: rest))
  rw [hnil, registrations_cons hreg] at hperm
  exact List.cons_ne_nil _ _ hperm.nil_eq.symm

/-- **The latest route of a mapping is its newest registration**, in the order of base version, kind, precision and
place in the mapping, and no base version of the mapping is higher. Every router that is made of the mapping and
falls back to the latest route runs its handler, for any request that no route answers, and nothing else behind
extraction. -/
theorem exists_findLatest_isNewest (strict : Bool)
    (h : ∀ entry ∈ entries, ∃ reg : Registration, reg.WrittenBy entry) (hne : entries ≠ []) :
    ∃ table route, compile strict entries = .ok table ∧ table.findLatest = some route ∧
      Registration.IsNewest entries route.toRegistration ∧
      (∀ other, Registration.IsNewest entries other → other = route.toRegistration) ∧
      (∀ entry ∈ entries, ∀ reg : Registration, reg.WrittenBy entry → reg.range.version ≤ route.range.version) ∧
      ∀ (options : Value) (r : Router), Router.build (.dict entries) options = .ok r →
        Router.FallsBackToLatest r.policy → ∀ (host : Host) (request : Request) (found : Option Extracted),
          ((Extractor.ofPolicy r.policy).extract host request).result = .ok found →
          Unmatched entries r.policy found →
            r.dispatch host request =
              ⟨((Extractor.ofPolicy r.policy).extract host request).trace ++
                  .logged (r.fallbackLine (found.map (·.version))) ::
                    host.steps route.handler [.request (r.prepare route.key found request)],
                host.answer route.handler [.request (r.prepare route.key found request)]⟩ := by
  obtain ⟨route, hroute⟩ := exists_findLatest (ofRegistrations_ne_nil h hne)
  have hlatest : Registration.IsLatest entries route.toRegistration := isLatest_of_findLatest hroute
  refine ⟨_, route, compile_of_usable strict h, hroute, hlatest.isNewest, fun other hother => ?_,
    hlatest.highest, fun options r hr hfallback host request found hfound hun => ?_⟩
  · exact hlatest.unique hother.isLatest
  · have hhandler := Router.fallbackHandler?_of_latest hr hfallback hlatest
    rw [Router.dispatch_of_unmatched hr hfound hun, Router.fallBack_of_some hhandler]

/-- Five keys. The last three have the highest base version, and two of them write the same range. -/
def tiedKeys : List (Value × Value) :=
  [(.text "1.9.9", .function 0), (.text "^2.0", .function 1),
    (.text "~2", .function 2), (.text "~2.0", .function 3),
    (.text " ~2.0", .function 4)]

/-- Of these the tilde ranges are ahead of the caret range, the longer ones ahead of the shorter, and of two equal ones
the first. Its handler answers a request without a version. -/
theorem exists_findLatest_tiedKeys : ∃ route : Route,
    Registration.IsNewest tiedKeys route.toRegistration ∧ route.key = "~2.0" ∧
    ∃ r : Router, Router.build (.dict tiedKeys)
        (.dict [(.text "fallback_strategy", .text "latest"), (.text "require_version", .bool false)]) = .ok r ∧
      (r.dispatch (.direct fun c _ => .ok c.value)
        (.build (.text "GET") (.text "/") ∅ (.ofText []) .null)).result = .ok (.function 3) := by
  have husable : ∀ entry ∈ tiedKeys, ∃ reg : Registration, reg.WrittenBy entry := by decide
  obtain ⟨table, route, htable, hroute, hnewest, -, -, hdispatch⟩ :=
    exists_findLatest_isNewest true husable (by decide)
  have hcompiled : (compile true tiedKeys).map (fun table => table.findLatest.map fun route =>
      (route.key, route.handler)) = .ok (some ("~2.0", .function 3)) := rfl
  rw [htable] at hcompiled
  have hfound : table.findLatest.map (fun route => (route.key, route.handler)) =
      some (("~2.0" : Text), Callable.function 3) := Except.ok.inj hcompiled
  rw [hroute] at hfound
  obtain ⟨hkey, hhandler⟩ := Prod.mk.inj (Option.some.inj hfound)
  obtain ⟨r, hr, hfallback, hrequire⟩ : ∃ r : Router, Router.build (.dict tiedKeys)
      (.dict [(.text "fallback_strategy", .text "latest"), (.text "require_version", .bool false)]) = .ok r ∧
      r.policy.fallback = .latest ∧ r.policy.requireVersion.isTruthy = false := ⟨_, rfl, rfl, rfl⟩
  refine ⟨route, hnewest, hkey, r, hr, ?_⟩
  have hextract : ((Extractor.ofPolicy r.policy).extract (.direct fun c _ => .ok c.value)
      (.build (.text "GET") (.text "/") ∅ (.ofText []) .null)).result = .ok none := by
    obtain rfl := Except.ok.inj hr
    rfl
  rw [hdispatch _ r hr (.inl hfallback) _ _ none hextract (.inl ⟨rfl, hrequire⟩), hhandler]
  rfl

end RouteTable

end SemverDispatch
