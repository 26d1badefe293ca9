import SemverDispatch.Extraction
import SemverDispatch.Proofs.Leaves
import SemverDispatch.Proofs.Overlay

/-!
# Resolved options

What comes out of resolving options passes every check (`IsResolved`), and nothing happens to it when it is resolved
again. An extractor skips a source that it does not know, and a callable that is not there; from options that were
resolved it skips none, so it reads the sources that stand in them (`resolve_resolved`).
-/

namespace SemverDispatch

namespace Policy

variable {p : Policy}

/-- Options that pass every check, as they are once they are resolved. -/
structure IsResolved (config : Value) : Prop where
  /-- there is a source, each is known, and if one is a callable then the callable is there -/
  sources : ∃ (sources : List Source) (custom : Option Callable), sources ≠ [] ∧
    config.atPath? Leaf.sources.path = some (.tuple (sourceValues sources)) ∧
    config.atPath? Leaf.custom.path = some (callableValue custom) ∧ (.custom ∈ sources → custom ≠ none)
  /-- the header and the query parameter have names -/
  names : ∀ leaf ∈ [Leaf.header, .query], ∃ t, config.atPath? leaf.path = some (.text t) ∧ t.isBlank = false
  /-- the statuses are integers of three digits, up to 599 -/
  statuses : ∀ leaf ∈ [Leaf.missingStatus, .notFoundStatus, .invalidStatus],
    ∃ n, config.atPath? leaf.path = some (.int n) ∧ 100 ≤ n ∧ n ≤ 599
  /-- the hook and the default handler are callables, if they are there -/
  callables : ∀ leaf ∈ [Leaf.onError, .defaultHandler], ∃ c, config.atPath? leaf.path = some (callableValue c)
  /-- the strategy is known -/
  fallback : ∃ s : Fallback, config.atPath? Leaf.fallback.path = some (.text s.name)
  /-- the pattern is compiled and has a group -/
  pattern : ∃ q : Pattern, config.atPath? Leaf.pattern.path = some (.pattern q) ∧ 1 ≤ q.groups

/-- The record of a valid policy passes every check. -/
theorem isResolved_toRecord (h : p.Valid) : IsResolved p.toRecord where
  sources := ⟨p.sources, p.custom, h.sources, atPath?_toRecord, atPath?_toRecord, h.custom⟩
  names := by
    simp only [List.forall_mem_cons]
    exact ⟨⟨_, atPath?_toRecord, h.header⟩, ⟨_, atPath?_toRecord, h.query⟩, nofun⟩
  statuses := by
    have hstatus {n : Nat} (h : 100 ≤ n ∧ n ≤ 599) : (100 : Int) ≤ n ∧ (n : Int) ≤ 599 := by omega
    simp only [List.forall_mem_cons]
    exact ⟨⟨_, atPath?_toRecord, hstatus h.missingStatus⟩, ⟨_, atPath?_toRecord, hstatus h.notFoundStatus⟩,
      ⟨_, atPath?_toRecord, hstatus h.invalidStatus⟩, nofun⟩
  callables := by
    simp only [List.forall_mem_cons]
    exact ⟨⟨_, atPath?_toRecord⟩, ⟨_, atPath?_toRecord⟩, nofun⟩
  fallback := ⟨_, atPath?_toRecord⟩
  pattern := ⟨_, atPath?_toRecord, Nat.one_le_iff_ne_zero.mpr h.pattern⟩

/-- Options are laid over the defaults, and what stands at the leaves then is checked. -/
theorem resolve_eq_ok_iff {options defaults : Value} : resolve options defaults = .ok p ↔
    ∃ merged, Options.merge defaults "options" options = .ok merged ∧ p.Valid ∧ SettlesTo merged p := by
  rw [resolve, Result.bind_eq_ok_iff]
  simp only [ofRecord_eq_ok_iff]

/-- A whole record of options takes the place of the defaults. -/
theorem resolve_toRecord (h : p.Valid) (fields : List (Text × Value)) :
    resolve p.toRecord (.record .versioning fields) = .ok p := by
  have hmerge : Options.merge (.record .versioning fields) "options" p.toRecord = .ok p.toRecord := rfl
  rw [resolve, hmerge]
  exact ofRecord_toRecord h

end Policy

namespace Extractor

variable {p : Policy} {s : Source} {reader : Reader}

theorem source_of_readerOf? (h : readerOf? p s = some reader) : reader.source = s := by
  cases s with
  | custom =>
    obtain ⟨c, -, rfl⟩ := Option.map_eq_some_iff.mp h
    rfl
  | _ =>
    obtain rfl := Option.some.inj h
    rfl

/-- A policy has a reader for each of its sources. -/
theorem exists_readerOf? (h : p.Valid) (hmem : s ∈ p.sources) : ∃ reader, readerOf? p s = some reader := by
  cases s with
  | custom =>
    obtain ⟨c, hc⟩ := Option.ne_none_iff_exists'.mp (h.custom hmem)
    exact ⟨.custom c.value, by rw [readerOf?, hc]; rfl⟩
  | _ => exact ⟨_, rfl⟩

/-- No source of a policy is skipped. -/
theorem sources_ofPolicy (h : p.Valid) : sources (ofPolicy p) = p.sources := by
  have hsource : ∀ s ∈ p.sources, (readerOf? p s).map Reader.source = some s := by
    intro s hs
    obtain ⟨reader, hreader⟩ := exists_readerOf? h hs
    rw [hreader, Option.map_some, source_of_readerOf? hreader]
  rw [sources, ofPolicy, List.map_filterMap, List.filterMap_congr hsource, List.filterMap_some]

/-- What the record of a policy names as a source is read as the policy reads it. -/
theorem readerIn?_extractionRecord :
    readerIn? p.extractionRecord (.text s.name) = .ok (readerOf? p s) := by
  have hname : (Value.text s.name).text?.bind Source.ofName? = some s := Source.ofName?_name s
  rw [readerIn?, hname]
  cases s with
  | custom =>
    have hcustom : p.extractionRecord.member "custom" = .ok (Policy.callableValue p.custom) := rfl
    rw [hcustom, Result.ok_bind, readerOf?]
    cases p.custom with
    | none => rfl
    | some c =>
      dsimp only
      rw [Policy.callableValue, c.isNull_value, if_neg Bool.false_ne_true]
      rfl
  | _ => rfl

/-- The extractor of a policy's record is that of the policy. -/
theorem ofRecord_toRecord : ofRecord p.toRecord = .ok (ofPolicy p) := by
  have hrow (row : List Source) : readersIn p.extractionRecord (Policy.sourceValues row) =
      .ok (row.filterMap (readerOf? p)) := by
    induction row with
    | nil => rfl
    | cons s rest ih =>
      rw [Policy.sourceValues, List.map_cons, readersIn, readerIn?_extractionRecord, Result.ok_bind,
        ← Policy.sourceValues, ih, List.filterMap_cons]
      cases readerOf? p s <;> rfl
  exact hrow p.sources

end Extractor

namespace Policy

variable {p : Policy} {options defaults : Value}

/-- **Resolved options are as the checks want them, and stay as they are.** They hold at every leaf what the options
laid over the defaults hold there, once it is settled. They pass every check. To resolve them again, over any defaults,
changes nothing. Their extractor reads the sources that they name, one after another, and skips none. -/
theorem resolve_resolved (h : resolve options defaults = .ok p) :
    (∃ merged, Options.merge defaults "options" options = .ok merged ∧ ∀ leaf : Leaf, ∃ v,
      merged.atPath? leaf.path = some v ∧ p.toRecord.atPath? leaf.path = some (leaf.settle v)) ∧
    IsResolved p.toRecord ∧
    (∀ fields, resolve p.toRecord (.record .versioning fields) = .ok p) ∧
    ∃ readers, Extractor.ofRecord p.toRecord = .ok readers ∧
      p.toRecord.atPath? Leaf.sources.path = some (.tuple (sourceValues (Extractor.sources readers))) := by
  obtain ⟨merged, hmerged, hvalid, hsettles⟩ := resolve_eq_ok_iff.mp h
  refine ⟨⟨merged, hmerged, fun leaf => ?_⟩, isResolved_toRecord hvalid, resolve_toRecord hvalid,
    Extractor.ofPolicy p, Extractor.ofRecord_toRecord, ?_⟩
  · obtain ⟨v, hv, hsettle⟩ := hsettles leaf
    exact ⟨v, hv, hsettle ▸ atPath?_toRecord⟩
  · rw [Extractor.sources_ofPolicy hvalid, atPath?_toRecord]
    rfl

/-- Options with a list of sources, a callable among them, and a pattern in text. -/
def listedSources : Value :=
  .dict [(.text "extraction", .dict
    [(.text "sources", .list [.text "path", .text "custom", .text "path"]),
      (.text "path", .dict [(.text "pattern", .text "/(\\d+)/")]),
      (.text "custom", .function 4)])]

/-- The list becomes a tuple and the text a pattern, and both are as they were once they are resolved again. -/
theorem resolve_listedSources : ∃ p, resolve listedSources defaultOptions = .ok p ∧
    resolve p.toRecord defaultOptions = .ok p ∧
    p.toRecord.atPath? Leaf.sources.path = some (.tuple [.text "path", .text "custom", .text "path"]) := by
  obtain ⟨p, hp, hsources⟩ : ∃ p, resolve listedSources defaultOptions = .ok p ∧
      p.sources = [.path, .custom, .path] := ⟨_, rfl, rfl⟩
  have hresolved := resolve_resolved hp
  refine ⟨p, hp, hresolved.2.2.1 _, ?_⟩
  rw [atPath?_toRecord, value, hsources]
  rfl

end Policy

end SemverDispatch
