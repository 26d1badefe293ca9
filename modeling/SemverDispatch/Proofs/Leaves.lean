import SemverDispatch.Proofs.PolicyChecks

/-!
# The leaves of options

Options are records inside records, and what a router goes by stands at their leaves (`Policy.Leaf`). Checking a
record looks at nothing else: it gives a policy exactly if the policy is valid and every leaf of the record settles to
the policy's value there (`ofRecord_eq_ok_iff`). A row of sources settles to a tuple and a pattern in text to a
compiled one; everything else stays as it is.

It follows that a record is checked to a policy that its own record is checked to again
(`ofRecord_toRecord`), and that policies with the same leaves are the same (`Policy.ext_leaves`).
-/

namespace SemverDispatch

namespace Value

/-- What stands at the end of a path of fields. -/
def atPath? (v : Value) : List Text → Option Value
  | [] => some v
  | name :: path => (v.field? name).bind (atPath? · path)

variable {v w : Value} {name : Text} {path : List Text}

theorem atPath?_singleton : v.atPath? [name] = v.field? name := by
  rw [atPath?]
  cases v.field? name <;> rfl

/-- What stands in a field stands at the path of its name. -/
theorem atPath?_of_field? (h : v.field? name = some w) : v.atPath? [name] = some w :=
  atPath?_singleton.trans h

/-- What stands in a section stands at a path through the section. -/
theorem atPath?_of_section {section_ : Value} (hsection : v.field? name = some section_)
    (h : section_.atPath? path = some w) : v.atPath? (name :: path) = some w := by
  rw [atPath?, hsection]
  exact h

/-- A path leads through a section. -/
theorem exists_section (h : v.atPath? (name :: path) = some w) :
    ∃ section_, v.field? name = some section_ ∧ section_.atPath? path = some w :=
  Option.bind_eq_some_iff.mp h

/-- Fields are all that is read off a value, but for the text of a pattern. -/
theorem member_eq_ok_iff (hname : name ≠ "pattern") : v.member name = .ok w ↔ v.field? name = some w := by
  have hmember : v.member? name = v.field? name := by
    cases v with
    | pattern p => exact if_neg hname
    | _ => rfl
  rw [member, hmember]
  cases v.field? name <;> simp

end Value

namespace Policy

/-! ## Leaves -/

/-- A place in the options of a router that holds no further options. -/
inductive Leaf where
  /-- the row of sources -/
  | sources
  /-- the name of the header -/
  | header
  /-- the name of the query parameter -/
  | query
  /-- the pattern for the path -/
  | pattern
  /-- the callable that finds a version -/
  | custom
  /-- the status when no version came -/
  | missingStatus
  /-- the status when no route admits the version -/
  | notFoundStatus
  /-- the status when the version does not parse -/
  | invalidStatus
  /-- what is said when no version came -/
  | missingMessage
  /-- what is said when no route admits the version -/
  | notFoundMessage
  /-- whether an error names the version asked for -/
  | includeRequested
  /-- the callable that sees every error first -/
  | onError
  /-- what is done with a version that no route admits -/
  | fallback
  /-- the handler of last resort -/
  | defaultHandler
  /-- whether an unusable entry of the handlers is an error -/
  | validateHandlers
  /-- whether a handler is told what dispatch found out -/
  | attachVersionInfo
  /-- whether a request without a version is an error -/
  | requireVersion
  deriving DecidableEq, Repr

namespace Leaf

/-- The names of the fields that lead to a leaf. -/
def path : Leaf → List Text
  | sources => ["extraction", "sources"]
  | header => ["extraction", "header", "name"]
  | query => ["extraction", "query", "name"]
  | pattern => ["extraction", "path", "pattern"]
  | custom => ["extraction", "custom"]
  | missingStatus => ["error_response", "missing_version_status"]
  | notFoundStatus => ["error_response", "version_not_found_status"]
  | invalidStatus => ["error_response", "invalid_version_status"]
  | missingMessage => ["error_response", "missing_version_message"]
  | notFoundMessage => ["error_response", "version_not_found_message"]
  | includeRequested => ["error_response", "include_requested_version"]
  | onError => ["error_response", "on_error"]
  | fallback => ["fallback_strategy"]
  | defaultHandler => ["default_handler"]
  | validateHandlers => ["validate_handlers"]
  | attachVersionInfo => ["attach_version_info"]
  | requireVersion => ["require_version"]

/-- What becomes of a value at a leaf once the options are checked. -/
def settle (leaf : Leaf) (v : Value) : Value :=
  match leaf, v with
  | sources, .list items => .tuple items
  | pattern, .text t =>
    match Pattern.compile [] t with
    | .ok p => .pattern p
    | .error _ => .text t
  | _, v => v

end Leaf

/-- The value of a policy at a leaf. -/
def value (p : Policy) : Leaf → Value
  | .sources => .tuple (sourceValues p.sources)
  | .header => .text p.header
  | .query => .text p.query
  | .pattern => .pattern p.pattern
  | .custom => callableValue p.custom
  | .missingStatus => .int p.missingStatus
  | .notFoundStatus => .int p.notFoundStatus
  | .invalidStatus => .int p.invalidStatus
  | .missingMessage => p.missingMessage
  | .notFoundMessage => p.notFoundMessage
  | .includeRequested => p.includeRequested
  | .onError => callableValue p.onError
  | .fallback => .text p.fallback.name
  | .defaultHandler => callableValue p.defaultHandler
  | .validateHandlers => p.validateHandlers
  | .attachVersionInfo => p.attachVersionInfo
  | .requireVersion => p.requireVersion

variable {p q : Policy} {config : Value} {leaf : Leaf}

/-- The record of a policy has the policy's value at every leaf. -/
@[simp] theorem atPath?_toRecord : p.toRecord.atPath? leaf.path = some (p.value leaf) := by
  cases leaf <;> rfl

theorem callableValue_inj {c d : Option Callable} : callableValue c = callableValue d ↔ c = d := by
  have hread : callableOf [] (callableValue c) = .ok c := callableOf_eq_ok_iff.mpr rfl
  rw [← callableOf_eq_ok_iff, hread, Except.ok.injEq]

theorem sourceValues_inj {s t : List Source} : sourceValues s = sourceValues t ↔ s = t := by
  rw [← mapM_sourceOf_eq_ok_iff, mapM_sourceOf_eq_ok_iff.mpr rfl, Except.ok.injEq]

/-- Policies with the same values at all leaves are the same. -/
theorem ext_leaves (h : ∀ leaf, p.value leaf = q.value leaf) : p = q := by
  have hsources := sourceValues_inj.mp (Value.tuple.inj (h .sources))
  have hheader := Value.text.inj (h .header)
  have hquery := Value.text.inj (h .query)
  have hpattern := Value.pattern.inj (h .pattern)
  have hcustom := callableValue_inj.mp (h .custom)
  have hmissing := Int.ofNat.inj (Value.int.inj (h .missingStatus))
  have hnotFound := Int.ofNat.inj (Value.int.inj (h .notFoundStatus))
  have hinvalid := Int.ofNat.inj (Value.int.inj (h .invalidStatus))
  have honError := callableValue_inj.mp (h .onError)
  have hname := Value.text.inj (h .fallback)
  have hfallback : p.fallback = q.fallback :=
    Option.some.inj ((Fallback.ofName?_name _).symm.trans (hname ▸ Fallback.ofName?_name _))
  have hdefault := callableValue_inj.mp (h .defaultHandler)
  have hmissingMessage : p.missingMessage = q.missingMessage := h .missingMessage
  have hnotFoundMessage : p.notFoundMessage = q.notFoundMessage := h .notFoundMessage
  have hinclude : p.includeRequested = q.includeRequested := h .includeRequested
  have hvalidate : p.validateHandlers = q.validateHandlers := h .validateHandlers
  have hattach : p.attachVersionInfo = q.attachVersionInfo := h .attachVersionInfo
  have hrequire : p.requireVersion = q.requireVersion := h .requireVersion
  cases p
  cases q
  simp_all only

/-! ## Settling -/

/-- A policy that options can be checked to. -/
structure Valid (p : Policy) : Prop where
  /-- there is a source -/
  sources : p.sources ≠ []
  /-- the callable that finds a version is there if it is a source -/
  custom : Source.custom ∈ p.sources → p.custom ≠ none
  /-- the header has a name -/
  header : p.header.isBlank = false
  /-- the query parameter has a name -/
  query : p.query.isBlank = false
  /-- the status when no version came is one -/
  missingStatus : 100 ≤ p.missingStatus ∧ p.missingStatus ≤ 599
  /-- the status when no route admits the version is one -/
  notFoundStatus : 100 ≤ p.notFoundStatus ∧ p.notFoundStatus ≤ 599
  /-- the status when the version does not parse is one -/
  invalidStatus : 100 ≤ p.invalidStatus ∧ p.invalidStatus ≤ 599
  /-- the pattern has a group -/
  pattern : p.pattern.groups ≠ 0

/-- A policy's own values are settled. -/
@[simp] theorem settle_value : leaf.settle (p.value leaf) = p.value leaf := by
  cases leaf <;> rfl

theorem settle_sources_eq_iff {v : Value} {items : List Value} :
    Leaf.sources.settle v = .tuple items ↔ v = .list items ∨ v = .tuple items := by
  cases v <;> simp [Leaf.settle]

theorem settle_pattern_eq_iff {v : Value} {p : Pattern} :
    Leaf.pattern.settle v = .pattern p ↔
      v = .pattern p ∨ ∃ t, v = .text t ∧ Pattern.compile [] t = .ok p := by
  cases v with
  | text t => cases hcompile : Pattern.compile [] t <;> simp [Leaf.settle, hcompile]
  | _ => simp [Leaf.settle]

/-- Where nothing settles, the value stays. -/
theorem settle_eq {v : Value} (hsources : leaf ≠ .sources) (hpattern : leaf ≠ .pattern) : leaf.settle v = v := by
  cases leaf with
  | sources => exact absurd rfl hsources
  | pattern => exact absurd rfl hpattern
  | _ => rfl

/-- A pattern passes with a group, compiled or as text that compiles to it. -/
theorem patternOf_eq_ok_iff {v : Value} {p : Pattern} :
    patternOf v = .ok p ↔ p.groups ≠ 0 ∧ Leaf.pattern.settle v = .pattern p := by
  rw [settle_pattern_eq_iff]
  cases v with
  | text t =>
    rw [patternOf_text_eq_ok_iff]
    simp [and_comm]
  | pattern q =>
    have hpattern : patternOf (.pattern q) = if q.groups = 0 then
      .error (.configuration "path pattern must contain a capture group for the version") else .ok q := rfl
    rw [hpattern]
    by_cases hgroups : q.groups = 0
    · rw [if_pos hgroups]
      refine iff_of_false nofun ?_
      rintro ⟨hne, h | ⟨t, h, -⟩⟩
      · exact hne (Value.pattern.inj h ▸ hgroups)
      · cases h
    · rw [if_neg hgroups]
      constructor
      · rintro h
        obtain rfl := Except.ok.inj h
        exact ⟨hgroups, .inl rfl⟩
      · rintro ⟨-, h | ⟨t, h, -⟩⟩
        · rw [Value.pattern.inj h]
        · cases h
  | _ =>
    refine iff_of_false nofun ?_
    rintro ⟨-, h | ⟨t, h, -⟩⟩
    · cases h
    · cases h

/-- The section `path` is a record with a pattern that passes. -/
theorem patternIn_eq_ok_iff {section_ : Value} {p : Pattern} :
    patternIn section_ = .ok p ↔ ∃ v, section_.field? "pattern" = some v ∧ patternOf v = .ok p := by
  cases section_ with
  | record kind fields =>
    have hmember : (Value.record kind fields).member? "pattern" = (Value.record kind fields).field? "pattern" := rfl
    simp only [patternIn, Value.member, hmember]
    cases (Value.record kind fields).field? "pattern" with
    | none => exact iff_of_false nofun nofun
    | some v => cases hp : patternOf v <;> simp [hp, Options.isRecord]
  | recordClass kind =>
    -- what a class has in the place of a pattern is none
    have hmember : (Value.recordClass kind).member? "pattern" = (Value.recordClass kind).field? "pattern" := rfl
    simp only [patternIn, Value.member, hmember]
    cases hfield : (Value.recordClass kind).field? "pattern" with
    | none => exact iff_of_false nofun nofun
    | some v =>
      obtain rfl := Value.eq_of_field?_recordClass hfield
      exact iff_of_false nofun nofun
  | pattern q =>
    refine iff_of_false (fun h => ?_) nofun
    obtain ⟨_, -, h⟩ := Result.bind_eq_ok_iff.mp h
    obtain ⟨_, -, h⟩ := Result.bind_eq_ok_iff.mp h
    cases h
  | _ => exact iff_of_false nofun nofun

/-! ## Checking a record -/

/-- Every leaf of a record settles to the policy's value there. -/
def SettlesTo (config : Value) (p : Policy) : Prop :=
  ∀ leaf : Leaf, ∃ v, config.atPath? leaf.path = some v ∧ leaf.settle v = p.value leaf

namespace SettlesTo

variable {section_ : Value} {name : Text} {path : List Text}

theorem atPath?_eq (h : SettlesTo config p) (leaf : Leaf) (hsources : leaf ≠ .sources)
    (hpattern : leaf ≠ .pattern) : config.atPath? leaf.path = some (p.value leaf) := by
  obtain ⟨v, hv, hsettle⟩ := h leaf
  rw [hv, ← hsettle, settle_eq hsources hpattern]

/-- What stands at a leaf stands in the section that its path leads through, at the rest of the path. -/
theorem section_eq (h : SettlesTo config p) (leaf : Leaf) (hsection : config.field? name = some section_)
    (hpath : leaf.path = name :: path) (hsources : leaf ≠ .sources) (hpattern : leaf ≠ .pattern) :
    section_.atPath? path = some (p.value leaf) := by
  have hv := h.atPath?_eq leaf hsources hpattern
  rw [hpath, Value.atPath?, hsection] at hv
  exact hv

end SettlesTo

/-- Where every check passes, the policy is valid and the leaves settle to its values. -/
theorem settles_of_ofRecord (h : ofRecord config = .ok p) : p.Valid ∧ SettlesTo config p := by
  unfold ofRecord statusIn at h
  -- one check after another, each as what it says
  simp (disch := decide) only [Result.bind_eq_ok_iff, Value.member_eq_ok_iff, sourcesOf_eq_ok_iff,
    customOf_eq_ok_iff, nameOf_eq_ok_iff, statusOf_eq_ok_iff, callableOf_eq_ok_iff, fallbackOf_eq_ok_iff,
    patternIn_eq_ok_iff, patternOf_eq_ok_iff] at h
  obtain ⟨extraction, hextraction, row, hrow, sources, ⟨hne, hsources⟩, _, hcustom, custom, ⟨hcustomIs, hneeded⟩,
    headers, hheaders, _, hheader, queries, hqueries, _, hquery, header, ⟨hheaderIs, hheaderBlank⟩,
    query, ⟨hqueryIs, hqueryBlank⟩, h⟩ := h
  obtain ⟨errors, herrors, missing, ⟨_, hmissing, hmissingIs, hmissingRange⟩,
    notFound, ⟨_, hnotFound, hnotFoundIs, hnotFoundRange⟩,
    invalid, ⟨_, hinvalid, hinvalidIs, hinvalidRange⟩, _, honError, onError, honErrorIs, h⟩ := h
  obtain ⟨_, hfallback, fallback, hfallbackIs, _, hdefault, default, hdefaultIs,
    paths, hpaths, pattern, ⟨v, hpattern, hgroups, hsettle⟩, h⟩ := h
  obtain ⟨missingMessage, hmissingMessage, notFoundMessage, hnotFoundMessage, includes, hincludes,
    validates, hvalidates, attaches, hattaches, requires, hrequires, h⟩ := h
  obtain rfl := Except.ok.inj h
  refine ⟨⟨hne, hneeded, hheaderBlank, hqueryBlank, hmissingRange, hnotFoundRange, hinvalidRange, hgroups⟩,
    fun leaf => ?_⟩
  have hextractionAt {path : List Text} {w : Value} (h : extraction.atPath? path = some w) :=
    Value.atPath?_of_section hextraction h
  have herrorsAt {name : Text} {w : Value} (h : errors.field? name = some w) :=
    Value.atPath?_of_section herrors (Value.atPath?_of_field? h)
  cases leaf with
  | sources => exact ⟨_, hextractionAt (Value.atPath?_of_field? hrow), settle_sources_eq_iff.mpr hsources⟩
  | header =>
    exact ⟨_, hextractionAt (Value.atPath?_of_section hheaders (Value.atPath?_of_field? hheader)), hheaderIs⟩
  | query =>
    exact ⟨_, hextractionAt (Value.atPath?_of_section hqueries (Value.atPath?_of_field? hquery)), hqueryIs⟩
  | pattern =>
    exact ⟨_, hextractionAt (Value.atPath?_of_section hpaths (Value.atPath?_of_field? hpattern)), hsettle⟩
  | custom => exact ⟨_, hextractionAt (Value.atPath?_of_field? hcustom), hcustomIs⟩
  | missingStatus => exact ⟨_, herrorsAt hmissing, hmissingIs⟩
  | notFoundStatus => exact ⟨_, herrorsAt hnotFound, hnotFoundIs⟩
  | invalidStatus => exact ⟨_, herrorsAt hinvalid, hinvalidIs⟩
  | missingMessage => exact ⟨_, herrorsAt hmissingMessage, rfl⟩
  | notFoundMessage => exact ⟨_, herrorsAt hnotFoundMessage, rfl⟩
  | includeRequested => exact ⟨_, herrorsAt hincludes, rfl⟩
  | onError => exact ⟨_, herrorsAt honError, honErrorIs⟩
  | fallback => exact ⟨_, Value.atPath?_of_field? hfallback, hfallbackIs⟩
  | defaultHandler => exact ⟨_, Value.atPath?_of_field? hdefault, hdefaultIs⟩
  | validateHandlers => exact ⟨_, Value.atPath?_of_field? hvalidates, rfl⟩
  | attachVersionInfo => exact ⟨_, Value.atPath?_of_field? hattaches, rfl⟩
  | requireVersion => exact ⟨_, Value.atPath?_of_field? hrequires, rfl⟩

/-- Where the leaves settle to the values of a valid policy, every check passes. -/
theorem ofRecord_of_settles (hvalid : p.Valid) (hleaves : SettlesTo config p) : ofRecord config = .ok p := by
  unfold ofRecord statusIn
  simp (disch := decide) only [Result.bind_eq_ok_iff, Value.member_eq_ok_iff, sourcesOf_eq_ok_iff,
    customOf_eq_ok_iff, nameOf_eq_ok_iff, statusOf_eq_ok_iff, callableOf_eq_ok_iff, fallbackOf_eq_ok_iff,
    patternIn_eq_ok_iff, patternOf_eq_ok_iff]
  obtain ⟨row, hrow, hsources⟩ := hleaves .sources
  obtain ⟨extraction, hextraction, hrow⟩ := Value.exists_section hrow
  obtain ⟨v, hv, hpattern⟩ := hleaves .pattern
  obtain ⟨_, hextraction', hv⟩ := Value.exists_section hv
  obtain rfl := Option.some.inj (hextraction.symm.trans hextraction')
  obtain ⟨paths, hpaths, hv⟩ := Value.exists_section hv
  obtain ⟨headers, hheaders, hheader⟩ :=
    Value.exists_section (hleaves.section_eq .header hextraction rfl nofun nofun)
  obtain ⟨queries, hqueries, hquery⟩ :=
    Value.exists_section (hleaves.section_eq .query hextraction rfl nofun nofun)
  obtain ⟨errors, herrors, hmissing⟩ :=
    Value.exists_section (hleaves.atPath?_eq .missingStatus nofun nofun)
  have hfield {w : Value} {name : Text} {v : Value} (h : w.atPath? [name] = some v) : w.field? name = some v :=
    Value.atPath?_singleton.symm.trans h
  exact ⟨extraction, hextraction, row, hfield hrow, p.sources,
    ⟨hvalid.sources, settle_sources_eq_iff.mp hsources⟩,
    _, hfield (hleaves.section_eq .custom hextraction rfl nofun nofun), _, ⟨rfl, hvalid.custom⟩,
    headers, hheaders, _, hfield hheader, queries, hqueries, _, hfield hquery,
    _, ⟨rfl, hvalid.header⟩, _, ⟨rfl, hvalid.query⟩,
    errors, herrors, _, ⟨_, hfield hmissing, rfl, hvalid.missingStatus⟩,
    _, ⟨_, hfield (hleaves.section_eq .notFoundStatus herrors rfl nofun nofun), rfl, hvalid.notFoundStatus⟩,
    _, ⟨_, hfield (hleaves.section_eq .invalidStatus herrors rfl nofun nofun), rfl, hvalid.invalidStatus⟩,
    _, hfield (hleaves.section_eq .onError herrors rfl nofun nofun), _, rfl,
    _, hfield (hleaves.atPath?_eq .fallback nofun nofun), _, rfl,
    _, hfield (hleaves.atPath?_eq .defaultHandler nofun nofun), _, rfl,
    paths, hpaths, _, ⟨v, hfield hv, hvalid.pattern, hpattern⟩,
    _, hfield (hleaves.section_eq .missingMessage herrors rfl nofun nofun),
    _, hfield (hleaves.section_eq .notFoundMessage herrors rfl nofun nofun),
    _, hfield (hleaves.section_eq .includeRequested herrors rfl nofun nofun),
    _, hfield (hleaves.atPath?_eq .validateHandlers nofun nofun),
    _, hfield (hleaves.atPath?_eq .attachVersionInfo nofun nofun),
    _, hfield (hleaves.atPath?_eq .requireVersion nofun nofun), rfl⟩

/-- **Checking a record gives a policy exactly if the policy is valid and the leaves of the record settle to its
values.** -/
theorem ofRecord_eq_ok_iff : ofRecord config = .ok p ↔ p.Valid ∧ SettlesTo config p :=
  ⟨settles_of_ofRecord, fun ⟨hvalid, hleaves⟩ => ofRecord_of_settles hvalid hleaves⟩

/-- The record of a valid policy is checked to the policy. -/
theorem ofRecord_toRecord (h : p.Valid) : ofRecord p.toRecord = .ok p :=
  ofRecord_eq_ok_iff.mpr ⟨h, fun _ => ⟨_, atPath?_toRecord, settle_value⟩⟩

end Policy

end SemverDispatch
