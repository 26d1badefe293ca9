import SemverDispatch.Proofs.PolicyChecks
import SemverDispatch.Proofs.WellFormed

/-!
# When options fail as they should

Options that are wrong are meant to fail with a failure of configuration and nothing else. They do so exactly
if two things hold. Every mapping that merging reaches has texts for its keys, and every check of the merged
record that is reached has what it needs (`Policy.checks`): a section that is taken apart has the fields of its
kind, a value that is shown holds no integer too large to be written, the strategy can be looked up, and a
pattern compiles, or what is wrong with it can be said of it. `contained_resolve_iff` is this statement for
options laid over the defaults.
-/

namespace SemverDispatch

open Value

namespace Policy

/-- A section that has a name. -/
def IsNamed (v : Value) : Prop := v.HasFields .header ∨ v.HasFields .query

/-- The section `path` of a pattern: one whose pattern, if it is text, compiles or is said to be wrong. A pattern in
place of the section is compiled anew if it was read from text, and only its want of a group keeps it from being taken
for a record. -/
def IsPath (path : Value) : Prop :=
  (path.HasFields .path ∧ ∀ t, path.part "pattern" = .text t → Compiles t) ∨
    ∃ p, path = .pattern p ∧ ∀ t, p.source = .text t →
      Compiles t ∧ ∀ q, Pattern.compile [] t = .ok q → q.groups = 0

/-- A status in a field of a record. -/
def HasStatus (record : Value) (field : Text) : Prop :=
  ∃ n : Nat, record.part field = .int n ∧ 100 ≤ n ∧ n ≤ 599

/-- A callable or nothing in a field of a record. -/
def HasCallable (record : Value) (field : Text) : Prop :=
  ∃ c, record.part field = callableValue c

/-- A name that is not blank, in a section. -/
def HasName (section_ : Value) : Prop :=
  ∃ t : Text, section_.part "name" = .text t ∧ t.isBlank = false

/-- A row of sources, of at least one, and the callable that finds a version, if it is one of them. -/
def HasSources (extraction : Value) : Prop :=
  ∃ sources : List Source, ∃ c, sources ≠ [] ∧
    (extraction.part "sources" = .list (sourceValues sources) ∨
      extraction.part "sources" = .tuple (sourceValues sources)) ∧
    extraction.part "custom" = callableValue c ∧ (Source.custom ∈ sources → c ≠ none)

/-- The checks of a record of options, in their order. -/
def checks (config : Value) : List Check :=
  let extraction := config.part "extraction"
  let errors := config.part "error_response"
  let strategy := config.part "fallback_strategy"
  [{ needs := extraction.HasFields .extraction ∧ ShowsSources (extraction.part "sources")
     passes := HasSources extraction },
    { needs := IsNamed (extraction.part "header") ∧ IsNamed (extraction.part "query")
      passes := HasName (extraction.part "header") ∧ HasName (extraction.part "query") },
    { needs := errors.HasFields .errorResponse
      passes := HasStatus errors "missing_version_status" ∧
        HasStatus errors "version_not_found_status" ∧ HasStatus errors "invalid_version_status" ∧
        HasCallable errors "on_error" },
    { needs := LooksUp strategy ∧ strategy.holdsLarge = false
      passes := ∃ s : Fallback, strategy = .text s.name },
    { needs := True
      passes := HasCallable config "default_handler" },
    { needs := IsPath (extraction.part "path")
      passes := True }]

/-! ## Row by row

Each row of the table is proved for whatever comes behind it, as long as that does not depend on what the row
gives. -/

section Rows

variable {β : Type} {G : Prop} {extraction errors path v : Value}

theorem contained_sources_row {k : List Source → Option Callable → Except Failure β}
    (hk : ∀ sources c, Contained (k sources c) ↔ G) :
    Contained (sourcesOf (extraction.part "sources") >>= fun sources =>
      customOf sources (extraction.part "custom") >>= k sources) ↔
      ShowsSources (extraction.part "sources") ∧ (HasSources extraction → G) := by
  rw [contained_bind_iff, contained_sourcesOf_iff]
  refine and_congr_right fun _ => ?_
  simp only [contained_bind_iff, contained_customOf, true_and, hk, sourcesOf_eq_ok_iff,
    customOf_eq_ok_iff]
  constructor
  · rintro h ⟨sources, c, hne, hsources, hcustom⟩
    exact h sources ⟨hne, hsources⟩ c hcustom
  · intro h sources hsources c hcustom
    exact h ⟨sources, c, hsources.1, hsources.2, hcustom⟩

theorem exists_member_name_iff (h : v.WellFormed) : (∃ w, v.member "name" = .ok w) ↔ IsNamed v := by
  constructor
  · rintro ⟨w, hw⟩
    have hheader : ("name" : Text) ∈ RecordKind.header.defaults.map Prod.fst := by decide
    rcases h.exists_hasFields hheader hw with ⟨kind, hkind, hname⟩ | ⟨hname, -⟩
    · cases kind with
      | header => exact .inl hkind
      | query => exact .inr hkind
      | user c => cases hname
      | _ => exact absurd hname (by decide)
    · exact absurd hname (by decide)
  · rintro (hkind | hkind)
    · exact ⟨_, h.member_eq hkind (by decide)⟩
    · exact ⟨_, h.member_eq hkind (by decide)⟩

theorem contained_names_row {header query : Value} {k : Text → Text → Except Failure β}
    (hheader : header.WellFormed) (hquery : query.WellFormed)
    (hk : ∀ t u, Contained (k t u) ↔ G) :
    Contained (header.member "name" >>= fun headerName => query.member "name" >>= fun queryName =>
      nameOf "header" headerName >>= fun t => nameOf "query" queryName >>= k t) ↔
      (IsNamed header ∧ IsNamed query) ∧ (HasName header ∧ HasName query → G) := by
  rw [contained_bind_iff, contained_member_iff, exists_member_name_iff hheader, and_assoc]
  refine and_congr_right fun hnamed => ?_
  obtain ⟨v, hv⟩ := (exists_member_name_iff hheader).mpr hnamed
  simp only [hv, Except.ok.injEq, forall_eq']
  rw [contained_bind_iff, contained_member_iff, exists_member_name_iff hquery]
  refine and_congr_right fun hnamed' => ?_
  obtain ⟨w, hw⟩ := (exists_member_name_iff hquery).mpr hnamed'
  simp only [hw, Except.ok.injEq, forall_eq']
  rw [and_imp]
  refine contained_bind_iff_imp contained_nameOf ?_ fun t =>
    contained_bind_iff_imp contained_nameOf ?_ (hk t)
  · simp only [nameOf_eq_ok_iff, HasName, part_eq_of_member hv]
  · simp only [nameOf_eq_ok_iff, HasName, part_eq_of_member hw]

theorem contained_errors_row {k : Nat → Nat → Nat → Option Callable → Except Failure β}
    (herrors : errors.WellFormed)
    (hk : errors.HasFields .errorResponse → ∀ m n i c, Contained (k m n i c) ↔ G) :
    Contained (statusIn errors "missing_version_status" >>= fun m =>
      statusIn errors "version_not_found_status" >>= fun n =>
      statusIn errors "invalid_version_status" >>= fun i =>
      errors.member "on_error" >>= fun hook => callableOf "on_error must be callable" hook >>= k m n i) ↔
      errors.HasFields .errorResponse ∧ (HasStatus errors "missing_version_status" ∧
        HasStatus errors "version_not_found_status" ∧ HasStatus errors "invalid_version_status" ∧
        HasCallable errors "on_error" → G) := by
  have hfirst : Contained (errors.member "missing_version_status") ↔
      errors.HasFields .errorResponse := by
    rw [contained_member_iff]
    constructor
    · rintro ⟨w, hw⟩
      exact herrors.hasFields_of_member hw (by decide) (by decide) fun kind => by
        cases kind <;> first | decide | exact nofun
    · exact fun hkind => ⟨_, herrors.member_eq hkind (by decide)⟩
  by_cases hkind : errors.HasFields .errorResponse
  · have hstatus (field : Text) (hfield : field ∈ RecordKind.errorResponseDefaults.map Prod.fst) :
        Contained (statusIn errors field) ∧ ((∃ n, statusIn errors field = .ok n) ↔ HasStatus errors field) := by
      rw [statusIn, herrors.member_eq hkind hfield, Result.ok_bind]
      simp only [contained_statusOf, statusOf_eq_ok_iff, true_and]
      rfl
    rw [and_iff_right hkind, and_imp, and_imp, and_imp]
    refine contained_bind_iff_imp (hstatus _ (by decide)).1 (hstatus _ (by decide)).2 fun m =>
      contained_bind_iff_imp (hstatus _ (by decide)).1 (hstatus _ (by decide)).2 fun n =>
      contained_bind_iff_imp (hstatus _ (by decide)).1 (hstatus _ (by decide)).2 fun i => ?_
    rw [herrors.member_eq hkind (by decide), Result.ok_bind]
    refine contained_bind_iff_imp contained_callableOf ?_ (hk hkind m n i)
    simp only [callableOf_eq_ok_iff]
    rfl
  · refine iff_of_false (fun h => hkind (hfirst.mp ?_)) fun h => hkind h.1
    exact (contained_bind_iff.mp (contained_bind_iff.mp h).1).1

theorem contained_strategy_row {k : Fallback → Except Failure β} (hk : ∀ s, Contained (k s) ↔ G) :
    Contained (fallbackOf v >>= k) ↔
      (LooksUp v ∧ v.holdsLarge = false) ∧ ((∃ s : Fallback, v = .text s.name) → G) := by
  rw [contained_bind_iff, contained_fallbackOf_iff]
  simp only [hk, fallbackOf_eq_ok_iff, forall_exists_index]

/-- The pattern in a section is compiled if it is text. -/
theorem contained_patternIn_record (hpath : path.WellFormed) (hkind : path.HasFields .path) :
    Contained (patternIn path) ↔ ∀ t, path.part "pattern" = .text t → Compiles t := by
  have hrecord : Options.isRecord path = true := by
    obtain ⟨_, rfl⟩ | rfl := hkind
    · rfl
    · rfl
  rw [patternIn, hpath.member_eq hkind (by decide), Result.ok_bind, contained_bind_iff,
    contained_patternOf_iff]
  simp only [hrecord, if_true, contained_ok, implies_true, and_true]

/-- A pattern in place of a section is compiled anew, if it was read from text. With a group it then is asked for what
it is, which is no section. -/
theorem contained_patternIn_pattern {p : Pattern} : Contained (patternIn (.pattern p)) ↔
    ∀ t, p.source = .text t → Compiles t ∧ ∀ q, Pattern.compile [] t = .ok q → q.groups = 0 := by
  have hmember : (Value.pattern p).member "pattern" = .ok (ofPatternSource p.source) := rfl
  rw [patternIn, hmember, Result.ok_bind]
  cases p.source with
  | bytes b => exact iff_of_true (contained_configuration _) nofun
  | text t =>
    rw [ofPatternSource, contained_bind_iff, contained_patternOf_iff]
    simp only [Value.text.injEq, PatternSource.text.injEq, forall_eq', patternOf_text_eq_ok_iff]
    refine and_congr_right fun _ => ⟨fun h q hq => ?_, fun h q hq => absurd (h q hq.1) hq.2⟩
    by_contra hne
    obtain ⟨reason, hreason⟩ := contained_error_iff.mp (h q ⟨hq, hne⟩)
    cases hreason

theorem contained_patternIn_iff (hpath : path.WellFormed) : Contained (patternIn path) ↔ IsPath path := by
  by_cases hkind : path.HasFields .path
  · rw [contained_patternIn_record hpath hkind]
    refine ⟨fun h => .inl ⟨hkind, h⟩, ?_⟩
    rintro (⟨-, h⟩ | ⟨p, rfl, -⟩)
    · exact h
    · obtain ⟨_, hrecord⟩ | hclass := hkind
      · cases hrecord
      · cases hclass
  · by_cases hpattern : ∃ p, path = .pattern p
    · obtain ⟨p, rfl⟩ := hpattern
      rw [contained_patternIn_pattern]
      refine ⟨fun h => .inr ⟨p, rfl, h⟩, ?_⟩
      rintro (⟨h, -⟩ | ⟨p', hp, h⟩)
      · exact absurd h hkind
      · obtain rfl := Value.pattern.inj hp
        exact h
    · -- nothing else has a pattern at all
      refine iff_of_false (fun h => ?_) ?_
      · obtain ⟨w, hw⟩ := contained_member_iff.mp (contained_bind_iff.mp h).1
        have hname : ("pattern" : Text) ∈ RecordKind.path.defaults.map Prod.fst := by decide
        rcases hpath.exists_hasFields hname hw with ⟨kind, hkind', hname⟩ | ⟨-, hp⟩
        · cases kind with
          | path => exact hkind hkind'
          | user c => cases hname
          | _ => exact absurd hname (by decide)
        · exact hpattern hp
      · rintro (⟨h, -⟩ | ⟨p, hp, -⟩)
        · exact hkind h
        · exact hpattern ⟨p, hp⟩

theorem contained_path_row {k : Pattern → Except Failure β} (hpath : path.WellFormed)
    (hk : ∀ p, Contained (k p)) : Contained (patternIn path >>= k) ↔ IsPath path := by
  rw [contained_bind_iff, and_iff_left fun p _ => hk p]
  exact contained_patternIn_iff hpath

end Rows

/-- **A well-formed record of options is contained exactly if its checks are guarded.** -/
theorem contained_ofRecord_iff {config : Value} (h : config.WellFormed)
    (hkind : config.IsRecord .versioning) : Contained (ofRecord config) ↔ Guarded (checks config) := by
  have hconfig (name : Text) (hname : name ∈ RecordKind.versioningDefaults.map Prod.fst) :
      config.member name = .ok (config.part name) := h.member_eq (.inl hkind) hname
  unfold ofRecord
  simp only [hconfig "extraction" (by decide), hconfig "error_response" (by decide),
    hconfig "fallback_strategy" (by decide), hconfig "default_handler" (by decide),
    hconfig "validate_handlers" (by decide), hconfig "attach_version_info" (by decide),
    hconfig "require_version" (by decide), Result.ok_bind]
  by_cases hextraction : (config.part "extraction").HasFields .extraction
  · have hmember (name : Text) (hname : name ∈ RecordKind.extractionDefaults.map Prod.fst) :
        (config.part "extraction").member name = .ok ((config.part "extraction").part name) :=
      (h.part _).member_eq hextraction hname
    simp only [hmember "sources" (by decide), hmember "custom" (by decide), hmember "header" (by decide),
      hmember "query" (by decide), hmember "path" (by decide), Result.ok_bind]
    simp only [checks, Guarded, and_iff_right hextraction, true_and, implies_true, and_true]
    -- one row of the table after another, each in front of the rest
    refine contained_sources_row fun sources c => ?_
    refine contained_names_row ((h.part _).part _) ((h.part _).part _) fun t u => ?_
    refine contained_errors_row (h.part _) fun herrors m n i hook => ?_
    have herror (name : Text) (hname : name ∈ RecordKind.errorResponseDefaults.map Prod.fst) :
        (config.part "error_response").member name
          = .ok ((config.part "error_response").part name) :=
      (h.part _).member_eq herrors hname
    simp only [herror "missing_version_message" (by decide),
      herror "version_not_found_message" (by decide), herror "include_requested_version" (by decide),
      Result.ok_bind]
    refine contained_strategy_row fun s => ?_
    refine contained_bind_iff_imp contained_callableOf ?_ fun handler => ?_
    · simp only [callableOf_eq_ok_iff, HasCallable]
    · exact contained_path_row ((h.part _).part _) fun pattern => contained_ok _
  · -- the first field that is read is one that no other section has
    refine iff_of_false (fun hcontained => ?_) fun hguarded => hextraction hguarded.1.1
    obtain ⟨w, hw⟩ := contained_member_iff.mp (contained_bind_iff.mp hcontained).1
    exact hextraction
      ((h.part _).hasFields_of_member hw (by decide) (by decide) fun kind => by
        cases kind <;> first | decide | exact nofun)

/-- **Options laid over the defaults are contained exactly if every mapping that merging reaches has texts for
its keys, and the checks of what they are merged into are guarded.** Otherwise something escapes that is no
failure of configuration. -/
theorem contained_resolve_iff {options : Value} (h : options.WellFormed) :
    Contained (resolve options defaultOptions) ↔
      (∀ reached, Options.Reaches defaultOptions "options" options reached →
        ∀ entry ∈ reached, ∃ t, entry.1 = .text t) ∧
      ∀ config, Options.merge defaultOptions "options" options = .ok config → Guarded (checks config) := by
  obtain ⟨fields, hfields⟩ : defaultOptions.IsRecord .versioning := ⟨_, rfl⟩
  have hdefaults := wellFormed_defaultOptions
  rw [hfields] at hdefaults ⊢
  rw [resolve, contained_bind_iff, Options.contained_merge_iff (hfields ▸ Options.isClassless_defaultOptions)]
  refine and_congr_right fun _ => forall_congr' fun config => imp_congr_right fun hconfig => ?_
  obtain ⟨hwf, hkind⟩ := Options.wellFormed_of_merge hdefaults h hconfig
  exact contained_ofRecord_iff hwf hkind

/-- A strategy that is known is guarded, as is everything that is left as it is. -/
theorem guarded_of_latest :
    (∀ reached, Options.Reaches defaultOptions "options"
        (.dict [(.text "fallback_strategy", .text "latest")]) reached →
      ∀ entry ∈ reached, ∃ t, entry.1 = .text t) ∧
    ∀ config, Options.merge defaultOptions "options"
        (.dict [(.text "fallback_strategy", .text "latest")]) = .ok config →
      Guarded (checks config) := by
  have hwf : (Value.dict [(.text "fallback_strategy", .text "latest")]).WellFormed :=
    .dict (List.forall_mem_singleton.mpr (.leaf nofun nofun))
  exact (contained_resolve_iff hwf).mp (.inl ⟨_, rfl⟩)

/-- A list in place of a strategy cannot be looked up, and this is what is said instead of its being none. -/
theorem not_contained_of_list : ¬ ∀ options : Value, options.WellFormed →
    Contained (resolve options defaultOptions) := by
  intro h
  have hlist : resolve (.dict [(.text "fallback_strategy", .list [.text "latest"])]) defaultOptions
      = .error (.unhashable "list") := rfl
  have hcontained := h (.dict [(.text "fallback_strategy", .list [.text "latest"])])
    (.dict (List.forall_mem_singleton.mpr (.leaf nofun nofun)))
  rw [hlist, contained_error_iff] at hcontained
  obtain ⟨reason, hreason⟩ := hcontained
  cases hreason

end Policy

end SemverDispatch
