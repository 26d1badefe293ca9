import SemverDispatch.Proofs.Canonical
import SemverDispatch.Proofs.FirstSource
import SemverDispatch.Proofs.Matching

/-!
# The version segment of a path

What the default pattern finds in a path. A segment text is one to three runs of decimal digits of any script, with a
point between neighbours (`IsSegment`), and a path is split at a segment if it stands behind `/v` and before `/`
(`SplitsAt`). The pattern finds the segment text of the leftmost such split, and nothing if there is none
(`pathVersion_versionSegment`).

This grammar is not that of versions. It has the digits of all scripts and runs of any length, so a segment text need
not be a version, and a request that names such a path is refused.
-/

namespace SemverDispatch

/-! ## Digits -/

/-- A number that a table covers is in one of its runs. -/
theorem RangeTable.exists_of_covers {table : RangeTable} {n : Nat} (h : table.covers n = true) :
    ∃ run ∈ table, run.1 ≤ n ∧ n ≤ run.2 := by
  induction table with
  | nil => cases h
  | cons run rest ih =>
    obtain ⟨first, last⟩ := run
    rw [covers] at h
    split at h
    · cases h
    · rename_i hfirst
      rcases Bool.or_eq_true_iff.mp h with hlast | hrest
      · exact ⟨_, List.mem_cons_self .., Nat.le_of_not_lt hfirst, of_decide_eq_true hlast⟩
      · obtain ⟨run, hrun, hbounds⟩ := ih hrest
        exact ⟨run, List.mem_cons_of_mem _ hrun, hbounds⟩

namespace CodePoint

variable {c : CodePoint}

/-- No digit is blank. -/
theorem not_isBlank_of_isDigit (h : c.isDigit = true) : c.isBlank = false := by
  have hapart : ∀ digits ∈ digitTable, ∀ blanks ∈ blankTable, digits.2 < blanks.1 ∨ blanks.2 < digits.1 := by
    decide
  rw [← Bool.not_eq_true]
  intro hblank
  obtain ⟨digits, hdigits, hle, hge⟩ := RangeTable.exists_of_covers h
  obtain ⟨blanks, hblanks, hle', hge'⟩ := RangeTable.exists_of_covers hblank
  have hdisjoint := hapart digits hdigits blanks hblanks
  omega

theorem isAsciiDigit_iff : c.isAsciiDigit = true ↔ 0x30 ≤ c.value ∧ c.value ≤ 0x39 := by
  simp [isAsciiDigit, asciiDigit?]

end CodePoint

/-! ## Segment texts -/

/-- A run of decimal digits of any script, at least one. -/
def IsDigitRun (run : Text) : Prop := run ≠ [] ∧ ∀ c ∈ run, c.isDigit = true

/-- A segment text is made of runs of digits: one to three of them, with a point between neighbours. -/
structure IsSegment (s : Text) (runs : List Text) : Prop where
  /-- there is a run -/
  ne_nil : runs ≠ []
  /-- there are three at most -/
  length_le : runs.length ≤ 3
  /-- all are runs of digits -/
  isRun : ∀ run ∈ runs, IsDigitRun run
  /-- points are between them and nothing else -/
  joined : s = Text.join [.char '.'] runs

namespace IsSegment

variable {s : Text} {runs : List Text}

theorem eq_point_or_isDigit (h : IsSegment s runs) {c : CodePoint} (hc : c ∈ s) :
    c = .char '.' ∨ c.isDigit = true := by
  rw [h.joined] at hc
  rcases Text.eq_mark_or_mem_of_mem_join hc with rfl | ⟨run, hrun, hmem⟩
  · exact .inl rfl
  · exact .inr ((h.isRun run hrun).2 c hmem)

theorem ne_empty (h : IsSegment s runs) : s ≠ [] := by
  obtain ⟨run, others, rfl⟩ := List.exists_cons_of_ne_nil h.ne_nil
  obtain ⟨c, digits, rfl⟩ := List.exists_cons_of_ne_nil (h.isRun run (List.mem_cons_self ..)).1
  rw [h.joined, Text.join_cons]
  exact List.cons_ne_nil _ _

/-- A segment text has no blanks to take off. -/
theorem strip_eq (h : IsSegment s runs) : s.strip = s := by
  refine Text.strip_of_not_isBlank fun c hc => ?_
  rcases h.eq_point_or_isDigit hc with rfl | hdigit
  · rfl
  · exact CodePoint.not_isBlank_of_isDigit hdigit

theorem clean_eq (h : IsSegment s runs) : Reader.clean s = some s := by
  rw [Reader.clean, h.strip_eq, if_neg h.ne_empty]

/-- A segment text ends where a slash comes. -/
theorem slash_not_mem (h : IsSegment s runs) : .char '/' ∉ s := by
  intro hmem
  rcases h.eq_point_or_isDigit hmem with heq | hdigit
  · exact absurd heq (by decide)
  · exact absurd hdigit (by decide)

theorem splitOn_eq (h : IsSegment s runs) : Text.splitOn (.char '.') s = runs := by
  rw [h.joined]
  refine Text.splitOn_join h.ne_nil fun run hrun hmem => ?_
  exact absurd ((h.isRun run hrun).2 _ hmem) (by decide)

/-- **A segment text is a version exactly if its digits are those of ASCII and its runs are not too long.** -/
theorem exists_parse?_iff (h : IsSegment s runs) : (∃ v, Version.parse? s = some v) ↔
    ∀ run ∈ runs, (∀ c ∈ run, c.isAsciiDigit = true) ∧ run.length ≤ 16 := by
  simp only [Version.parse?_eq_some_iff, h.strip_eq, CodePoint.isAsciiDigit_iff]
  constructor
  · rintro ⟨_, runs', hspells, -⟩ run hrun
    obtain rfl : runs' = runs := hspells.splitOn_eq.symm.trans h.splitOn_eq
    exact ⟨(hspells.isRun run hrun).digit, (hspells.isRun run hrun).length_le⟩
  · intro hshort
    exact ⟨_, runs, ⟨h.ne_nil, h.length_le,
      fun run hrun => ⟨(h.isRun run hrun).1, (hshort run hrun).2, (hshort run hrun).1⟩, h.joined⟩, rfl⟩

end IsSegment

/-! ## The ways of the pattern -/

namespace Pattern

variable {flags : List Flag}

theorem ways_digits (hcase : .ignoreCase ∉ flags) (hunicode : .unicode ∈ flags) :
    digits.ways flags = .along IsDigitRun := by
  have htest (c : CodePoint) : inSet flags false [.shorthand .digit false] c = c.isDigit := by
    simp [inSet, amongMembers, SetItem.holds, Shorthand.admits, Shorthand.holds, Node.casing_of_notMem hcase,
      hunicode]
  have hways : digits.ways flags =
      .taking (inSet flags false [.shorthand .digit false]) 1 (·.furthest none) := rfl
  rw [hways, Ways.taking_furthest]
  congr 1
  funext w
  simp only [htest, IsDigitRun, Nat.succ_le_iff, List.length_pos_iff, reduceCtorEq, false_implies, implies_true,
    true_and]

/-- A point and a run of digits, or nothing. -/
def IsOptionalPart (part : Text) : Prop := part = [] ∨ ∃ run, IsDigitRun run ∧ part = .char '.' :: run

theorem ways_optionalPart (hcase : .ignoreCase ∉ flags) (hunicode : .unicode ∈ flags) :
    optionalPart.ways flags = .along IsOptionalPart := by
  have hbody : (Node.seq (.point (.char '.')) digits).ways flags =
      .along fun w => ∃ u v, u = [.char '.'] ∧ IsDigitRun v ∧ w = u ++ v := by
    rw [Node.ways, Node.ways_point hcase, ways_digits hcase hunicode, Ways.andThen_along]
  funext here e next e'
  rw [optionalPart, Node.ways_optional rfl, hbody]
  refine propext ⟨?_, ?_⟩
  · rintro (⟨rfl, rfl⟩ | ⟨⟨_, ⟨_, run, rfl, hrun, rfl⟩, hw⟩, rfl⟩)
    · exact ⟨⟨[], .inl rfl, .nil _⟩, rfl⟩
    · exact ⟨⟨_, .inr ⟨run, hrun, rfl⟩, hw⟩, rfl⟩
  · rintro ⟨⟨_, rfl | ⟨run, hrun, rfl⟩, hw⟩, rfl⟩
    · cases hw
      exact .inl ⟨rfl, rfl⟩
    · exact .inr ⟨⟨_, ⟨_, run, rfl, hrun, rfl⟩, hw⟩, rfl⟩

/-- A run of digits and two parts that may be missing are a segment text. -/
theorem isSegment_iff {s : Text} : (∃ u v, IsDigitRun u ∧
    (∃ x y, IsOptionalPart x ∧ IsOptionalPart y ∧ v = x ++ y) ∧ s = u ++ v) ↔ ∃ runs, IsSegment s runs := by
  constructor
  · rintro ⟨u, _, hu, ⟨_, _, rfl | ⟨run, hrun, rfl⟩, rfl | ⟨run', hrun', rfl⟩, rfl⟩, rfl⟩
    · exact ⟨[u], List.cons_ne_nil _ _, by simp, by simp [hu], by simp [Text.join]⟩
    · exact ⟨[u, run'], List.cons_ne_nil _ _, by simp, by simp [hu, hrun'], by simp [Text.join]⟩
    · exact ⟨[u, run], List.cons_ne_nil _ _, by simp, by simp [hu, hrun], by simp [Text.join]⟩
    · exact ⟨[u, run, run'], List.cons_ne_nil _ _, by simp, by simp [hu, hrun, hrun'], by simp [Text.join]⟩
  · rintro ⟨runs, hne, hle, hruns, rfl⟩
    rcases runs with _ | ⟨u, _ | ⟨run, _ | ⟨run', _ | ⟨run'', others⟩⟩⟩⟩
    · exact absurd rfl hne
    · exact ⟨u, [], hruns u (by simp), ⟨[], [], .inl rfl, .inl rfl, rfl⟩, by simp [Text.join]⟩
    · exact ⟨u, .char '.' :: run, hruns u (by simp),
        ⟨.char '.' :: run, [], .inr ⟨run, hruns run (by simp), rfl⟩, .inl rfl, by simp⟩, by simp [Text.join]⟩
    · exact ⟨u, .char '.' :: run ++ .char '.' :: run', hruns u (by simp),
        ⟨.char '.' :: run, .char '.' :: run', .inr ⟨run, hruns run (by simp), rfl⟩,
          .inr ⟨run', hruns run' (by simp), rfl⟩, rfl⟩, by simp [Text.join]⟩
    · -- four runs are too many
      simp only [List.length_cons] at hle
      omega

/-- **The pattern matches a segment text behind `/v` and before `/`**, and keeps where it begins and ends. -/
theorem matches_versionSegment_iff {here next : Cursor} {edges : Edges} :
    versionSegment.Matches here next edges ↔ ∃ first last s runs, here.Passes "/v" first ∧ IsSegment s runs ∧
      first.Passes s last ∧ last.Passes "/" next ∧ edges = [some first, some last] := by
  have hcase : .ignoreCase ∉ versionSegment.flags := by decide
  have hunicode : .unicode ∈ versionSegment.flags := by decide
  have hbody : (Node.sequence [digits, optionalPart, optionalPart]).ways versionSegment.flags =
      .along fun s => ∃ runs, IsSegment s runs := by
    simp only [Node.sequence, Node.ways, ways_digits hcase hunicode, ways_optionalPart hcase hunicode,
      Ways.andThen_along, isSegment_iff]
  have htree : versionSegment.tree.ways versionSegment.flags =
      ((Node.point (.char '/')).ways versionSegment.flags).andThen
        (((Node.point (.char 'v')).ways versionSegment.flags).andThen
          (((Node.group 1 (.sequence [digits, optionalPart, optionalPart])).ways versionSegment.flags).andThen
            ((Node.point (.char '/')).ways versionSegment.flags))) := rfl
  rw [Matches, htree, Node.ways_point hcase, Node.ways_point hcase]
  constructor
  · rintro ⟨slash, _, ⟨⟨_, rfl, hslash⟩, rfl⟩, first, _, ⟨⟨_, rfl, hv⟩, rfl⟩, last, _, ⟨inside, hinside, rfl⟩,
      ⟨⟨_, rfl, hend⟩, rfl⟩⟩
    rw [hbody] at hinside
    obtain ⟨⟨s, ⟨runs, hruns⟩, hs⟩, rfl⟩ := hinside
    exact ⟨first, last, s, runs, Cursor.passes_append_iff.mpr ⟨slash, hslash, hv⟩, hruns, hs, hend, rfl⟩
  · rintro ⟨first, last, s, runs, hstart, hruns, hs, hend, rfl⟩
    obtain ⟨slash, hslash, hv⟩ := Cursor.passes_append_iff.mp
      (show here.Passes ([.char '/'] ++ [.char 'v']) first from hstart)
    refine ⟨slash, [], ⟨⟨_, rfl, hslash⟩, rfl⟩, first, [], ⟨⟨_, rfl, hv⟩, rfl⟩,
      last, [some first, some last], ⟨[some first], ?_, rfl⟩, ⟨⟨_, rfl, hend⟩, rfl⟩⟩
    rw [hbody]
    exact ⟨⟨s, ⟨runs, hruns⟩, hs⟩, rfl⟩

end Pattern

/-! ## Paths -/

/-- A path is split at a segment text: behind `before` and `/v`, and before `/`. -/
def SplitsAt (t before s : Text) : Prop :=
  ∃ runs after, IsSegment s runs ∧ t = before ++ "/v" ++ s ++ "/" ++ after

/-- It is split there, and nowhere further to the left. -/
structure SplitsFirst (t before s : Text) : Prop where
  /-- it is split -/
  splits : SplitsAt t before s
  /-- what is before is the shortest -/
  shortest : ∀ before' s', SplitsAt t before' s' → before.length ≤ before'.length

section Paths

variable {engine : Engine} {t before before' s s' : Text}

/-- There is one segment text at most behind a text. -/
theorem SplitsAt.unique (h : SplitsAt t before s) (h' : SplitsAt t before s') : s = s' := by
  obtain ⟨runs, after, hruns, rfl⟩ := h
  obtain ⟨runs', after', hruns', heq⟩ := h'
  have htake {s : Text} {runs : List Text} (hruns : IsSegment s runs) (after : Text) :
      (s ++ "/" ++ after).takeWhile (· ≠ .char '/') = s := by
    rw [List.append_assoc, List.takeWhile_append_of_pos]
    · exact (congrArg (s ++ ·) rfl).trans (List.append_nil s)
    · intro c hc
      exact decide_eq_true fun heq => hruns.slash_not_mem (heq ▸ hc)
  have hrest : s ++ "/" ++ after = s' ++ "/" ++ after' := by
    simpa only [List.append_assoc, List.append_cancel_left_eq] using heq
  rw [← htake hruns after, hrest, htake hruns' after']

theorem SplitsFirst.unique (h : SplitsFirst t before s) (h' : SplitsFirst t before' s') : s = s' := by
  have hlength : before.length = before'.length :=
    Nat.le_antisymm (h.shortest _ _ h'.splits) (h'.shortest _ _ h.splits)
  have hbefore : before = before' := by
    obtain ⟨_, _, -, ht⟩ := h.splits
    obtain ⟨_, _, -, ht'⟩ := h'.splits
    rw [ht] at ht'
    simp only [List.append_assoc] at ht'
    exact (List.append_inj ht' hlength).1
  exact (hbefore ▸ h.splits).unique h'.splits

/-- A path is split where the pattern matches, at the text of its group. -/
theorem splitsAt_iff : SplitsAt t before s ↔ ∃ here first last next, (Cursor.start t).Passes before here ∧
    Pattern.versionSegment.Matches here next [some first, some last] ∧ first.Passes s last := by
  simp only [Pattern.matches_versionSegment_iff]
  constructor
  · rintro ⟨runs, after, hruns, rfl⟩
    have hahead : (Cursor.start (before ++ "/v" ++ s ++ "/" ++ after)).ahead =
        (before ++ ("/v" ++ (s ++ "/"))) ++ after := by simp [Cursor.start]
    obtain ⟨next, hnext⟩ := Cursor.exists_passes hahead
    obtain ⟨here, hbefore, hnext⟩ := Cursor.passes_append_iff.mp hnext
    obtain ⟨first, hstart, hnext⟩ := Cursor.passes_append_iff.mp hnext
    obtain ⟨last, hs, hend⟩ := Cursor.passes_append_iff.mp hnext
    exact ⟨here, first, last, next, hbefore, ⟨first, last, s, runs, hstart, hruns, hs, hend, rfl⟩, hs⟩
  · rintro ⟨here, first, last, next, hbefore, ⟨_, _, s', runs, hstart, hruns, hs', hend, heq⟩, hs⟩
    obtain ⟨rfl, rfl⟩ : first = _ ∧ last = _ := by simpa using heq
    obtain rfl := hs.text_unique hs'
    refine ⟨runs, next.ahead, hruns, ?_⟩
    have ht : t = before ++ here.ahead := hbefore.ahead_eq
    rw [ht, hstart.ahead_eq, hs.ahead_eq, hend.ahead_eq]
    simp only [List.append_assoc]

/-- What the first group keeps is the text that it passes, and it does not end before it begins. -/
theorem group_of_passes {found : Match} {first last : Cursor} (hgroups : found.groups = 1)
    (hedges : found.edges = [some first, some last]) (hs : first.Passes s last) :
    found.isCrossed = false ∧ found.group? 1 = some (some s) := by
  have hspan : found.edges.span? 1 = some (first, last) := by rw [hedges]; rfl
  constructor
  · have hposition := hs.position_eq
    have hcrossed : found.edges.isCrossed 1 = false := by
      rw [Edges.isCrossed, hspan]
      exact decide_eq_false (by omega)
    rw [Match.isCrossed, hgroups]
    simpa using hcrossed
  · rw [Match.group?, hgroups, if_pos (Nat.le_refl 1), Edges.text?_of_passes hspan hs]

/-- **Either a path is split and the segment text of the leftmost split is found, or it is not and nothing is.** -/
theorem pathVersion_cases (engine : Engine) (t : Text) :
    (∃ before s, SplitsFirst t before s ∧ Reader.pathVersion engine .versionSegment t = .ok (some s)) ∨
      (∀ before s, ¬ SplitsAt t before s) ∧ Reader.pathVersion engine .versionSegment t = .ok none := by
  have hplain : Pattern.versionSegment.IsPlain := ⟨by decide, rfl⟩
  cases hsearch : Pattern.versionSegment.search engine t with
  | none =>
    refine .inr ⟨fun before s hsplits => ?_, by rw [Reader.pathVersion, Reader.firstGroup, hsearch]; rfl⟩
    obtain ⟨here, first, last, next, hbefore, hmatches, -⟩ := splitsAt_iff.mp hsplits
    exact (Pattern.search_eq_none_iff hplain).mp hsearch before here hbefore next _ hmatches
  | some found =>
    obtain ⟨hgroups, before, here, next, hbefore, hmatches, hfirst⟩ := Pattern.isLeftmost_of_search hplain hsearch
    obtain ⟨first, last, s, runs, -, hruns, hs, -, hedges⟩ := Pattern.matches_versionSegment_iff.mp hmatches
    refine .inl ⟨before, s, ⟨?_, fun before' s' hsplits => ?_⟩, ?_⟩
    · exact splitsAt_iff.mpr ⟨here, first, last, next, hbefore, hedges ▸ hmatches, hs⟩
    · obtain ⟨there, first', last', next', hbefore', hmatches', -⟩ := splitsAt_iff.mp hsplits
      exact Nat.le_of_not_lt fun hlt => hfirst before' there hbefore' hlt next' _ hmatches'
    · obtain ⟨hcrossed, hgroup⟩ := group_of_passes hgroups hedges hs
      have hkept : Reader.firstGroup engine .versionSegment t = .ok (some s) := by
        rw [Reader.firstGroup, hsearch]
        dsimp only
        rw [hcrossed, if_neg Bool.false_ne_true, hgroup]
      rw [Reader.pathVersion, hkept]
      exact congrArg Except.ok hruns.clean_eq

theorem pathVersion_eq_some_iff :
    Reader.pathVersion engine .versionSegment t = .ok (some s) ↔ ∃ before, SplitsFirst t before s := by
  rcases pathVersion_cases engine t with ⟨before, s', hfirst, hfound⟩ | ⟨hnot, hfound⟩
  · rw [hfound, Except.ok.injEq, Option.some.injEq]
    constructor
    · rintro rfl
      exact ⟨before, hfirst⟩
    · rintro ⟨before', hfirst'⟩
      exact hfirst.unique hfirst'
  · rw [hfound]
    exact iff_of_false nofun fun ⟨before, hfirst⟩ => hnot before s hfirst.splits

theorem pathVersion_eq_none_iff :
    Reader.pathVersion engine .versionSegment t = .ok none ↔ ∀ before s, ¬ SplitsAt t before s := by
  rcases pathVersion_cases engine t with ⟨before, s, hfirst, hfound⟩ | ⟨hnot, hfound⟩
  · rw [hfound]
    exact iff_of_false nofun fun hnot => hnot before s hfirst.splits
  · exact iff_of_true hfound hnot

end Paths

/-! ## Requests -/

section Requests

variable {r : Router} {host : Host} {request : Request} {before behind : List Source} {t s : Text}

/-- A request with a segment text in its path that is no version is answered by the error for that, if the path is the
first source that gives anything. -/
theorem Router.dispatch_of_invalidPath (hpattern : r.policy.pattern = .versionSegment)
    (hpath : request.path = .text t) (hpreset : ∀ u, ¬ request.version.CleansTo u)
    (hreaches : r.policy.Reaches host request before .path behind)
    (hfound : Reader.pathVersion host.engine .versionSegment t = .ok (some s))
    (hparse : Version.parse? s = none) :
    r.dispatch host request = ⟨r.policy.calls (before ++ [.path]) ++
      (r.answerError host request (r.invalid s)).trace, (r.answerError host request (r.invalid s)).result⟩ := by
  have hgroups : r.policy.pattern.groups ≠ 0 := by
    rw [hpattern]
    exact Nat.one_ne_zero
  have hgives : Source.path.Gives r.policy host request s := by
    rw [Source.gives_iff, Source.map_holds_path hgroups, hpattern, hpath]
    exact hfound
  have hextract : (Extractor.ofPolicy r.policy).extract host request =
      ⟨r.policy.calls (before ++ [.path]), .ok (some ⟨s, .source .path⟩)⟩ := by
    rw [Extractor.extract, Reader.cleanValue_eq_none_iff.mpr hpreset]
    exact Extractor.firstOf_of_gives hgroups hreaches hgives
  rw [dispatch_of_extract_some (congrArg Run.result hextract), hextract, answerVersion_of_parse_none hparse]

end Requests

/-- The default pattern is compiled from its text. -/
theorem compile_versionSegment :
    Pattern.compile [] "/v(\\d+(?:\\.\\d+)?(?:\\.\\d+)?)/" = .ok .versionSegment := rfl

/-- **The default pattern finds the segment text of the leftmost split of a path**, and nothing exactly if the path is
not split at all. Behind the same text there is only one. What is found is a version exactly if its digits are those of
ASCII and no run has more than sixteen; if not, and if the path is the first source that gives anything, the request is
answered by the error for that, which a hook sees first. -/
theorem pathVersion_versionSegment (engine : Engine) (t : Text) :
    (∀ s, Reader.pathVersion engine .versionSegment t = .ok (some s) ↔ ∃ before, SplitsFirst t before s) ∧
    (Reader.pathVersion engine .versionSegment t = .ok none ↔ ∀ before s, ¬ SplitsAt t before s) ∧
    (∀ before s s', SplitsAt t before s → SplitsAt t before s' → s = s') ∧
    ∀ s, Reader.pathVersion engine .versionSegment t = .ok (some s) →
      (∀ runs, IsSegment s runs → ((∃ v, Version.parse? s = some v) ↔
        ∀ run ∈ runs, (∀ c ∈ run, c.isAsciiDigit = true) ∧ run.length ≤ 16)) ∧
      (Version.parse? s = none → ∀ (r : Router) (host : Host) (request : Request) (before behind : List Source),
        r.policy.pattern = .versionSegment → request.path = .text t → (∀ u, ¬ request.version.CleansTo u) →
        r.policy.Reaches host request before .path behind →
        r.dispatch host request = ⟨r.policy.calls (before ++ [.path]) ++
          (r.answerError host request (r.invalid s)).trace, (r.answerError host request (r.invalid s)).result⟩ ∧
        (r.invalid s).kind = .invalidVersionFormat ∧
        ((∀ c arguments, ∃ v, host.outcome c arguments = .ok v) →
          (Verdict.refused (r.invalid s)).Ends r host request (r.policy.calls (before ++ [.path])).calls
            (r.dispatch host request))) := by
  refine ⟨fun s => pathVersion_eq_some_iff, pathVersion_eq_none_iff, fun before s s' h h' => h.unique h',
    fun s hfound => ⟨fun runs hruns => hruns.exists_parse?_iff, ?_⟩⟩
  intro hparse r host request before behind hpattern hpath hpreset hreaches
  -- the pattern finds the same whatever searches for it
  have hsame : Reader.pathVersion host.engine .versionSegment t = .ok (some s) :=
    pathVersion_eq_some_iff.mpr (pathVersion_eq_some_iff.mp hfound)
  have hdispatch := Router.dispatch_of_invalidPath hpattern hpath hpreset hreaches hsame hparse
  refine ⟨hdispatch, rfl, fun hanswers => ?_⟩
  rw [hdispatch]
  exact Router.ends_behind (Router.ends_refused (Router.inText_invalid s) nofun hanswers) _

/-- A request with two candidates in its path: four runs, and an Arabic digit. -/
def arabicSegment : Request := .build (.text "GET") (.text "/v1.2.3.4/v٣/") ∅ (.ofText []) .null

/-- Four runs are no segment text, so the digit is found. As it is none of ASCII, the request is refused. -/
theorem pathVersion_versionSegment_arabic : ∃ r : Router,
    Router.build (.dict [(.text "1", .function 0)])
      (.dict [(.text "extraction", .dict [(.text "sources", .list [.text "path"])])]) = .ok r ∧
    (∃ before, SplitsFirst "/v1.2.3.4/v٣/" before "٣") ∧
    (Verdict.refused (r.invalid "٣")).Ends r (.direct fun _ _ => .ok .null) arabicSegment []
      (r.dispatch (.direct fun _ _ => .ok .null) arabicSegment) := by
  obtain ⟨r, hr, hpattern, hsources⟩ : ∃ r : Router,
      Router.build (.dict [(.text "1", .function 0)])
        (.dict [(.text "extraction", .dict [(.text "sources", .list [.text "path"])])]) = .ok r ∧
      r.policy.pattern = .versionSegment ∧ r.policy.sources = [.path] := ⟨_, rfl, rfl, rfl⟩
  obtain ⟨hfirst, -, -, hsegment⟩ := pathVersion_versionSegment .exact "/v1.2.3.4/v٣/"
  have hfound : Reader.pathVersion .exact .versionSegment "/v1.2.3.4/v٣/" = .ok (some "٣") := by
    have hkept : (Reader.pathVersion .exact .versionSegment "/v1.2.3.4/v٣/").toOption = some (some ("٣" : Text)) := by
      decide +kernel
    cases hread : Reader.pathVersion .exact .versionSegment "/v1.2.3.4/v٣/" with
    | error e =>
      rw [hread] at hkept
      cases hkept
    | ok kept =>
      rw [hread] at hkept
      exact congrArg Except.ok (Option.some.inj hkept)
  have hreaches : r.policy.Reaches (.direct fun _ _ => .ok .null) arabicSegment [] .path [] := ⟨hsources, nofun⟩
  have hpreset (u : Text) : ¬ arabicSegment.version.CleansTo u := by
    rintro ⟨raw, hraw, -⟩
    cases hraw
  refine ⟨r, hr, (hfirst _).mp hfound, ?_⟩
  exact ((hsegment _ hfound).2 (by decide) r _ arabicSegment [] [] hpattern rfl hpreset hreaches).2.2
    fun _ _ => ⟨.null, rfl⟩

end SemverDispatch
