import SemverDispatch.Policy
import SemverDispatch.Proofs.Contained

/-!
# The checks of a policy

For every check of a field, which values pass and what they become, and for which values the check is contained.
Most checks are contained for all values. The exceptions are those that show a value in their message, as it may
hold an integer that cannot be written, the one for the strategy, which looks the value up, and the one for the
pattern, which compiles it.
-/

namespace SemverDispatch

theorem Source.ofName?_eq_some_iff {t : Text} {s : Source} : ofName? t = some s ↔ t = s.name := by
  constructor
  · intro h
    have hname := List.find?_some h
    exact (of_decide_eq_true hname).symm
  · rintro rfl
    exact ofName?_name s

theorem Fallback.ofName?_eq_some_iff {t : Text} {s : Fallback} : ofName? t = some s ↔ t = s.name := by
  constructor
  · intro h
    have hname := List.find?_some h
    exact (of_decide_eq_true hname).symm
  · rintro rfl
    exact ofName?_name s

namespace Policy

variable {v : Value} {reason field : Text}

/-! ## Sources -/

theorem sourceOf_eq_ok_iff {s : Source} : sourceOf v = .ok s ↔ v = .text s.name := by
  have hname : v.text?.bind Source.ofName? = some s ↔ v = .text s.name := by
    simp only [Option.bind_eq_some_iff, Value.text?_eq_some_iff, Source.ofName?_eq_some_iff,
      exists_eq_right]
  rw [← hname, sourceOf]
  cases v.text?.bind Source.ofName? with
  | some s' => simp
  | none =>
    refine iff_of_false (fun h => ?_) nofun
    obtain ⟨_, -, h⟩ := Result.bind_eq_ok_iff.mp h
    cases h

/-- A message that shows a value is contained where the value can be shown. -/
theorem contained_shown_bind_iff {α : Type} {message : Text → Text} :
    Contained (v.shown >>= fun t => (.error (.configuration (message t)) : Except Failure α)) ↔
      v.holdsLarge = false := by
  rw [Value.shown]
  cases v.holdsLarge with
  | true => simp [Failure.configuration]
  | false => simp

theorem contained_sourceOf_iff : Contained (sourceOf v) ↔ v.holdsLarge = false := by
  rw [sourceOf]
  split
  · rename_i s hs
    obtain ⟨t, ht, -⟩ := Option.bind_eq_some_iff.mp hs
    obtain rfl := Value.text?_eq_some_iff.mp ht
    exact iff_of_true (contained_ok s) rfl
  · exact contained_shown_bind_iff

/-- Some sources as their names. -/
def sourceValues (sources : List Source) : List Value := sources.map fun s => .text s.name

theorem mapM_sourceOf_eq_ok_iff {items : List Value} {sources : List Source} :
    items.mapM sourceOf = .ok sources ↔ items = sourceValues sources := by
  rw [Result.mapM_eq_ok_iff, sourceValues]
  simp only [sourceOf_eq_ok_iff]
  rw [← List.forall₂_map_right_iff (R := fun a b => a = b), List.forall₂_eq_eq_eq]

/-- The sources that are accepted are a row of names, of at least one. -/
theorem sourcesOf_eq_ok_iff {sources : List Source} : sourcesOf v = .ok sources ↔
    sources ≠ [] ∧ (v = .list (sourceValues sources) ∨ v = .tuple (sourceValues sources)) := by
  have hnil : sourceValues sources = [] ↔ sources = [] := List.map_eq_nil_iff
  unfold sourcesOf
  split
  · exact iff_of_false nofun nofun
  · refine iff_of_false nofun ?_
    rintro ⟨hne, h | h⟩
    · exact hne (hnil.mp (Value.list.inj h).symm)
    · cases h
  · refine iff_of_false nofun ?_
    rintro ⟨hne, h | h⟩
    · cases h
    · exact hne (hnil.mp (Value.tuple.inj h).symm)
  · rename_i items hne
    rw [mapM_sourceOf_eq_ok_iff]
    constructor
    · rintro rfl
      exact ⟨fun h => hne (by rw [h]; rfl), .inl rfl⟩
    · rintro ⟨-, h | h⟩
      · exact Value.list.inj h
      · cases h
  · rename_i items hne
    rw [mapM_sourceOf_eq_ok_iff]
    constructor
    · rintro rfl
      exact ⟨fun h => hne (by rw [h]; rfl), .inr rfl⟩
    · rintro ⟨-, h | h⟩
      · cases h
      · exact Value.tuple.inj h
  · rename_i hlist htuple
    refine iff_of_false nofun ?_
    rintro ⟨-, h | h⟩
    · exact hlist _ h
    · exact htuple _ h

/-- No item of a row of sources has to be shown that cannot be: none that is reached, because all before it are
sources. -/
def ShowsSources (v : Value) : Prop :=
  ∀ before item after, (v = .list (before ++ item :: after) ∨ v = .tuple (before ++ item :: after)) →
    (∀ w ∈ before, ∃ s : Source, w = .text s.name) → item.holdsLarge = false

theorem contained_sourcesOf_iff : Contained (sourcesOf v) ↔ ShowsSources v := by
  have hrow (items : List Value) : Contained (items.mapM sourceOf) ↔
      ∀ before item after, items = before ++ item :: after →
        (∀ w ∈ before, ∃ s : Source, w = .text s.name) → item.holdsLarge = false := by
    rw [contained_mapM_iff]
    simp only [sourceOf_eq_ok_iff, contained_sourceOf_iff]
  unfold sourcesOf
  split
  · exact iff_of_true (contained_configuration _) fun before item after h => by simp at h
  · exact iff_of_true (contained_configuration _) fun before item after h => by simp at h
  · exact iff_of_true (contained_configuration _) fun before item after h => by simp at h
  · simp [hrow, ShowsSources]
  · simp [hrow, ShowsSources]
  · rename_i hlist htuple
    refine iff_of_true (contained_configuration _) fun before item after h => ?_
    rcases h with h | h
    · exact absurd h (hlist _)
    · exact absurd h (htuple _)

/-! ## Callables -/

theorem callableOf_eq_ok_iff {c : Option Callable} : callableOf reason v = .ok c ↔ v = callableValue c := by
  unfold callableOf
  split
  · rename_i hnull
    obtain rfl := Value.isNull_iff.mp hnull
    cases c with
    | none => exact iff_of_true rfl rfl
    | some d =>
      refine iff_of_false nofun fun h => ?_
      have hd : d.value.isNull = true := congrArg Value.isNull h.symm
      rw [d.isNull_value] at hd
      cases hd
  · rename_i hnull
    cases c with
    | none =>
      refine iff_of_false (fun h => ?_) fun h => hnull (by rw [h]; rfl)
      split at h <;> cases h
    | some d =>
      rw [callableValue, ← Value.callable?_eq_some_iff]
      cases v.callable? <;> simp

theorem contained_callableOf : Contained (callableOf reason v) := by
  rw [callableOf]
  split
  · exact contained_ok _
  · split
    · exact contained_ok _
    · exact contained_configuration _

/-- The callable that finds a version has to be there if it is a source. -/
theorem customOf_eq_ok_iff {sources : List Source} {c : Option Callable} :
    customOf sources v = .ok c ↔ v = callableValue c ∧ (Source.custom ∈ sources → c ≠ none) := by
  unfold customOf
  split
  · rename_i h
    obtain ⟨hmem, hnull⟩ := h
    refine iff_of_false nofun ?_
    rintro ⟨rfl, hsome⟩
    cases c with
    | none => exact hsome hmem rfl
    | some c =>
      rw [callableValue, c.isNull_value] at hnull
      cases hnull
  · rename_i h
    rw [callableOf_eq_ok_iff]
    refine ⟨?_, And.left⟩
    rintro rfl
    refine ⟨rfl, fun hmem hnone => h ⟨hmem, ?_⟩⟩
    rw [hnone]
    rfl

theorem contained_customOf {sources : List Source} : Contained (customOf sources v) := by
  rw [customOf]
  split
  · exact contained_configuration _
  · exact contained_callableOf

/-! ## Names and statuses -/

theorem nameOf_eq_ok_iff {t : Text} : nameOf field v = .ok t ↔ v = .text t ∧ t.isBlank = false := by
  cases v with
  | text u =>
    simp only [nameOf, Value.text?, Value.text.injEq]
    cases hblank : u.isBlank with
    | true =>
      refine iff_of_false (fun h => ?_) ?_
      · cases h
      · rintro ⟨rfl, h⟩
        rw [hblank] at h
        cases h
    | false =>
      rw [if_neg Bool.false_ne_true, Except.ok.injEq]
      refine ⟨?_, And.left⟩
      rintro rfl
      exact ⟨rfl, hblank⟩
  | _ =>
    refine iff_of_false (fun h => ?_) fun h => ?_
    · cases h
    · cases h.1

theorem contained_nameOf : Contained (nameOf field v) := by
  rw [nameOf]
  split
  · split
    · exact contained_configuration _
    · exact contained_ok _
  · exact contained_configuration _

theorem statusOf_eq_ok_iff {n : Nat} : statusOf field v = .ok n ↔ v = .int n ∧ 100 ≤ n ∧ n ≤ 599 := by
  cases v with
  | int m =>
    simp only [statusOf, Value.int.injEq]
    split
    · rw [Except.ok.injEq]
      omega
    · refine iff_of_false nofun ?_
      omega
  | _ => exact iff_of_false nofun nofun

theorem contained_statusOf : Contained (statusOf field v) := by
  unfold statusOf
  split
  · split
    · exact contained_ok _
    · exact contained_configuration _
  · exact contained_configuration _

/-! ## Strategies -/

theorem fallbackOf_eq_ok_iff {s : Fallback} : fallbackOf v = .ok s ↔ v = .text s.name := by
  have hname : v.text?.bind Fallback.ofName? = some s ↔ v = .text s.name := by
    simp only [Option.bind_eq_some_iff, Value.text?_eq_some_iff, Fallback.ofName?_eq_some_iff,
      exists_eq_right]
  rw [← hname, fallbackOf]
  cases v.text?.bind Fallback.ofName? with
  | some s' => simp
  | none =>
    refine iff_of_false (fun h => ?_) nofun
    dsimp only at h
    -- the message is an error, whether it can be shown or not
    split at h
    · obtain ⟨_, -, h⟩ := Result.bind_eq_ok_iff.mp h
      cases h
    · split at h
      · cases h
      · obtain ⟨_, -, h⟩ := Result.bind_eq_ok_iff.mp h
        cases h

/-- A value can be looked up among names: it can be a key, or it is a set. -/
def LooksUp (v : Value) : Prop := v.unhashable? = none ∨ ∃ items, v = .set items

theorem contained_fallbackOf_iff : Contained (fallbackOf v) ↔ LooksUp v ∧ v.holdsLarge = false := by
  rw [fallbackOf]
  split
  · rename_i s hs
    obtain ⟨t, ht, -⟩ := Option.bind_eq_some_iff.mp hs
    obtain rfl := Value.text?_eq_some_iff.mp ht
    exact iff_of_true (contained_ok s) ⟨.inl rfl, rfl⟩
  · dsimp only
    split
    · rw [contained_shown_bind_iff]
      exact ⟨fun h => ⟨.inr ⟨_, rfl⟩, h⟩, And.right⟩
    · rename_i hset
      split
      · rename_i part hpart
        refine iff_of_false (by simp [Failure.configuration]) ?_
        rintro ⟨hnone | ⟨items, hitems⟩, -⟩
        · rw [hpart] at hnone
          cases hnone
        · exact hset items hitems
      · rename_i hnone
        rw [contained_shown_bind_iff]
        exact ⟨fun h => ⟨.inl hnone, h⟩, And.right⟩

/-! ## Patterns -/

/-- A text is a pattern, or something is wrong with it, at a place or as a whole. -/
def Compiles (t : Text) : Prop :=
  ∀ e, Pattern.compile [] t = .error e →
    (∃ reason position, e = .fault reason position) ∨ ∃ reason, e = .unplaced reason

/-- A text passes as a pattern if it compiles and has a group. -/
theorem patternOf_text_eq_ok_iff {t : Text} {p : Pattern} :
    patternOf (.text t) = .ok p ↔ Pattern.compile [] t = .ok p ∧ p.groups ≠ 0 := by
  have hbind : patternOf (.text t) = (Pattern.compile [] t).mapError (patternFailure t) >>= fun q =>
      if q.groups = 0 then
        .error (.configuration "path pattern must contain a capture group for the version")
      else .ok q := rfl
  rw [hbind]
  cases Pattern.compile [] t with
  | error e => exact iff_of_false nofun nofun
  | ok q =>
    simp only [Except.mapError, Result.ok_bind, Except.ok.injEq]
    split
    · rename_i hgroups
      refine iff_of_false nofun ?_
      rintro ⟨rfl, h⟩
      exact h hgroups
    · rename_i hgroups
      rw [Except.ok.injEq]
      refine ⟨?_, And.left⟩
      rintro rfl
      exact ⟨rfl, hgroups⟩

theorem contained_mapError_patternFailure_iff {t : Text} :
    Contained ((Pattern.compile [] t).mapError (patternFailure t)) ↔ Compiles t := by
  unfold Compiles
  cases Pattern.compile [] t with
  | ok p => exact iff_of_true (contained_ok p) nofun
  | error e =>
    simp only [Except.mapError, contained_error_iff, Except.error.injEq, forall_eq']
    cases e with
    | fault reason position => exact iff_of_true ⟨_, rfl⟩ (.inl ⟨_, _, rfl⟩)
    | unplaced reason => exact iff_of_true ⟨_, rfl⟩ (.inr ⟨_, rfl⟩)
    | _ =>
      refine iff_of_false ?_ ?_
      · rintro ⟨_, h⟩
        cases h
      · rintro (⟨_, _, h⟩ | ⟨_, h⟩)
        · cases h
        · cases h

theorem contained_patternOf_iff : Contained (patternOf v) ↔ ∀ t, v = .text t → Compiles t := by
  have hgroups (p : Pattern) : Contained (if p.groups = 0 then
      .error (.configuration "path pattern must contain a capture group for the version")
      else .ok p) := by
    split
    · exact contained_configuration _
    · exact contained_ok _
  cases v with
  | text t =>
    simp only [Value.text.injEq, forall_eq']
    rw [← contained_mapError_patternFailure_iff]
    exact contained_bind_iff.trans (and_iff_left fun p _ => hgroups p)
  | pattern p => exact iff_of_true (hgroups p) nofun
  | _ => exact iff_of_true (contained_configuration _) nofun

end Policy

end SemverDispatch
