import SemverDispatch.Proofs.Result

/-!
# Contained failures

A computation is contained if all that can go wrong in it is reported as a failure of configuration. Checks that
are made one after another are contained in a way of their own: what a check needs, in order not to fail
otherwise, only matters where all checks before it pass. A `Check` is these two conditions, and `Guarded` is the
resulting condition for a row of checks.
-/

namespace SemverDispatch

variable {α β : Type}

/-- A computation gives a result, or it reports a failure of configuration. -/
def Contained (x : Except Failure α) : Prop :=
  (∃ a, x = .ok a) ∨ ∃ reason, x = .error (.configuration reason)

theorem contained_ok (a : α) : Contained (.ok a) := .inl ⟨a, rfl⟩

theorem contained_configuration (reason : Text) :
    Contained (.error (.configuration reason) : Except Failure α) := .inr ⟨reason, rfl⟩

@[simp] theorem contained_error_iff {e : Failure} :
    Contained (.error e : Except Failure α) ↔ ∃ reason, e = .configuration reason := by
  simp [Contained]

/-- Two computations in a row are contained where the first is, and the second behind it. -/
theorem contained_bind_iff {x : Except Failure α} {f : α → Except Failure β} :
    Contained (x >>= f) ↔ Contained x ∧ ∀ a, x = .ok a → Contained (f a) := by
  cases x with
  | ok a => simp [contained_ok]
  | error e => simp

theorem contained_map_iff {x : Except Failure α} {g : α → β} :
    Contained (x.map g) ↔ Contained x := by
  cases x with
  | ok a => exact iff_of_true (contained_ok _) (contained_ok _)
  | error e => simp [Except.map]

/-- A computation for every member of a row is contained where it is for each member that is reached. -/
theorem contained_mapM_iff {f : α → Except Failure β} {as : List α} :
    Contained (as.mapM f) ↔ ∀ before a after, as = before ++ a :: after →
      (∀ b ∈ before, ∃ c, f b = .ok c) → Contained (f a) := by
  induction as with
  | nil =>
    refine iff_of_true (contained_ok []) fun before a after h => ?_
    simp at h
  | cons a rest ih =>
    rw [List.mapM_cons, contained_bind_iff]
    constructor
    · rintro ⟨ha, hrest⟩ before a' after hsplit hbefore
      cases before with
      | nil =>
        obtain ⟨rfl, -⟩ := List.cons.inj hsplit
        exact ha
      | cons b before =>
        obtain ⟨rfl, htail⟩ := List.cons.inj hsplit
        obtain ⟨⟨c, hc⟩, hbefore⟩ := List.forall_mem_cons.mp hbefore
        exact ih.mp (contained_bind_iff.mp (hrest c hc)).1 before a' after htail hbefore
    · -- for the rest of the row, the member in front is one more that passes
      intro h
      refine ⟨h [] a rest rfl nofun, fun c hc => contained_bind_iff.mpr ⟨ih.mpr ?_, fun _ _ => contained_ok _⟩⟩
      intro before a' after hsplit hbefore
      refine h (a :: before) a' after (by rw [hsplit]; rfl) ?_
      exact List.forall_mem_cons.mpr ⟨⟨c, hc⟩, hbefore⟩

/-! ## Rows of checks -/

/-- A check: what it needs in order to be contained, and when it passes. -/
structure Check where
  /-- what it needs -/
  needs : Prop
  /-- when it passes -/
  passes : Prop

/-- Every check of a row that is reached, because all checks before it pass, has what it needs. -/
def Guarded : List Check → Prop
  | [] => True
  | check :: rest => check.needs ∧ (check.passes → Guarded rest)

/-- A check that is always contained only decides whether what is behind it is reached. -/
theorem contained_bind_iff_imp {x : Except Failure α} {f : α → Except Failure β} {passes rest : Prop}
    (hx : Contained x) (hpasses : (∃ a, x = .ok a) ↔ passes) (hf : ∀ a, Contained (f a) ↔ rest) :
    Contained (x >>= f) ↔ (passes → rest) := by
  rw [contained_bind_iff, ← hpasses, forall_exists_index]
  simp only [hf, hx, true_and]

end SemverDispatch
