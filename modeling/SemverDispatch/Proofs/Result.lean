import Mathlib.Data.List.Forall2
import SemverDispatch.Failure

/-!
# Results

Inversion for computations that may fail: what follows from the result of two computations in a row, or
of one computation for every member of a row. The checks of options and the reading of handlers are made of
these two shapes.
-/

namespace SemverDispatch

namespace Result

variable {ε α β : Type} {x : Except ε α} {f : α → Except ε β} {e : ε} {b : β}

@[simp] theorem ok_bind (a : α) (f : α → Except ε β) : (Except.ok a >>= f) = f a := rfl

@[simp] theorem error_bind (e : ε) (f : α → Except ε β) :
    ((Except.error e : Except ε α) >>= f) = .error e := rfl

/-- Two computations in a row succeed where both do. -/
theorem bind_eq_ok_iff : x >>= f = .ok b ↔ ∃ a, x = .ok a ∧ f a = .ok b := by
  cases x with
  | ok a => simp
  | error e => simp

/-- Two computations in a row fail where the first does, or where the second does behind it. -/
theorem bind_eq_error_iff :
    x >>= f = .error e ↔ x = .error e ∨ ∃ a, x = .ok a ∧ f a = .error e := by
  cases x with
  | ok a => simp
  | error e => simp

theorem map_eq_ok_iff {g : α → β} : x.map g = .ok b ↔ ∃ a, x = .ok a ∧ g a = b := by
  cases x with
  | ok a => simp [Except.map]
  | error e => simp [Except.map]

theorem map_eq_error_iff {g : α → β} : x.map g = .error e ↔ x = .error e := by
  cases x with
  | ok a => simp [Except.map]
  | error e => simp [Except.map]

/-- A computation for every member of a row succeeds where it does for each of them. -/
theorem mapM_eq_ok_iff {as : List α} {bs : List β} :
    as.mapM f = .ok bs ↔ List.Forall₂ (fun a b => f a = .ok b) as bs := by
  induction as generalizing bs with
  | nil =>
    rw [List.mapM_nil, List.forall₂_nil_left_iff]
    exact ⟨fun h => (Except.ok.inj h).symm, fun h => h ▸ rfl⟩
  | cons a rest ih =>
    rw [List.mapM_cons, bind_eq_ok_iff, List.forall₂_cons_left_iff]
    constructor
    · rintro ⟨b, hb, htail⟩
      obtain ⟨bs', hbs', hcons⟩ := bind_eq_ok_iff.mp htail
      exact ⟨b, bs', hb, ih.mp hbs', (Except.ok.inj hcons).symm⟩
    · rintro ⟨b, bs', hb, hbs', rfl⟩
      exact ⟨b, hb, bind_eq_ok_iff.mpr ⟨bs', ih.mpr hbs', rfl⟩⟩

/-- A computation for every member of a row fails as it does for the first member that it fails for. What is behind
that member does not count. -/
theorem mapM_eq_error_iff {as : List α} : as.mapM f = .error e ↔
    ∃ before a after, as = before ++ a :: after ∧ (∀ a' ∈ before, ∃ b, f a' = .ok b) ∧ f a = .error e := by
  induction as with
  | nil =>
    rw [List.mapM_nil]
    exact iff_of_false nofun fun ⟨_, _, _, h, _⟩ => by simp at h
  | cons a rest ih =>
    rw [List.mapM_cons, bind_eq_error_iff]
    constructor
    · rintro (ha | ⟨b, hb, htail⟩)
      · exact ⟨[], a, rest, rfl, List.forall_mem_nil _, ha⟩
      · rcases bind_eq_error_iff.mp htail with hrest | ⟨bs, -, hcons⟩
        · obtain ⟨before, a', after, rfl, hbefore, ha'⟩ := ih.mp hrest
          exact ⟨a :: before, a', after, rfl, List.forall_mem_cons.mpr ⟨⟨b, hb⟩, hbefore⟩, ha'⟩
        · cases hcons
    · rintro ⟨before, a', after, hsplit, hbefore, ha'⟩
      cases before with
      | nil =>
        obtain ⟨rfl, -⟩ := List.cons.inj hsplit
        exact .inl ha'
      | cons first before =>
        obtain ⟨rfl, hrest⟩ := List.cons.inj hsplit
        obtain ⟨⟨b, hb⟩, hbefore⟩ := List.forall_mem_cons.mp hbefore
        exact .inr ⟨b, hb, bind_eq_error_iff.mpr (.inl (ih.mpr ⟨before, a', after, hrest, hbefore, ha'⟩))⟩

/-- A row has results exactly if each of its members has one. -/
theorem exists_mapM_iff {as : List α} :
    (∃ bs, as.mapM f = .ok bs) ↔ ∀ a ∈ as, ∃ b, f a = .ok b := by
  simp only [mapM_eq_ok_iff]
  induction as with
  | nil => exact ⟨fun _ => nofun, fun _ => ⟨[], .nil⟩⟩
  | cons a rest ih =>
    rw [List.forall_mem_cons, ← ih]
    constructor
    · rintro ⟨_, h⟩
      cases h with
      | cons hb hbs => exact ⟨⟨_, hb⟩, _, hbs⟩
    · rintro ⟨⟨b, hb⟩, bs, hbs⟩
      exact ⟨b :: bs, .cons hb hbs⟩

/-- The results of a row are the results of its members. -/
theorem exists_of_mem_mapM {as : List α} {bs : List β} (h : as.mapM f = .ok bs) (hb : b ∈ bs) :
    ∃ a ∈ as, f a = .ok b := by
  rw [mapM_eq_ok_iff] at h
  induction h with
  | nil => cases hb
  | cons ha _ ih =>
    rcases List.mem_cons.mp hb with rfl | hb
    · exact ⟨_, List.mem_cons_self .., ha⟩
    · obtain ⟨a, hmem, ha⟩ := ih hb
      exact ⟨a, List.mem_cons_of_mem _ hmem, ha⟩

/-- A row whose members have results with a property has results with this property. -/
theorem exists_mapM_of_forall {p : α → β → Prop} {as : List α} (h : ∀ a ∈ as, ∃ b, f a = .ok b ∧ p a b) :
    ∃ bs, as.mapM f = .ok bs ∧ List.Forall₂ p as bs := by
  induction as with
  | nil => exact ⟨[], rfl, .nil⟩
  | cons a rest ih =>
    obtain ⟨⟨b, hb, hp⟩, hrest⟩ := List.forall_mem_cons.mp h
    obtain ⟨bs, hbs, hall⟩ := ih hrest
    refine ⟨b :: bs, ?_, .cons hp hall⟩
    rw [List.mapM_cons, hb, hbs]
    rfl

end Result

end SemverDispatch
