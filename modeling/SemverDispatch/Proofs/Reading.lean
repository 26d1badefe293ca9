import SemverDispatch.Version.Range

/-!
# What is read from a text

A range that comes from a text is not any range. Its kind is one of the three that have a mark, its
precision is the number of components that the text spells out, between one and three, and a component
that is not spelled out is zero (`Spelled`). The matching of caret ranges below 0.1.0 and the packing of
priorities both lean on this; ranges that are put together by hand need not have it.
-/

namespace SemverDispatch

namespace Version

/-- Exactly the first `written` numbers of a version are spelled out, and the others are zero. -/
structure Spelled (v : Version) (written : Nat) : Prop where
  /-- the first number always is -/
  pos : 1 ≤ written
  /-- there are three -/
  le_three : written ≤ 3
  /-- the second number, if only the first is spelled out -/
  minor : written = 1 → v.minor = 0
  /-- the third number, if it is not spelled out -/
  patch : written ≤ 2 → v.patch = 0

theorem spelled_one (major : Nat) (t : Text) : Spelled ⟨major, 0, 0, t⟩ 1 :=
  ⟨by decide, by decide, fun _ => rfl, fun _ => rfl⟩

theorem spelled_two (major minor : Nat) (t : Text) : Spelled ⟨major, minor, 0, t⟩ 2 :=
  ⟨by decide, by decide, fun h => absurd h (by decide), fun _ => rfl⟩

theorem spelled_three (major minor patch : Nat) (t : Text) : Spelled ⟨major, minor, patch, t⟩ 3 :=
  ⟨by decide, by decide, fun h => absurd h (by decide), fun h => absurd h (by decide)⟩

variable {α β : Type} {f : α → Option β} {as : List α} {bs : List β}

/-- An attempt at every member of a row gives as many results as there are members. -/
theorem length_of_mapM_eq_some (h : as.mapM f = some bs) : bs.length = as.length := by
  induction as generalizing bs with
  | nil =>
    obtain rfl : [] = bs := by simpa using h
    rfl
  | cons a rest ih =>
    rw [List.mapM_cons] at h
    obtain ⟨b, -, htail⟩ := Option.bind_eq_some_iff.mp h
    obtain ⟨bs', hrest, hcons⟩ := Option.bind_eq_some_iff.mp htail
    obtain rfl : b :: bs' = bs := Option.some.inj hcons
    rw [List.length_cons, List.length_cons, ih hrest]

variable {t : Text} {v : Version} {n : Nat}

/-- **What a version text spells out**: as many numbers as points separate, the others being zero. -/
theorem split?_eq_some (h : split? t = some (v, n)) :
    v.raw = t ∧ n = (Text.splitOn (.char '.') t).length ∧ Spelled v n := by
  unfold split? at h
  split at h
  · rename_i major hparts
    obtain ⟨rfl, rfl⟩ := Prod.mk.inj (Option.some.inj h)
    exact ⟨rfl, length_of_mapM_eq_some hparts, spelled_one major t⟩
  · rename_i major minor hparts
    obtain ⟨rfl, rfl⟩ := Prod.mk.inj (Option.some.inj h)
    exact ⟨rfl, length_of_mapM_eq_some hparts, spelled_two major minor t⟩
  · rename_i major minor patch hparts
    obtain ⟨rfl, rfl⟩ := Prod.mk.inj (Option.some.inj h)
    exact ⟨rfl, length_of_mapM_eq_some hparts, spelled_three major minor patch t⟩
  · cases h

end Version

namespace VersionRange

/-- How many numbers a range text spells out. -/
def written (t : Text) : Nat := (Text.splitOn (.char '.') (splitKind t.strip).2).length

variable {t : Text} {r : VersionRange}

/-- The kind that a text starts with is none of the unknown ones. -/
theorem splitKind_ne_unknown (t name : Text) : (splitKind t).1 ≠ .unknown name := by
  unfold splitKind
  split <;> exact fun h => by cases h

/-- **What a range text spells out**: its kind has a mark, and its precision is the number of components
that are written. -/
theorem parse?_eq_some (h : parse? t = some r) :
    (∀ name, r.kind ≠ .unknown name) ∧ r.precision = written t ∧
      r.version.Spelled r.precision := by
  obtain ⟨⟨v, n⟩, hsplit, rfl⟩ := Option.map_eq_some_iff.mp h
  obtain ⟨-, hn, hv⟩ := Version.split?_eq_some hsplit
  exact ⟨splitKind_ne_unknown _, hn, hv⟩

end VersionRange

end SemverDispatch
