import SemverDispatch.Json.Reader
import SemverDispatch.Proofs.Writable

/-!
# How deep values are that are read from JSON

The reader of JSON opens arrays and objects inside each other up to a depth that it is given. What it gives back is
nested as deep at most (`Json.nesting_le_of_read`). The three readers of values call each other with less fuel, so
the claim about all three, `Json.Bounded`, is carried from one fuel to the next.
-/

namespace SemverDispatch

namespace Value

variable {key value : Value} {entries : List (Value × Value)} {depth : Nat}

/-- Putting a value under a key makes nothing deeper than this value and those before. -/
theorem nesting_le_of_mem_insertEntry (hentries : ∀ entry ∈ entries, entry.2.nesting ≤ depth)
    (hvalue : value.nesting ≤ depth) : ∀ entry ∈ insertEntry entries key value, entry.2.nesting ≤ depth := by
  induction entries with
  | nil => exact List.forall_mem_singleton.mpr hvalue
  | cons first rest ih =>
    obtain ⟨hfirst, hrest⟩ := List.forall_mem_cons.mp hentries
    rw [insertEntry]
    split
    · exact List.forall_mem_cons.mpr ⟨hvalue, hrest⟩
    · exact List.forall_mem_cons.mpr ⟨hfirst, ih hrest⟩

end Value

namespace Json

variable {t rest : Text} {v : Value} {entries : List (Value × Value)} {fuel depth : Nat}

theorem nesting_of_readWord (h : readWord t = some (v, rest)) : v.nesting = 0 := by
  have hwords : ∀ entry ∈ words, entry.2.nesting = 0 := by
    simp [words, Value.nesting]
  obtain ⟨entry, hentry, h⟩ := List.exists_of_findSome?_eq_some h
  obtain ⟨after, -, h⟩ := Option.map_eq_some_iff.mp h
  rw [← (Prod.mk.inj h).1]
  exact hwords entry hentry

theorem nesting_of_readMagnitude {negative : Bool} (h : readMagnitude negative t = .ok (v, rest)) : v.nesting = 0 := by
  unfold readMagnitude at h
  split at h
  · cases h
  · dsimp only at h
    split at h
    · split at h
      · cases h
      · obtain ⟨rfl, -⟩ := Prod.mk.inj (Except.ok.inj h)
        rw [Value.nesting]
        all_goals nofun
    · obtain ⟨rfl, -⟩ := Prod.mk.inj (Except.ok.inj h)
      rw [Value.nesting]
      all_goals nofun

/-- What the readers of values give with a given fuel is not nested deeper than is allowed. -/
structure Bounded (fuel : Nat) : Prop where
  /-- a single value is not -/
  value : ∀ {depth t v rest}, readValue fuel depth t = .ok (v, rest) → v.nesting ≤ depth
  /-- the members of an array are not -/
  items : ∀ {depth t items rest}, readItems fuel depth t = .ok (items, rest) → ∀ v ∈ items, v.nesting ≤ depth
  /-- the values of an object are not, if those already read are not -/
  entries : ∀ {depth t entries grown rest}, readEntries fuel depth entries t = .ok (grown, rest) →
    (∀ entry ∈ entries, entry.2.nesting ≤ depth) → ∀ entry ∈ grown, entry.2.nesting ≤ depth

theorem Bounded.readValue_succ (hb : Bounded fuel) (h : readValue (fuel + 1) depth t = .ok (v, rest)) :
    v.nesting ≤ depth := by
  cases t with
  | nil => cases h
  | cons c tail =>
    rw [readValue.eq_def] at h
    dsimp only at h
    split at h
    · -- text
      obtain ⟨read, -, h⟩ := Result.bind_eq_ok_iff.mp h
      obtain ⟨rfl, -⟩ := Prod.mk.inj (Except.ok.inj h)
      exact Nat.zero_le _
    split at h
    · -- an array: none may be opened, or it is empty, or it has members
      split at h
      · cases h
      · rename_i hdepth _
        obtain ⟨rfl, -⟩ := Prod.mk.inj (Except.ok.inj h)
        exact Nat.one_le_iff_ne_zero.mpr hdepth
      · obtain ⟨read, hitems, h⟩ := Result.bind_eq_ok_iff.mp h
        obtain ⟨rfl, -⟩ := Prod.mk.inj (Except.ok.inj h)
        exact Nat.succ_le_succ (Value.nestingAll_le_iff.mpr (hb.items hitems))
    split at h
    · -- an object, likewise
      split at h
      · cases h
      · rename_i hdepth _
        obtain ⟨rfl, -⟩ := Prod.mk.inj (Except.ok.inj h)
        exact Nat.one_le_iff_ne_zero.mpr hdepth
      · obtain ⟨read, hentries, h⟩ := Result.bind_eq_ok_iff.mp h
        obtain ⟨rfl, -⟩ := Prod.mk.inj (Except.ok.inj h)
        exact Nat.succ_le_succ (Value.nestingUnder_le_iff.mpr (hb.entries hentries (List.forall_mem_nil _)))
    split at h
    · -- a word
      rename_i hword
      obtain rfl := Except.ok.inj h
      rw [nesting_of_readWord hword]
      exact Nat.zero_le _
    -- a number, with a sign or without
    split at h
    · rw [nesting_of_readMagnitude h]
      exact Nat.zero_le _
    · rw [nesting_of_readMagnitude h]
      exact Nat.zero_le _

theorem Bounded.readItems_succ {items : List Value} (hb : Bounded fuel)
    (h : readItems (fuel + 1) depth t = .ok (items, rest)) : ∀ v ∈ items, v.nesting ≤ depth := by
  rw [readItems] at h
  obtain ⟨read, hvalue, h⟩ := Result.bind_eq_ok_iff.mp h
  have hfirst := hb.value hvalue
  dsimp only at h
  split at h
  · obtain ⟨rfl, -⟩ := Prod.mk.inj (Except.ok.inj h)
    exact List.forall_mem_singleton.mpr hfirst
  · obtain ⟨others, hothers, h⟩ := Result.bind_eq_ok_iff.mp h
    obtain ⟨rfl, -⟩ := Prod.mk.inj (Except.ok.inj h)
    exact List.forall_mem_cons.mpr ⟨hfirst, hb.items hothers⟩
  · cases h

theorem Bounded.readEntries_succ {grown : List (Value × Value)} (hb : Bounded fuel)
    (h : readEntries (fuel + 1) depth entries t = .ok (grown, rest))
    (hentries : ∀ entry ∈ entries, entry.2.nesting ≤ depth) : ∀ entry ∈ grown, entry.2.nesting ≤ depth := by
  rw [readEntries.eq_def] at h
  dsimp only at h
  split at h
  · obtain ⟨key, -, h⟩ := Result.bind_eq_ok_iff.mp h
    split at h
    · obtain ⟨read, hvalue, h⟩ := Result.bind_eq_ok_iff.mp h
      have hgrown : ∀ entry ∈ Value.insertEntry entries (.text key.1) read.1, entry.2.nesting ≤ depth :=
        Value.nesting_le_of_mem_insertEntry hentries (hb.value hvalue)
      split at h
      · obtain ⟨rfl, -⟩ := Prod.mk.inj (Except.ok.inj h)
        exact hgrown
      · exact hb.entries h hgrown
      · cases h
    · cases h
  · cases h

/-- **What is read is not nested deeper than is allowed.** -/
theorem bounded (fuel : Nat) : Bounded fuel := by
  induction fuel with
  | zero => exact ⟨nofun, nofun, nofun⟩
  | succ fuel ih => exact ⟨ih.readValue_succ, ih.readItems_succ, ih.readEntries_succ⟩

theorem nesting_le_of_read (h : Json.read depth t = .ok v) : v.nesting ≤ depth := by
  obtain ⟨read, hread, h⟩ := Result.bind_eq_ok_iff.mp h
  dsimp only at h
  split at h
  · obtain rfl := Except.ok.inj h
    exact (bounded _).value hread
  · cases h

end Json

end SemverDispatch
