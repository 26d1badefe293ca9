import SemverDispatch.Json.Writer
import SemverDispatch.Proofs.Result

/-!
# Values that have JSON

Which values can be written as JSON. `Json.Writable` follows the constructors of values, where integers must not have
too many digits, and `Value.nesting` counts the arrays and objects inside each other. The writer accepts the values
that are writable and not nested deeper than it may go (`exists_write_iff`); of those that are writable it refuses the
others for their depth and for nothing else (`Writable.write_eq_tooDeep`).
-/

namespace SemverDispatch

/-! ## Depth -/

/-- How many arrays and objects are inside each other in a value. -/
def Value.nesting : Value → Nat
  | list items | tuple items => nestingAll items + 1
  | dict entries => nestingUnder entries + 1
  | _ => 0
where
  /-- The deepest of several values. -/
  nestingAll : List Value → Nat
    | [] => 0
    | v :: rest => max v.nesting (nestingAll rest)
  /-- The deepest of the values under keys. -/
  nestingUnder : List (Value × Value) → Nat
    | [] => 0
    | (_, v) :: rest => max v.nesting (nestingUnder rest)

namespace Value

variable {items : List Value} {entries : List (Value × Value)} {depth : Nat}

theorem nestingAll_le_iff : nesting.nestingAll items ≤ depth ↔ ∀ v ∈ items, v.nesting ≤ depth := by
  induction items with
  | nil => exact iff_of_true (Nat.zero_le _) (List.forall_mem_nil _)
  | cons v rest ih => rw [nesting.nestingAll, Nat.max_le, ih, List.forall_mem_cons]

theorem nestingUnder_le_iff :
    nesting.nestingUnder entries ≤ depth ↔ ∀ entry ∈ entries, entry.2.nesting ≤ depth := by
  induction entries with
  | nil => exact iff_of_true (Nat.zero_le _) (List.forall_mem_nil _)
  | cons entry rest ih => rw [nesting.nestingUnder, Nat.max_le, ih, List.forall_mem_cons]

end Value

namespace Json

/-- A value that can be a key in JSON. -/
inductive IsKey : Value → Prop
  /-- nothing -/
  | null : IsKey .null
  /-- a truth value -/
  | bool (b : Bool) : IsKey (.bool b)
  /-- an integer that has not too many digits -/
  | int {n : Int} : Decimal.isTooLarge n = false → IsKey (.int n)
  /-- a floating point number -/
  | float (x : Binary64) : IsKey (.float x)
  /-- text -/
  | text (t : Text) : IsKey (.text t)

/-- A value that has JSON. -/
inductive Writable : Value → Prop
  /-- nothing -/
  | null : Writable .null
  /-- a truth value -/
  | bool (b : Bool) : Writable (.bool b)
  /-- an integer that has not too many digits -/
  | int {n : Int} : Decimal.isTooLarge n = false → Writable (.int n)
  /-- a floating point number, finite or not -/
  | float (x : Binary64) : Writable (.float x)
  /-- text, with surrogates or without -/
  | text (t : Text) : Writable (.text t)
  /-- such values in order -/
  | list {items : List Value} : (∀ v ∈ items, Writable v) → Writable (.list items)
  /-- such values in order, of a fixed number -/
  | tuple {items : List Value} : (∀ v ∈ items, Writable v) → Writable (.tuple items)
  /-- such values under keys -/
  | dict {entries : List (Value × Value)} : (∀ entry ∈ entries, IsKey entry.1) →
      (∀ entry ∈ entries, Writable entry.2) → Writable (.dict entries)

/-- A value that has JSON in which no more than `depth` arrays and objects are inside each other. -/
structure WritableIn (depth : Nat) (v : Value) : Prop where
  /-- it has JSON -/
  writable : Writable v
  /-- it is not too deep -/
  nesting_le : v.nesting ≤ depth

variable {v : Value} {items : List Value} {entries : List (Value × Value)} {depth : Nat}

/-! ## One step of the writer -/

theorem exists_integer_iff {n : Int} :
    (∃ t, integer n = .ok t) ↔ Decimal.isTooLarge n = false := by
  unfold integer
  cases Decimal.isTooLarge n <;> simp

/-- What becomes a key is what can be one. -/
theorem exists_key_iff : (∃ t, key v = .ok t) ↔ IsKey v := by
  constructor
  · rintro ⟨t, h⟩
    cases v with
    | null => exact .null
    | bool b => exact .bool b
    | int n => exact .int (exists_integer_iff.mp ⟨t, h⟩)
    | float x => exact .float x
    | text t => exact .text t
    | _ => cases h
  · rintro (_ | ⟨b⟩ | ⟨hn⟩ | ⟨x⟩ | ⟨t⟩)
    · exact ⟨_, rfl⟩
    · exact ⟨_, rfl⟩
    · exact exists_integer_iff.mpr hn
    · exact ⟨_, rfl⟩
    · exact ⟨_, rfl⟩

/-- An entry as JSON. -/
def writeEntry (depth : Nat) (entry : Value × Value) : Except WriteError Text := do
  let name ← key entry.1
  let t ← write depth entry.2
  return string name ++ .char ':' :: t

theorem exists_writeEntry_iff {entry : Value × Value} : (∃ t, writeEntry depth entry = .ok t) ↔
    (∃ t, key entry.1 = .ok t) ∧ ∃ t, write depth entry.2 = .ok t := by
  unfold writeEntry
  cases key entry.1 <;> cases write depth entry.2 <;> simp

theorem writeAll_eq_mapM : write.writeAll depth items = items.mapM (write depth) := by
  induction items with
  | nil => rfl
  | cons v rest ih => rw [write.writeAll, List.mapM_cons, ih]

theorem writeEntries_eq_mapM : write.writeEntries depth entries = entries.mapM (writeEntry depth) := by
  induction entries with
  | nil => rfl
  | cons entry rest ih =>
    rw [write.writeEntries, List.mapM_cons, ih, writeEntry]
    simp

theorem write_list : write (depth + 1) (.list items) = (do
    return .char '[' :: commaSeparated (← items.mapM (write depth)) ++ [.char ']']) := by
  rw [write, writeAll_eq_mapM]

theorem write_dict : write (depth + 1) (.dict entries) = (do
    return .char '\x7b' :: commaSeparated (← entries.mapM (writeEntry depth)) ++ [.char '\x7d']) := by
  rw [write, writeEntries_eq_mapM]

/-- A tuple is written as a list is. -/
theorem write_tuple : write depth (.tuple items) = write depth (.list items) := by
  cases depth with
  | zero => rfl
  | succ depth => rw [write, write]

/-- A row is written where all its members are, with one array less to go. -/
theorem exists_write_list_iff : (∃ t, write depth (.list items) = .ok t) ↔
    ∃ inner, depth = inner + 1 ∧ ∀ v ∈ items, ∃ t, write inner v = .ok t := by
  cases depth with
  | zero => exact iff_of_false nofun nofun
  | succ inner =>
    simp only [Nat.succ_inj, exists_eq_left']
    rw [← Result.exists_mapM_iff, write_list]
    cases items.mapM (write inner) <;> simp

/-- A mapping is written where all its keys and values are. -/
theorem exists_write_dict_iff : (∃ t, write depth (.dict entries) = .ok t) ↔ ∃ inner, depth = inner + 1 ∧
    ∀ entry ∈ entries, (∃ t, key entry.1 = .ok t) ∧ ∃ t, write inner entry.2 = .ok t := by
  cases depth with
  | zero => exact iff_of_false nofun nofun
  | succ inner =>
    simp only [Nat.succ_inj, exists_eq_left', ← exists_writeEntry_iff]
    rw [← Result.exists_mapM_iff, write_dict]
    cases entries.mapM (writeEntry inner) <;> simp

/-- A row is refused for its depth, or as one of its members is. -/
theorem write_list_eq_error {e : WriteError} (h : write depth (.list items) = .error e) :
    e = .tooDeep ∨ ∃ inner, ∃ v ∈ items, write inner v = .error e := by
  cases depth with
  | zero => exact .inl (Except.error.inj h).symm
  | succ inner =>
    rw [write_list] at h
    rcases Result.bind_eq_error_iff.mp h with h | ⟨_, -, h⟩
    · obtain ⟨before, v, after, rfl, -, hv⟩ := Result.mapM_eq_error_iff.mp h
      exact .inr ⟨inner, v, by simp, hv⟩
    · cases h

/-- A mapping is refused for its depth, or as one of its keys or values is. -/
theorem write_dict_eq_error {e : WriteError} (h : write depth (.dict entries) = .error e) :
    e = .tooDeep ∨ ∃ inner, ∃ entry ∈ entries, key entry.1 = .error e ∨ write inner entry.2 = .error e := by
  cases depth with
  | zero => exact .inl (Except.error.inj h).symm
  | succ inner =>
    rw [write_dict] at h
    rcases Result.bind_eq_error_iff.mp h with h | ⟨_, -, h⟩
    · obtain ⟨before, entry, after, rfl, -, hentry⟩ := Result.mapM_eq_error_iff.mp h
      refine .inr ⟨inner, entry, by simp, ?_⟩
      rcases Result.bind_eq_error_iff.mp hentry with hkey | ⟨name, -, hentry⟩
      · exact .inl hkey
      rcases Result.bind_eq_error_iff.mp hentry with hvalue | ⟨_, -, hentry⟩
      · exact .inr hvalue
      · cases hentry
    · cases h

/-! ## The writer -/

/-- What can be written is written, where it is not too deep. -/
theorem Writable.exists_write (h : Writable v) (hdepth : v.nesting ≤ depth) : ∃ t, write depth v = .ok t := by
  induction h generalizing depth with
  | null => exact ⟨_, rfl⟩
  | bool b => exact ⟨_, rfl⟩
  | int hn =>
    obtain ⟨t, ht⟩ := exists_integer_iff.mpr hn
    exact ⟨t, by rw [write, ht]⟩
  | float x => exact ⟨_, rfl⟩
  | text t => exact ⟨_, rfl⟩
  | list _ ih =>
    obtain ⟨inner, rfl⟩ := Nat.exists_eq_add_one_of_ne_zero (Nat.ne_zero_of_lt hdepth)
    have hinner := Value.nestingAll_le_iff.mp (Nat.le_of_succ_le_succ hdepth)
    exact exists_write_list_iff.mpr ⟨inner, rfl, fun v hv => ih v hv (hinner v hv)⟩
  | tuple _ ih =>
    rw [write_tuple]
    obtain ⟨inner, rfl⟩ := Nat.exists_eq_add_one_of_ne_zero (Nat.ne_zero_of_lt hdepth)
    have hinner := Value.nestingAll_le_iff.mp (Nat.le_of_succ_le_succ hdepth)
    exact exists_write_list_iff.mpr ⟨inner, rfl, fun v hv => ih v hv (hinner v hv)⟩
  | dict hkeys _ ih =>
    obtain ⟨inner, rfl⟩ := Nat.exists_eq_add_one_of_ne_zero (Nat.ne_zero_of_lt hdepth)
    have hinner := Value.nestingUnder_le_iff.mp (Nat.le_of_succ_le_succ hdepth)
    exact exists_write_dict_iff.mpr ⟨inner, rfl, fun entry hentry =>
      ⟨exists_key_iff.mpr (hkeys entry hentry), ih entry hentry (hinner entry hentry)⟩⟩

/-- What is written can be, and is not too deep. -/
theorem writableIn_of_write (h : ∃ t, write depth v = .ok t) : WritableIn depth v := by
  induction hn : sizeOf v using Nat.strongRecOn generalizing v depth with
  | ind n ih =>
    subst hn
    cases v with
    | null => exact ⟨.null, Nat.zero_le _⟩
    | bool b => exact ⟨.bool b, Nat.zero_le _⟩
    | int n =>
      rw [write] at h
      exact ⟨.int (exists_integer_iff.mp h), Nat.zero_le _⟩
    | float x => exact ⟨.float x, Nat.zero_le _⟩
    | text t => exact ⟨.text t, Nat.zero_le _⟩
    | list items =>
      obtain ⟨inner, rfl, hitems⟩ := exists_write_list_iff.mp h
      have hall (w) (hw : w ∈ items) := ih _ (Value.sizeOf_lt_list hw) (hitems w hw) rfl
      exact ⟨.list fun w hw => (hall w hw).writable,
        Nat.succ_le_succ (Value.nestingAll_le_iff.mpr fun w hw => (hall w hw).nesting_le)⟩
    | tuple items =>
      rw [write_tuple] at h
      obtain ⟨inner, rfl, hitems⟩ := exists_write_list_iff.mp h
      have hall (w) (hw : w ∈ items) := ih _ (Value.sizeOf_lt_tuple hw) (hitems w hw) rfl
      exact ⟨.tuple fun w hw => (hall w hw).writable,
        Nat.succ_le_succ (Value.nestingAll_le_iff.mpr fun w hw => (hall w hw).nesting_le)⟩
    | dict entries =>
      obtain ⟨inner, rfl, hentries⟩ := exists_write_dict_iff.mp h
      have hall (entry) (hentry : entry ∈ entries) :=
        ih _ (Value.sizeOf_lt_dict hentry) (hentries entry hentry).2 rfl
      exact ⟨.dict (fun entry hentry => exists_key_iff.mp (hentries entry hentry).1)
          fun entry hentry => (hall entry hentry).writable,
        Nat.succ_le_succ (Value.nestingUnder_le_iff.mpr fun entry hentry => (hall entry hentry).nesting_le)⟩
    | _ =>
      obtain ⟨t, h⟩ := h
      rw [write] at h
      · cases h
      all_goals nofun

/-- **A value has JSON exactly if its constructors say so** and no more arrays and objects are inside each other than
may be. -/
theorem exists_write_iff : (∃ t, write depth v = .ok t) ↔ WritableIn depth v :=
  ⟨writableIn_of_write, fun h => h.writable.exists_write h.nesting_le⟩

/-- A value that is writable is refused for its depth alone. -/
theorem Writable.eq_tooDeep_of_write {e : WriteError} (h : Writable v) (hwrite : write depth v = .error e) :
    e = .tooDeep := by
  induction h generalizing depth with
  | null => cases hwrite
  | bool b => cases hwrite
  | @int n hn =>
    rw [write, integer, hn] at hwrite
    cases hwrite
  | float x => cases hwrite
  | text t => cases hwrite
  | list _ ih =>
    rcases write_list_eq_error hwrite with rfl | ⟨inner, w, hw, hwrite⟩
    · rfl
    · exact ih w hw hwrite
  | tuple _ ih =>
    rw [write_tuple] at hwrite
    rcases write_list_eq_error hwrite with rfl | ⟨inner, w, hw, hwrite⟩
    · rfl
    · exact ih w hw hwrite
  | dict hkeys _ ih =>
    rcases write_dict_eq_error hwrite with rfl | ⟨inner, entry, hentry, hkey | hwrite⟩
    · rfl
    · obtain ⟨name, hname⟩ := exists_key_iff.mpr (hkeys entry hentry)
      rw [hname] at hkey
      cases hkey
    · exact ih entry hentry hwrite

/-- What is writable but too deep is refused as such. -/
theorem Writable.write_eq_tooDeep (h : Writable v) (hdepth : depth < v.nesting) :
    write depth v = .error .tooDeep := by
  cases hwrite : write depth v with
  | ok t => exact absurd (writableIn_of_write ⟨t, hwrite⟩).nesting_le (Nat.not_le.mpr hdepth)
  | error e => rw [h.eq_tooDeep_of_write hwrite]

/-- A mapping is written with one object less to go for its values. -/
theorem writableIn_dict_iff : WritableIn (depth + 1) (.dict entries) ↔
    ∀ entry ∈ entries, IsKey entry.1 ∧ WritableIn depth entry.2 := by
  rw [← exists_write_iff, exists_write_dict_iff]
  simp only [Nat.succ_inj, exists_eq_left', exists_key_iff, exists_write_iff]

end Json

end SemverDispatch
