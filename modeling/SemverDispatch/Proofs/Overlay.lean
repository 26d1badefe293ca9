import SemverDispatch.Record
import SemverDispatch.Options.Merge
import SemverDispatch.Proofs.Contained

/-!
# Options laid over a record

When merging is contained: exactly if every mapping that it reaches has texts for all its keys
(`contained_merge_iff`). Unknown names are put in order and joined before they are reported, which is for texts
alone. `Reaches` says which mappings these are, since an entry is only looked at if all those before it are
merged.
-/

namespace SemverDispatch

namespace Options

/-! ## Unknown names -/

theorem perm_of_insertSorted {v : Value} {row out : List Value} (h : insertSorted v row = .ok out) :
    out.Perm (v :: row) := by
  induction row generalizing out with
  | nil =>
    obtain rfl := Except.ok.inj h
    exact .refl _
  | cons w rest ih =>
    rw [insertSorted] at h
    split at h
    · cases h
    · obtain rfl := Except.ok.inj h
      exact .refl _
    · obtain ⟨tail, htail, rfl⟩ := Result.map_eq_ok_iff.mp h
      exact ((ih htail).cons w).trans (.swap v w rest)

/-- Sorting loses nothing. -/
theorem perm_of_sorted {vs out : List Value} (h : sorted vs = .ok out) : out.Perm vs := by
  induction vs generalizing out with
  | nil =>
    obtain rfl := Except.ok.inj h
    exact .refl _
  | cons v rest ih =>
    obtain ⟨row, hrow, hout⟩ := Result.bind_eq_ok_iff.mp h
    exact (perm_of_insertSorted hout).trans ((ih hrow).cons v)

theorem unordered_of_insertSorted {v : Value} {row : List Value} {e : Failure}
    (h : insertSorted v row = .error e) : ∃ left right, e = .unordered left right := by
  induction row with
  | nil => cases h
  | cons w rest ih =>
    rw [insertSorted] at h
    split at h
    · exact ⟨_, _, (Except.error.inj h).symm⟩
    · cases h
    · exact ih (Result.map_eq_error_iff.mp h)

theorem unordered_of_sorted {vs : List Value} {e : Failure} (h : sorted vs = .error e) :
    ∃ left right, e = .unordered left right := by
  induction vs with
  | nil => cases h
  | cons v rest ih =>
    rcases Result.bind_eq_error_iff.mp h with h | ⟨row, -, h⟩
    · exact ih h
    · exact unordered_of_insertSorted h

theorem exists_insertSorted_texts (t : Text) (ts : List Text) :
    ∃ out, insertSorted (.text t) (ts.map .text) = .ok out := by
  induction ts with
  | nil => exact ⟨_, rfl⟩
  | cons u rest ih =>
    obtain ⟨out, hout⟩ := ih
    rw [List.map_cons, insertSorted, Value.lt]
    cases Text.lt t u with
    | true => exact ⟨_, rfl⟩
    | false => exact ⟨_, by rw [hout]; rfl⟩

theorem exists_map_text {vs : List Value} (h : ∀ v ∈ vs, ∃ t, v = .text t) :
    ∃ ts : List Text, vs = ts.map .text := by
  induction vs with
  | nil => exact ⟨[], rfl⟩
  | cons v rest ih =>
    obtain ⟨⟨t, rfl⟩, hrest⟩ := List.forall_mem_cons.mp h
    obtain ⟨ts, rfl⟩ := ih hrest
    exact ⟨t :: ts, rfl⟩

/-- Texts always have an order. -/
theorem exists_sorted_texts {vs : List Value} (h : ∀ v ∈ vs, ∃ t, v = .text t) :
    ∃ out, sorted vs = .ok out := by
  induction vs with
  | nil => exact ⟨[], rfl⟩
  | cons v rest ih =>
    obtain ⟨⟨t, rfl⟩, hrest⟩ := List.forall_mem_cons.mp h
    obtain ⟨row, hrow⟩ := ih hrest
    -- the row that is sorted so far is one of texts too
    obtain ⟨ts, rfl⟩ := exists_map_text fun v hv => hrest v ((perm_of_sorted hrow).mem_iff.mp hv)
    obtain ⟨out, hout⟩ := exists_insertSorted_texts t ts
    exact ⟨out, Result.bind_eq_ok_iff.mpr ⟨_, hrow, hout⟩⟩

theorem texts_eq_ok_iff {index : Nat} {vs : List Value} {ts : List Text} :
    texts index vs = .ok ts ↔ vs = ts.map .text := by
  induction vs generalizing index ts with
  | nil =>
    cases ts with
    | nil => exact iff_of_true rfl rfl
    | cons t rest => exact iff_of_false nofun nofun
  | cons v rest ih =>
    cases v with
    | text u =>
      rw [texts, Result.map_eq_ok_iff]
      simp only [ih]
      cases ts with
      | nil => simp
      | cons t ts => simp [and_comm]
    | _ => cases ts <;> simp [texts]

theorem notText_of_texts {index : Nat} {vs : List Value} {e : Failure}
    (h : texts index vs = .error e) : ∃ index' name, e = .notText index' name := by
  induction vs generalizing index with
  | nil => cases h
  | cons v rest ih =>
    cases v with
    | text u => exact ih (Result.map_eq_error_iff.mp h)
    | _ => exact ⟨_, _, (Except.error.inj h).symm⟩

/-- **Unknown names are reported exactly if all of them are text.** -/
theorem unknownNames_eq_configuration_iff {place : Text} {names : List Value} :
    (∃ reason, unknownNames place names = .configuration reason) ↔
      ∀ name ∈ names, ∃ t, name = .text t := by
  unfold unknownNames
  constructor
  · rintro ⟨reason, h⟩
    cases hts : sorted names >>= texts 0 with
    | ok ts =>
      obtain ⟨row, hrow, htexts⟩ := Result.bind_eq_ok_iff.mp hts
      obtain rfl := texts_eq_ok_iff.mp htexts
      intro name hname
      obtain ⟨t, -, rfl⟩ := List.mem_map.mp ((perm_of_sorted hrow).mem_iff.mpr hname)
      exact ⟨t, rfl⟩
    | error e =>
      rw [hts] at h
      dsimp only at h
      rcases Result.bind_eq_error_iff.mp hts with hsorted | ⟨row, -, htexts⟩
      · obtain ⟨_, _, rfl⟩ := unordered_of_sorted hsorted
        cases h
      · obtain ⟨_, _, rfl⟩ := notText_of_texts htexts
        cases h
  · intro h
    obtain ⟨row, hrow⟩ := exists_sorted_texts h
    obtain ⟨ts, hts⟩ := exists_map_text fun v hv => h v ((perm_of_sorted hrow).mem_iff.mp hv)
    rw [hrow, Result.ok_bind, texts_eq_ok_iff.mpr hts]
    exact ⟨_, rfl⟩

/-! ## Entries -/

section Entries

variable {place : Text} {before fields : List (Text × Value)} {front back : List (Value × Value)}

/-- Entries are laid over fields one after another. -/
theorem mergeEntries_append :
    merge.mergeEntries place before (front ++ back) fields =
      merge.mergeEntries place before front fields >>= merge.mergeEntries place before back := by
  induction front generalizing fields with
  | nil => rfl
  | cons entry rest ih =>
    obtain ⟨key, v⟩ := entry
    cases key with
    | text name =>
      rw [List.cons_append, merge.mergeEntries, merge.mergeEntries]
      split
      · rw [bind_assoc]
        exact congrArg _ (funext fun merged => ih)
      · rw [bind_assoc]
        exact congrArg _ (funext fun merged => ih)
      · exact ih
    | _ => exact ih

/-- Merging entries is contained where every section that is reached is merged so, if no class stands in place of
one. -/
theorem contained_mergeEntries_iff {entries : List (Value × Value)}
    (hbefore : ∀ name kind, before.lookup name ≠ some (.recordClass kind)) :
    Contained (merge.mergeEntries place before entries fields) ↔
      ∀ front name v back kind section_, entries = front ++ (.text name, v) :: back →
        (∃ merged, merge.mergeEntries place before front fields = .ok merged) →
        before.lookup name = some (.record kind section_) →
        Contained (merge (.record kind section_) (place ++ "." ++ name) v) := by
  constructor
  · rintro h front name v back kind section_ rfl ⟨merged, hmerged⟩ hlookup
    rw [mergeEntries_append, hmerged, Result.ok_bind, merge.mergeEntries, hlookup] at h
    exact (contained_bind_iff.mp h).1
  · intro h
    induction entries generalizing fields with
    | nil => exact contained_ok _
    | cons entry rest ih =>
      obtain ⟨key, v⟩ := entry
      -- what is reached behind this entry is reached from it on
      have hrest (fields' : List (Text × Value))
          (hstep : merge.mergeEntries place before [(key, v)] fields = .ok fields') :
          Contained (merge.mergeEntries place before rest fields') := by
        refine ih fun front name w back kind section_ hsplit hmerged hlookup => ?_
        refine h ((key, v) :: front) name w back kind section_ (by rw [hsplit]; rfl) ?_ hlookup
        rw [← List.singleton_append, mergeEntries_append, hstep]
        exact hmerged
      rw [← List.singleton_append, mergeEntries_append, contained_bind_iff]
      refine ⟨?_, hrest⟩
      cases key with
      | text name =>
        rw [merge.mergeEntries]
        split
        · rename_i kind section_ hlookup
          rw [contained_bind_iff]
          exact ⟨h [] name v rest kind section_ rfl ⟨_, rfl⟩ hlookup, fun _ _ => contained_ok _⟩
        · rename_i kind hlookup
          exact absurd hlookup (hbefore name kind)
        · exact contained_ok _
      | _ => exact contained_ok _

end Entries

/-! ## Mappings that are reached -/

/-- Does no class stand in a field, nor in a field of a record that stands in one? -/
def isClassless : Value → Bool
  | .record _ fields => areClassless fields
  | .recordClass _ => false
  | _ => true
where
  /-- The same of every field. -/
  areClassless : List (Text × Value) → Bool
    | [] => true
    | (_, v) :: rest => isClassless v && areClassless rest

theorem isClassless_of_lookup {kind : RecordKind} {fields : List (Text × Value)} {name : Text} {v : Value}
    (h : isClassless (.record kind fields) = true) (hlookup : fields.lookup name = some v) :
    isClassless v = true := by
  rw [isClassless] at h
  induction fields with
  | nil => cases hlookup
  | cons field rest ih =>
    obtain ⟨n, w⟩ := field
    rw [isClassless.areClassless, Bool.and_eq_true] at h
    rw [List.lookup_cons] at hlookup
    split at hlookup
    · obtain rfl := Option.some.inj hlookup
      exact h.1
    · exact ih h.2 hlookup

theorem lookup_ne_of_isClassless {kind kind' : RecordKind} {fields : List (Text × Value)} {name : Text}
    (h : isClassless (.record kind fields) = true) : fields.lookup name ≠ some (.recordClass kind') := fun hlookup =>
  Bool.false_ne_true (isClassless_of_lookup h hlookup)

/-- No class stands among the defaults. -/
theorem isClassless_defaultOptions : isClassless defaultOptions = true := rfl

/-- Merging `given` over `base` comes to a mapping of entries: `given` itself, or one that is reached from the
value of an entry. The entry stands for a section, all names beside it are known, and all entries before it are
merged. -/
inductive Reaches : Value → Text → Value → List (Value × Value) → Prop where
  /-- the mapping that is given -/
  | here (kind : RecordKind) (fields : List (Text × Value)) (place : Text)
      (entries : List (Value × Value)) : Reaches (.record kind fields) place (.dict entries) entries
  /-- a mapping further down -/
  | inside {kind kind' : RecordKind} {fields section_ merged : List (Text × Value)} {place name : Text}
      {front back reached : List (Value × Value)} {v : Value}
      (known : ∀ entry ∈ front ++ (.text name, v) :: back, isKnown fields entry.1 = true)
      (earlier : merge.mergeEntries place fields front fields = .ok merged)
      (isSection : fields.lookup name = some (.record kind' section_))
      (further : Reaches (.record kind' section_) (place ++ "." ++ name) v reached) :
      Reaches (.record kind fields) place (.dict (front ++ (.text name, v) :: back)) reached

section Merge

variable {kind : RecordKind} {fields : List (Text × Value)} {place : Text}
  {entries : List (Value × Value)} {given : Value}

theorem isKnown_iff {name : Value} : isKnown fields name = true ↔
    ∃ t, name = .text t ∧ (fields.lookup t).isSome = true := by
  cases name <;> simp [isKnown, Value.text?]

/-- Either some name is unknown, and all of these are reported, or the entries are merged. -/
theorem merge_dict : merge (.record kind fields) place (.dict entries) =
    if ∀ entry ∈ entries, isKnown fields entry.1 = true then
      (merge.mergeEntries place fields entries fields).map (.record kind)
    else .error (unknownNames place ((entries.map Prod.fst).filter fun name => !isKnown fields name)) := by
  have hempty : ((entries.map Prod.fst).filter fun name => !isKnown fields name).isEmpty = true ↔
      ∀ entry ∈ entries, isKnown fields entry.1 = true := by
    simp
  rw [merge]
  by_cases hknown : ∀ entry ∈ entries, isKnown fields entry.1 = true
  · rw [if_pos hknown, if_pos (hempty.mpr hknown)]
  · rw [if_neg hknown, if_neg (mt hempty.mp hknown)]

/-- A mapping is never laid over a class: there are no fields to replace. -/
theorem merge_recordClass_dict_ne_ok : merge (.recordClass kind) place (.dict entries) ≠ .ok given := by
  intro h
  rw [merge] at h
  split at h
  · cases h
  · cases h

/-- What is no mapping replaces the record, or is reported. -/
theorem merge_leaf {base : Value} (hnull : given = .null → False)
    (hdict : ∀ entries, given = .dict entries → False) : merge base place given =
      if isInstance given base then .ok given
      else .error (.configuration ("'" ++ place ++ "' must be a mapping or " ++ base.typeName
        ++ ", got " ++ given.typeName)) := by
  rw [merge]
  · exact hnull
  · exact hdict

/-- Whatever merging reaches has texts for its keys, or else something other than a failure of configuration
comes out. -/
theorem texts_of_reaches {base : Value} {reached : List (Value × Value)} (hbase : isClassless base = true)
    (hreaches : Reaches base place given reached) (h : Contained (merge base place given)) :
    ∀ entry ∈ reached, ∃ t, entry.1 = .text t := by
  induction hreaches with
  | here kind fields place entries =>
    intro entry hentry
    cases hknown : isKnown fields entry.1 with
    | true =>
      obtain ⟨t, ht, -⟩ := isKnown_iff.mp hknown
      exact ⟨t, ht⟩
    | false =>
      have hnot : ¬ ∀ entry ∈ entries, isKnown fields entry.1 = true := fun hall => by
        rw [hall entry hentry] at hknown
        cases hknown
      rw [merge_dict, if_neg hnot, contained_error_iff, unknownNames_eq_configuration_iff] at h
      exact h entry.1 (List.mem_filter.mpr ⟨List.mem_map_of_mem hentry, by rw [hknown]; rfl⟩)
  | inside known earlier isSection _ ih =>
    rw [merge_dict, if_pos known, contained_map_iff,
      contained_mergeEntries_iff fun _ _ => lookup_ne_of_isClassless hbase] at h
    exact ih (isClassless_of_lookup hbase isSection) (h _ _ _ _ _ _ rfl ⟨_, earlier⟩ isSection)

/-- **Merging is contained exactly if every mapping that it reaches has texts for its keys**, where no class stands in
place of a section. -/
theorem contained_merge_iff (hbase : isClassless (.record kind fields) = true) :
    Contained (merge (.record kind fields) place given) ↔ ∀ reached, Reaches (.record kind fields) place given reached →
      ∀ entry ∈ reached, ∃ t, entry.1 = .text t := by
  refine ⟨fun h reached hreaches => texts_of_reaches hbase hreaches h, fun h => ?_⟩
  -- a section of a mapping is smaller than the mapping
  induction hn : sizeOf given using Nat.strongRecOn generalizing kind fields place given with
  | ind n ih =>
    cases given with
    | dict entries =>
      rw [merge_dict]
      split
      · rename_i hknown
        rw [contained_map_iff, contained_mergeEntries_iff fun _ _ => lookup_ne_of_isClassless hbase]
        rintro front name v back kind' section_ rfl ⟨merged, hmerged⟩ hlookup
        refine ih (sizeOf v) ?_ (isClassless_of_lookup hbase hlookup) (fun reached hreaches => ?_) rfl
        · have hentry : (.text name, v) ∈ front ++ (.text name, v) :: back :=
            List.mem_append_right _ (List.mem_cons_self ..)
          rw [← hn]
          exact Value.sizeOf_lt_dict hentry
        · exact h reached (.inside hknown hmerged hlookup hreaches)
      · rw [contained_error_iff, unknownNames_eq_configuration_iff]
        intro name hname
        obtain ⟨entry, hentry, rfl⟩ := List.mem_map.mp (List.mem_filter.mp hname).1
        exact h entries (.here kind fields place entries) entry hentry
    | null => exact contained_ok _
    | _ =>
      rw [merge_leaf (by nofun) (by nofun)]
      split
      · exact contained_ok _
      · exact contained_configuration _

end Merge

end Options

end SemverDispatch
