import SemverDispatch.Proofs.Overlay
import SemverDispatch.Value.Access

/-!
# Records as their constructors make them

A record that its constructor made has the fields of its kind, in the order of their declaration, whatever
values they hold. The options of a router hold records in fields and under keys; they are well-formed if all of
these are such records, or records of a user whose fields are called like none of these. Merging keeps this, and what
is merged over a record is a record of the same kind.
-/

namespace SemverDispatch

namespace Value

/-- The records in a value, as far as they stand in fields and under keys, have the fields of their kind. -/
inductive WellFormed : Value → Prop where
  /-- a record -/
  | record {kind : RecordKind} {fields : List (Text × Value)}
      (names : fields.map Prod.fst = kind.defaults.map Prod.fst)
      (values : ∀ field ∈ fields, WellFormed field.2) : WellFormed (.record kind fields)
  /-- a record of a user, with names of its own -/
  | foreign {c : UserClass} {fields : List (Text × Value)}
      (names : ∀ name ∈ fields.map Prod.fst, ∀ kind : RecordKind, name ∉ kind.defaults.map Prod.fst)
      (values : ∀ field ∈ fields, WellFormed field.2) : WellFormed (.record (.user c) fields)
  /-- a mapping -/
  | dict {entries : List (Value × Value)} (values : ∀ entry ∈ entries, WellFormed entry.2) :
      WellFormed (.dict entries)
  /-- anything else -/
  | leaf {v : Value} (noRecord : ∀ kind fields, v ≠ .record kind fields)
      (noDict : ∀ entries, v ≠ .dict entries) : WellFormed v

/-- A value is a record of a kind. -/
def IsRecord (kind : RecordKind) (v : Value) : Prop := ∃ fields, v = .record kind fields

/-- A value has what the fields of a kind of record are called: it is such a record, or their class. -/
def HasFields (kind : RecordKind) (v : Value) : Prop := v.IsRecord kind ∨ v = .recordClass kind

/-- What stands under a name, or nothing. -/
def part (v : Value) (name : Text) : Value := (v.member? name).getD .null

variable {v w : Value} {name : Text} {kind : RecordKind} {fields : List (Text × Value)}

/-- A record of a well-formed value has the names of its kind, if one of its names is that of any kind. -/
theorem WellFormed.names_eq (h : (Value.record kind fields).WellFormed) {kind' : RecordKind}
    (hname : name ∈ kind'.defaults.map Prod.fst) (hmem : name ∈ fields.map Prod.fst) :
    fields.map Prod.fst = kind.defaults.map Prod.fst := by
  cases h with
  | record names _ => exact names
  | foreign names _ => exact absurd hname (names name hmem kind')
  | leaf noRecord _ => exact absurd rfl (noRecord kind fields)

theorem WellFormed.recordClass (kind : RecordKind) : (recordClass kind).WellFormed := .leaf nofun nofun

theorem WellFormed.of_mem_fields {field : Text × Value} (h : (Value.record kind fields).WellFormed)
    (hmem : field ∈ fields) : field.2.WellFormed := by
  cases h with
  | record _ values => exact values field hmem
  | foreign _ values => exact values field hmem
  | leaf noRecord _ => exact absurd rfl (noRecord kind fields)

theorem WellFormed.of_mem_entries {entries : List (Value × Value)} {entry : Value × Value}
    (h : (Value.dict entries).WellFormed) (hmem : entry ∈ entries) : entry.2.WellFormed := by
  cases h with
  | dict values => exact values entry hmem
  | leaf _ noDict => exact absurd rfl (noDict entries)

/-! ## Members -/

theorem mem_of_lookup (h : fields.lookup name = some v) : (name, v) ∈ fields := by
  obtain ⟨front, back, rfl, -⟩ := List.lookup_eq_some_iff.mp h
  exact List.mem_append_right _ (List.mem_cons_self ..)

theorem exists_lookup (h : name ∈ fields.map Prod.fst) : ∃ v, fields.lookup name = some v := by
  obtain ⟨field, hfield, rfl⟩ := List.mem_map.mp h
  exact Option.isSome_iff_exists.mp (List.lookup_isSome_iff.mpr ⟨field, hfield, beq_self_eq_true _⟩)

theorem member_eq_of_member? (h : v.member? name = some w) : v.member name = .ok w := by
  rw [member, h]

theorem part_eq_of_member (h : v.member name = .ok w) : v.part name = w := by
  unfold member at h
  unfold part
  cases hmember : v.member? name with
  | some w' =>
    rw [hmember] at h
    exact Except.ok.inj h
  | none =>
    rw [hmember] at h
    cases h

/-- Reading what stands under a name is contained where something does. -/
theorem contained_member_iff {name : Text} : Contained (v.member name) ↔ ∃ w, v.member name = .ok w := by
  unfold member
  cases v.member? name with
  | some w => exact iff_of_true (contained_ok w) ⟨w, rfl⟩
  | none => simp [Failure.configuration]

/-- Everything stands under the names of a kind where its fields are. -/
theorem WellFormed.member_eq (h : v.WellFormed) (hkind : v.HasFields kind)
    (hname : name ∈ kind.defaults.map Prod.fst) : v.member name = .ok (v.part name) := by
  obtain ⟨w, hw⟩ : ∃ w, v.member? name = some w := by
    rcases hkind with ⟨fields, rfl⟩ | rfl
    · have hnames : fields.map Prod.fst = kind.defaults.map Prod.fst := by
        cases h with
        | record names _ => exact names
        | foreign _ _ => cases hname
        | leaf noRecord _ => exact absurd rfl (noRecord kind fields)
      exact exists_lookup (hnames ▸ hname)
    · have hlibrary : ∀ c, kind ≠ .user c := by
        rintro c rfl
        cases hname
      exact ⟨_, field?_recordClass_eq_some_iff.mpr
        ⟨hlibrary, RecordKind.map_fst_defaults hlibrary ▸ hname, rfl⟩⟩
  rw [part, hw, member_eq_of_member? hw]
  rfl

/-- What stands under a name of a well-formed value is well-formed. -/
theorem WellFormed.part (h : v.WellFormed) (name : Text) : (v.part name).WellFormed := by
  have hleaf (w : Value) (hrecord : ∀ kind fields, w ≠ .record kind fields) (hdict : ∀ entries, w ≠ .dict entries) :
      w.WellFormed := .leaf hrecord hdict
  unfold Value.part
  cases hmember : v.member? name with
  | none => exact hleaf _ nofun nofun
  | some w =>
    cases v with
    | record kind fields => exact h.of_mem_fields (mem_of_lookup hmember)
    | recordClass kind =>
      obtain rfl := eq_of_field?_recordClass hmember
      exact hleaf _ nofun nofun
    | pattern p =>
      rw [member?] at hmember
      split at hmember
      · obtain rfl := Option.some.inj hmember
        cases p.source with
        | text t => exact hleaf _ nofun nofun
        | bytes b => exact hleaf _ nofun nofun
      · cases hmember
    | _ => cases hmember

/-- Only what has the fields of a kind has something under a name of it, but for what a pattern was read from. -/
theorem WellFormed.exists_hasFields (h : v.WellFormed) {kind' : RecordKind}
    (hname : name ∈ kind'.defaults.map Prod.fst) (hmember : v.member name = .ok w) :
    (∃ kind, v.HasFields kind ∧ name ∈ kind.defaults.map Prod.fst) ∨
      name = "pattern" ∧ ∃ p, v = .pattern p := by
  unfold member at hmember
  split at hmember
  · rename_i w' hw
    cases v with
    | record kind fields =>
      have hmem : name ∈ fields.map Prod.fst := List.mem_map_of_mem (mem_of_lookup hw)
      exact .inl ⟨kind, .inl ⟨fields, rfl⟩, h.names_eq hname hmem ▸ hmem⟩
    | recordClass kind =>
      obtain ⟨hlibrary, hmem, -⟩ := field?_recordClass_eq_some_iff.mp hw
      exact .inl ⟨kind, .inr rfl, RecordKind.map_fst_defaults hlibrary ▸ hmem⟩
    | pattern p =>
      rw [member?] at hw
      split at hw
      · rename_i hpattern
        exact .inr ⟨hpattern, p, rfl⟩
      · cases hw
    | _ => cases hw
  · cases hmember

/-- What has something under a name that one kind of record alone has, has the fields of this kind. -/
theorem WellFormed.hasFields_of_member (h : v.WellFormed) (hmember : v.member name = .ok w)
    (hpattern : name ≠ "pattern") (hname : name ∈ kind.defaults.map Prod.fst)
    (honly : ∀ kind', name ∈ kind'.defaults.map Prod.fst → kind' = kind) : v.HasFields kind := by
  rcases h.exists_hasFields hname hmember with ⟨kind', hkind, hmem⟩ | ⟨heq, -⟩
  · exact honly kind' hmem ▸ hkind
  · exact absurd heq hpattern

/-! ## Defaults -/

/-- The defaults of all options are well-formed. -/
theorem wellFormed_defaultOptions : defaultOptions.WellFormed := by
  have hheader : (Value.record .header RecordKind.headerDefaults).WellFormed :=
    .record rfl (List.forall_mem_singleton.mpr (.leaf nofun nofun))
  have hquery : (Value.record .query RecordKind.queryDefaults).WellFormed :=
    .record rfl (List.forall_mem_singleton.mpr (.leaf nofun nofun))
  have hpath : (Value.record .path RecordKind.pathDefaults).WellFormed :=
    .record rfl (List.forall_mem_singleton.mpr (.leaf nofun nofun))
  have hextraction : (Value.record .extraction RecordKind.extractionDefaults).WellFormed :=
    .record rfl (by
      simp only [RecordKind.extractionDefaults, List.forall_mem_cons]
      exact ⟨.leaf nofun nofun, hheader, hquery, hpath, .leaf nofun nofun, nofun⟩)
  have herrors : (Value.record .errorResponse RecordKind.errorResponseDefaults).WellFormed :=
    .record rfl (by
      simp only [RecordKind.errorResponseDefaults, List.forall_mem_cons]
      exact ⟨.leaf nofun nofun, .leaf nofun nofun, .leaf nofun nofun, .leaf nofun nofun,
        .leaf nofun nofun, .leaf nofun nofun, .leaf nofun nofun, nofun⟩)
  have hall : (Value.record .versioning RecordKind.versioningDefaults).WellFormed :=
    .record rfl (by
      simp only [RecordKind.versioningDefaults, List.forall_mem_cons]
      exact ⟨hextraction, herrors, .leaf nofun nofun, .leaf nofun nofun, .leaf nofun nofun,
        .leaf nofun nofun, .leaf nofun nofun, nofun⟩)
  exact hall

end Value

namespace Options

open Value

variable {kind : RecordKind} {fields : List (Text × Value)} {place : Text} {given merged : Value}

/-! ## Merging -/

theorem map_fst_setField (name : Text) (v : Value) :
    (setField fields name v).map Prod.fst = fields.map Prod.fst := by
  rw [setField, List.map_map]
  refine List.map_congr_left fun field _ => ?_
  obtain ⟨n, w⟩ := field
  dsimp only [Function.comp_apply]
  split <;> rfl

theorem wellFormed_setField {name : Text} {v : Value} (h : (Value.record kind fields).WellFormed)
    (hv : v.WellFormed) : (Value.record kind (setField fields name v)).WellFormed := by
  have hvalues : ∀ field ∈ setField fields name v, field.2.WellFormed := by
    intro field hfield
    obtain ⟨⟨n, w⟩, hmem, rfl⟩ := List.mem_map.mp hfield
    dsimp only
    split
    · exact hv
    · exact h.of_mem_fields hmem
  cases h with
  | record names _ => exact .record ((map_fst_setField name v).trans names) hvalues
  | foreign names _ => exact .foreign ((map_fst_setField name v).symm ▸ names) hvalues
  | leaf noRecord _ => exact absurd rfl (noRecord kind fields)

/-- What comes of laying a value over a class is one of the two. -/
theorem eq_of_merge_recordClass (h : merge (.recordClass kind) place given = .ok merged) :
    merged = .recordClass kind ∨ merged = given := by
  cases given with
  | null => exact .inl (Except.ok.inj h).symm
  | dict entries => exact absurd h merge_recordClass_dict_ne_ok
  | _ =>
    rw [merge_leaf (by nofun) (by nofun)] at h
    split at h
    · exact .inr (Except.ok.inj h).symm
    · cases h

/-- Entries laid over a well-formed record leave it well-formed, if their sections do. -/
theorem wellFormed_mergeEntries {before out : List (Text × Value)} {entries : List (Value × Value)}
    (hbefore : (Value.record kind before).WellFormed)
    (hsections : ∀ entry ∈ entries, ∀ kind' section_ place merged,
      (Value.record kind' section_).WellFormed →
      merge (.record kind' section_) place entry.2 = .ok merged → merged.WellFormed)
    (hvalues : ∀ entry ∈ entries, entry.2.WellFormed)
    (hfields : (Value.record kind fields).WellFormed)
    (h : merge.mergeEntries place before entries fields = .ok out) :
    (Value.record kind out).WellFormed := by
  induction entries generalizing fields with
  | nil =>
    obtain rfl := Except.ok.inj h
    exact hfields
  | cons entry rest ih =>
    obtain ⟨key, v⟩ := entry
    obtain ⟨hv, hothers⟩ := List.forall_mem_cons.mp hvalues
    obtain ⟨hsection, hrest⟩ := List.forall_mem_cons.mp hsections
    cases key with
    | text name =>
      rw [merge.mergeEntries] at h
      split at h
      · rename_i kind' section_ hlookup
        obtain ⟨merged, hmerged, h⟩ := Result.bind_eq_ok_iff.mp h
        have hwf := hsection _ _ _ _ (hbefore.of_mem_fields (mem_of_lookup hlookup)) hmerged
        exact ih hrest hothers (wellFormed_setField hfields hwf) h
      · obtain ⟨merged, hmerged, h⟩ := Result.bind_eq_ok_iff.mp h
        have hwf : merged.WellFormed := by
          rcases eq_of_merge_recordClass hmerged with rfl | rfl
          · exact .recordClass _
          · exact hv
        exact ih hrest hothers (wellFormed_setField hfields hwf) h
      · exact ih hrest hothers (wellFormed_setField hfields hv) h
    | _ => exact ih hrest hothers hfields h

theorem isRecord_of_isInstance (h : isInstance given (.record kind fields) = true) :
    given.IsRecord kind := by
  cases given with
  | record kind' fields' =>
    obtain rfl : kind' = kind := of_decide_eq_true h
    exact ⟨fields', rfl⟩
  | _ => cases h

/-- **Merging well-formed options over a well-formed record gives one of the same kind.** -/
theorem wellFormed_of_merge (hbase : (Value.record kind fields).WellFormed) (hgiven : given.WellFormed)
    (h : merge (.record kind fields) place given = .ok merged) :
    merged.WellFormed ∧ merged.IsRecord kind := by
  -- the values of a mapping are smaller than the mapping
  induction hn : sizeOf given using Nat.strongRecOn
    generalizing kind fields place given merged with
  | ind n ih =>
    cases given with
    | dict entries =>
      rw [merge_dict] at h
      split at h
      · obtain ⟨out, hout, rfl⟩ := Result.map_eq_ok_iff.mp h
        refine ⟨wellFormed_mergeEntries hbase (fun entry hentry kind' section_ place merged hsection hm => ?_)
          (fun entry hentry => hgiven.of_mem_entries hentry) hbase hout, _, rfl⟩
        exact (ih (sizeOf entry.2) (hn ▸ Value.sizeOf_lt_dict hentry) hsection
          (hgiven.of_mem_entries hentry) hm rfl).1
      · cases h
    | null =>
      obtain rfl := Except.ok.inj h
      exact ⟨hbase, _, rfl⟩
    | _ =>
      rw [merge_leaf (by nofun) (by nofun)] at h
      split at h
      · rename_i hinstance
        obtain rfl := Except.ok.inj h
        exact ⟨hgiven, isRecord_of_isInstance hinstance⟩
      · cases h

end Options

end SemverDispatch
