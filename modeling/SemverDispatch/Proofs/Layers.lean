import Mathlib.Data.List.Nodup
import SemverDispatch.Proofs.Resolved
import SemverDispatch.Proofs.WellFormed

/-!
# Options in layers

What a mapping of options does to the options below it, leaf by leaf. A leaf that the mapping does not name keeps what
it holds, and one that it names holds what is given for it, nothing included. There is one exception: options are
told from sections by what stands there, so where a leaf holds a record, as a response for a message or a callable
record for a handler, or a class of records, what is given is merged into it like a section, and nothing leaves it as
it is (`LaidOver`).

Entries go into a record one after another (`mergeEntries_cons_eq_ok_iff`), and those of different names do not get in
each other's way. So their order does not matter (`mergeEntries_perm`, `merge_reordered`), and each field comes from
the one entry that names it. By induction on the path the same is true of what stands at the end of a path
(`laid_atPath?`). From the leaves it is lifted to resolved options, and to one mapping after another
(`resolve_layers`).
-/

namespace SemverDispatch

namespace Value

/-! ## Mappings of options -/

/-- The mappings in a value, as far as they stand under keys, have each key once. -/
inductive DistinctKeys : Value → Prop where
  /-- a mapping -/
  | dict {entries : List (Value × Value)} (keys : (entries.map Prod.fst).Nodup)
      (values : ∀ entry ∈ entries, DistinctKeys entry.2) : DistinctKeys (.dict entries)
  /-- anything else -/
  | leaf {v : Value} (noDict : ∀ entries, v ≠ .dict entries) : DistinctKeys v

/-- What a mapping gives for a name. -/
def given? (name : Text) : Value → Option Value
  | .dict entries => entry? entries name
  | _ => none

/-- What mappings inside mappings give at the end of a path. -/
def named? (v : Value) : List Text → Option Value
  | [] => some v
  | name :: path => (v.given? name).bind (named? · path)

/-- Is all that is given above the end of a path a mapping? -/
def givesAlong (v : Value) (path : List Text) : Bool :=
  match path, v with
  | [], _ => true
  | name :: path, .dict entries => ((dict entries).given? name).all (givesAlong · path)
  | _ :: _, _ => false

variable {name : Text} {path : List Text} {v : Value} {entries : List (Value × Value)}

theorem givesAlong_cons_iff : v.givesAlong (name :: path) = true ↔
    (∃ entries, v = .dict entries) ∧ ∀ w, v.given? name = some w → w.givesAlong path = true := by
  cases v with
  | dict entries => simp [givesAlong, given?, Option.all_eq_true]
  | _ => exact iff_of_false nofun (by simp)

theorem DistinctKeys.nodup (h : (Value.dict entries).DistinctKeys) : (entries.map Prod.fst).Nodup := by
  cases h with
  | dict keys _ => exact keys
  | leaf noDict => exact absurd rfl (noDict entries)

theorem DistinctKeys.of_mem {entry : Value × Value} (h : (Value.dict entries).DistinctKeys)
    (hmem : entry ∈ entries) : entry.2.DistinctKeys := by
  cases h with
  | dict _ values => exact values entry hmem
  | leaf noDict => exact absurd rfl (noDict entries)

theorem mem_of_given? (h : (Value.dict entries).given? name = some v) : (.text name, v) ∈ entries := by
  induction entries with
  | nil => cases h
  | cons entry rest ih =>
    obtain ⟨key, w⟩ := entry
    cases key with
    | text k =>
      rw [given?, entry?] at h
      split at h
      · rename_i hk
        obtain rfl := Option.some.inj h
        exact hk ▸ List.mem_cons_self ..
      · exact List.mem_cons_of_mem _ (ih h)
    | _ => exact List.mem_cons_of_mem _ (ih h)

theorem not_mem_keys (h : (Value.dict entries).given? name = none) : .text name ∉ entries.map Prod.fst := by
  induction entries with
  | nil => exact List.not_mem_nil
  | cons entry rest ih =>
    obtain ⟨key, w⟩ := entry
    rw [List.map_cons, List.mem_cons, not_or]
    cases key with
    | text k =>
      rw [given?, entry?] at h
      split at h
      · cases h
      · rename_i hk
        exact ⟨fun heq => hk (Value.text.inj heq).symm, ih h⟩
    | _ => exact ⟨nofun, ih h⟩

end Value

namespace Options

open Value

variable {place name : Text} {kind : RecordKind} {base given merged v w : Value}
  {before fields out : List (Text × Value)} {entries entries' : List (Value × Value)}

/-! ## One entry -/

/-- What comes of `given` for a field that holds `base`: it is merged into what has fields, and takes the place of
anything else. -/
def LaidOver (place : Text) (base given out : Value) : Prop :=
  if isRecord base = true then merge base place given = .ok out else out = given

theorem laidOver_iff_of_not_isRecord (h : isRecord base = false) :
    LaidOver place base given v ↔ v = given := by
  rw [LaidOver, h, if_neg Bool.false_ne_true]

/-- Only one thing comes of it. -/
theorem LaidOver.unique (h : LaidOver place base given v) (h' : LaidOver place base given w) : v = w := by
  unfold LaidOver at h h'
  split at h
  · rename_i hrecord
    rw [if_pos hrecord] at h'
    exact Except.ok.inj (h.symm.trans h')
  · rename_i hrecord
    rw [if_neg hrecord] at h'
    exact h.trans h'.symm

/-- A known entry puts what comes of it into its field, and leaves the others to the entries behind it. -/
theorem mergeEntries_cons_eq_ok_iff :
    merge.mergeEntries place before ((.text name, given) :: entries) fields = .ok out ↔
      ∃ v, LaidOver (place ++ "." ++ name) ((before.lookup name).getD .null) given v ∧
        merge.mergeEntries place before entries (setField fields name v) = .ok out := by
  rw [merge.mergeEntries]
  split
  · rename_i kind section_ hlookup
    rw [Result.bind_eq_ok_iff, hlookup]
    rfl
  · rename_i kind hlookup
    rw [Result.bind_eq_ok_iff, hlookup]
    rfl
  · rename_i hrecord hclass
    have hrecord : isRecord ((before.lookup name).getD .null) = false := by
      cases hlookup : before.lookup name with
      | none => rfl
      | some v =>
        cases v with
        | record kind section_ => exact absurd hlookup (hrecord kind section_)
        | recordClass kind => exact absurd hlookup (hclass kind)
        | _ => rfl
    simp only [laidOver_iff_of_not_isRecord hrecord, exists_eq_left]

theorem lookup_setField (n : Text) : (setField fields name v).lookup n =
    if n = name then (fields.lookup n).map fun _ => v else fields.lookup n := by
  induction fields with
  | nil => simp [setField]
  | cons field rest ih =>
    obtain ⟨m, w⟩ := field
    rw [setField, List.map_cons, ← setField]
    by_cases hn : n = m
    · subst hn
      by_cases hname : n = name <;> simp [hname]
    · have hbeq : (n == m) = false := beq_eq_false_iff_ne.mpr hn
      by_cases hm : m = name
      · subst hm
        simpa [List.lookup_cons, hbeq, hn] using ih
      · have hnot : name ≠ m := Ne.symm hm
        simpa [List.lookup_cons, hbeq, hm, beq_eq_false_iff_ne.mpr hnot] using ih

/-- Fields of different names are set in any order. -/
theorem setField_comm {name' : Text} (h : name ≠ name') :
    setField (setField fields name v) name' w = setField (setField fields name' w) name v := by
  simp only [setField, List.map_map]
  refine List.map_congr_left fun field _ => ?_
  obtain ⟨n, u⟩ := field
  dsimp only [Function.comp_apply]
  by_cases hn : n = name
  · subst hn
    rw [if_pos rfl, if_neg h, if_neg h, if_pos rfl]
  · rw [if_neg hn]
    by_cases hn' : n = name'
    · rw [if_pos hn', if_neg hn]
    · rw [if_neg hn', if_neg hn]

/-! ## Several entries -/

/-- **Entries of different names are laid over a record in any order.** -/
theorem mergeEntries_perm (hperm : entries.Perm entries') (htexts : ∀ entry ∈ entries, ∃ t, entry.1 = .text t)
    (hkeys : (entries.map Prod.fst).Nodup) (h : merge.mergeEntries place before entries fields = .ok out) :
    merge.mergeEntries place before entries' fields = .ok out := by
  induction hperm generalizing fields with
  | nil => exact h
  | cons entry _ ih =>
    obtain ⟨key, v⟩ := entry
    obtain ⟨⟨name, rfl⟩, hrest⟩ := List.forall_mem_cons.mp htexts
    obtain ⟨w, hw, h⟩ := mergeEntries_cons_eq_ok_iff.mp h
    exact mergeEntries_cons_eq_ok_iff.mpr ⟨w, hw, ih hrest (List.nodup_cons.mp hkeys).2 h⟩
  | swap entry entry' rest =>
    obtain ⟨key, v⟩ := entry
    obtain ⟨key', v'⟩ := entry'
    obtain ⟨⟨name', rfl⟩, hrest⟩ := List.forall_mem_cons.mp htexts
    obtain ⟨⟨name, rfl⟩, -⟩ := List.forall_mem_cons.mp hrest
    obtain ⟨w', hw', h⟩ := mergeEntries_cons_eq_ok_iff.mp h
    obtain ⟨w, hw, h⟩ := mergeEntries_cons_eq_ok_iff.mp h
    have hne : name' ≠ name := by
      rintro rfl
      exact (List.nodup_cons.mp hkeys).1 (List.mem_cons_self ..)
    rw [setField_comm hne] at h
    exact mergeEntries_cons_eq_ok_iff.mpr ⟨w, hw, mergeEntries_cons_eq_ok_iff.mpr ⟨w', hw', h⟩⟩
  | trans hfirst _ ih ih' =>
    refine ih' (fun entry hentry => htexts entry (hfirst.mem_iff.mpr hentry)) ?_ (ih htexts hkeys h)
    exact (hfirst.map Prod.fst).nodup_iff.mp hkeys

/-- A field that no entry names keeps its value. -/
theorem lookup_of_unnamed (hname : .text name ∉ entries.map Prod.fst)
    (h : merge.mergeEntries place before entries fields = .ok out) : out.lookup name = fields.lookup name := by
  induction entries generalizing fields with
  | nil => rw [Except.ok.inj h]
  | cons entry rest ih =>
    obtain ⟨key, v⟩ := entry
    rw [List.map_cons, List.mem_cons, not_or] at hname
    cases key with
    | text n =>
      obtain ⟨w, -, h⟩ := mergeEntries_cons_eq_ok_iff.mp h
      rw [ih hname.2 h, lookup_setField, if_neg fun heq => hname.1 (congrArg Value.text heq)]
    | _ => exact ih hname.2 h

/-- A field that one entry names takes what comes of it. -/
theorem lookup_of_named (hkeys : (entries.map Prod.fst).Nodup) (hentry : (.text name, given) ∈ entries)
    (hfield : fields.lookup name = some base)
    (h : merge.mergeEntries place fields entries fields = .ok out) :
    ∃ v, LaidOver (place ++ "." ++ name) base given v ∧ out.lookup name = some v := by
  obtain ⟨front, back, rfl⟩ := List.append_of_mem hentry
  rw [List.map_append, List.map_cons, List.nodup_middle, List.nodup_cons, List.mem_append, not_or] at hkeys
  obtain ⟨⟨hfront, hback⟩, -⟩ := hkeys
  rw [mergeEntries_append] at h
  obtain ⟨fields', hfields', h⟩ := Result.bind_eq_ok_iff.mp h
  obtain ⟨v, hv, h⟩ := mergeEntries_cons_eq_ok_iff.mp h
  rw [hfield] at hv
  refine ⟨v, hv, ?_⟩
  rw [lookup_of_unnamed hback h, lookup_setField, if_pos rfl, lookup_of_unnamed hfront hfields', hfield]
  rfl

/-! ## Whole mappings -/

/-- A mapping laid over a record lays its entries over the fields, all of which it knows. -/
theorem merge_dict_eq_ok_iff : merge (.record kind fields) place (.dict entries) = .ok merged ↔
    (∀ entry ∈ entries, isKnown fields entry.1 = true) ∧
      ∃ out, merge.mergeEntries place fields entries fields = .ok out ∧ merged = .record kind out := by
  rw [merge_dict]
  split
  · rename_i hknown
    rw [Result.map_eq_ok_iff, and_iff_right hknown]
    simp only [eq_comm]
  · rename_i hknown
    exact iff_of_false nofun fun h => hknown h.1

/-- Options for a base in another order: the entries of a mapping that is laid over a record change places, there or
in its sections. -/
inductive Reordered : Value → Value → Value → Prop where
  /-- as they are -/
  | refl (base given : Value) : Reordered base given given
  /-- entries change places -/
  | perm {kind : RecordKind} {fields : List (Text × Value)} {entries entries' : List (Value × Value)}
      (h : entries.Perm entries') : Reordered (.record kind fields) (.dict entries) (.dict entries')
  /-- what is given for a section is in another order -/
  | inside {kind kind' : RecordKind} {fields section_ : List (Text × Value)} {name : Text} {v v' : Value}
      {front back : List (Value × Value)} (isSection : fields.lookup name = some (.record kind' section_))
      (h : Reordered (.record kind' section_) v v') :
      Reordered (.record kind fields) (.dict (front ++ (.text name, v) :: back))
        (.dict (front ++ (.text name, v') :: back))
  /-- one after the other -/
  | trans {base given given' given'' : Value} (first : Reordered base given given')
      (second : Reordered base given' given'') : Reordered base given given''

/-- Keys that are distinct stay so in another order. -/
theorem Reordered.distinctKeys {given' : Value} (h : Reordered base given given') (hkeys : given.DistinctKeys) :
    given'.DistinctKeys := by
  induction h with
  | refl => exact hkeys
  | perm hperm =>
    exact .dict ((hperm.map Prod.fst).nodup_iff.mp hkeys.nodup) fun entry hentry =>
      hkeys.of_mem (hperm.mem_iff.mpr hentry)
  | @inside _ _ _ _ name v v' front back _ _ ih =>
    have hv : (Value.text name, v) ∈ front ++ (.text name, v) :: back :=
      List.mem_append_right _ (List.mem_cons_self ..)
    have hnodup := hkeys.nodup
    rw [List.map_append, List.map_cons] at hnodup
    refine .dict (by rwa [List.map_append, List.map_cons]) fun entry hentry => ?_
    rcases List.mem_append.mp hentry with hfront | hback
    · exact hkeys.of_mem (List.mem_append_left _ hfront)
    · rcases List.mem_cons.mp hback with rfl | hback
      · exact ih (hkeys.of_mem hv)
      · exact hkeys.of_mem (List.mem_append_right _ (List.mem_cons_of_mem _ hback))
  | trans _ _ ih ih' => exact ih' (ih hkeys)

/-- **The order of the options does not matter**, neither that of the sections nor that of the options in a section. -/
theorem merge_reordered {given' : Value} (h : Reordered base given given') (hkeys : given.DistinctKeys)
    (hmerge : merge base place given = .ok merged) : merge base place given' = .ok merged := by
  induction h generalizing place merged with
  | refl => exact hmerge
  | perm hperm =>
    obtain ⟨hknown, out, hout, rfl⟩ := merge_dict_eq_ok_iff.mp hmerge
    refine merge_dict_eq_ok_iff.mpr ⟨fun entry hentry => hknown entry (hperm.mem_iff.mpr hentry), out, ?_, rfl⟩
    refine mergeEntries_perm hperm (fun entry hentry => ?_) hkeys.nodup hout
    obtain ⟨t, ht, -⟩ := isKnown_iff.mp (hknown entry hentry)
    exact ⟨t, ht⟩
  | @inside _ _ _ _ name v v' front back isSection _ ih =>
    obtain ⟨hknown, out, hout, rfl⟩ := merge_dict_eq_ok_iff.mp hmerge
    have hv : (Value.text name, v) ∈ front ++ (.text name, v) :: back :=
      List.mem_append_right _ (List.mem_cons_self ..)
    refine merge_dict_eq_ok_iff.mpr ⟨fun entry hentry => ?_, out, ?_, rfl⟩
    · rcases List.mem_append.mp hentry with hfront | hback
      · exact hknown entry (List.mem_append_left _ hfront)
      · rcases List.mem_cons.mp hback with rfl | hback
        · exact hknown (.text name, v) hv
        · exact hknown entry (List.mem_append_right _ (List.mem_cons_of_mem _ hback))
    · rw [mergeEntries_append] at hout ⊢
      obtain ⟨fields', hfields', hout⟩ := Result.bind_eq_ok_iff.mp hout
      obtain ⟨w, hw, hout⟩ := mergeEntries_cons_eq_ok_iff.mp hout
      rw [isSection] at hw
      refine Result.bind_eq_ok_iff.mpr ⟨fields', hfields', mergeEntries_cons_eq_ok_iff.mpr ⟨w, ?_, hout⟩⟩
      rw [isSection]
      exact ih (hkeys.of_mem hv) hw
  | trans first _ ih ih' => exact ih' (first.distinctKeys hkeys) (ih hkeys hmerge)

/-! ## The end of a path -/

/-- The place at the end of a path, as messages name it. -/
def placeAt (place : Text) : List Text → Text
  | [] => place
  | name :: path => placeAt (place ++ "." ++ name) path

/-- What comes of a place that holds `base?`, if anything, when `given?` is given for it, if anything. -/
def Laid (place : Text) (base? given? out? : Option Value) : Prop :=
  match base?, given? with
  | _, none => out? = base?
  | none, some _ => out? = none
  | some base, some given => ∃ out, LaidOver place base given out ∧ out? = some out

/-- **What stands at the end of a path comes from what stood there and from what is given there**, and from nothing
else. -/
theorem laid_atPath? {path : List Text} (hbase : isRecord base = true) (hkeys : given.DistinctKeys)
    (halong : given.givesAlong path = true) (h : merge base place given = .ok merged) :
    Laid (placeAt place path) (base.atPath? path) (given.named? path) (merged.atPath? path) := by
  induction path generalizing base place given merged with
  | nil => exact ⟨merged, (if_pos hbase).mpr h, rfl⟩
  | cons name path ih =>
    obtain ⟨⟨entries, rfl⟩, halong⟩ := Value.givesAlong_cons_iff.mp halong
    cases base with
    | record kind fields =>
      obtain ⟨hknown, out, hout, rfl⟩ := merge_dict_eq_ok_iff.mp h
      simp only [Value.atPath?, Value.named?, Value.field?, placeAt]
      cases hgiven : (Value.dict entries).given? name with
      | none =>
        rw [lookup_of_unnamed (not_mem_keys hgiven) hout]
        exact rfl
      | some given =>
        have hmem := mem_of_given? hgiven
        obtain ⟨base, hfield⟩ : ∃ base, fields.lookup name = some base := by
          obtain ⟨t, ht, hsome⟩ := isKnown_iff.mp (hknown _ hmem)
          obtain rfl := Value.text.inj ht
          exact Option.isSome_iff_exists.mp hsome
        obtain ⟨v, hv, hlookup⟩ := lookup_of_named hkeys.nodup hmem hfield hout
        rw [hfield, hlookup]
        simp only [Option.bind_some]
        cases hrecord : isRecord base with
        | true => exact ih hrecord (hkeys.of_mem hmem) (halong given hgiven) ((if_pos hrecord).mp hv)
        | false =>
          obtain rfl := (laidOver_iff_of_not_isRecord hrecord).mp hv
          cases path with
          | nil => exact ⟨v, hv, rfl⟩
          | cons n rest =>
            -- neither what stands here nor the mapping that replaces it has fields
            obtain ⟨⟨entries', rfl⟩, -⟩ := Value.givesAlong_cons_iff.mp (halong v hgiven)
            have hnone : base.atPath? (n :: rest) = none := by
              cases base with
              | record kind fields => cases hrecord
              | recordClass kind => cases hrecord
              | _ => rfl
            rw [hnone]
            cases (Value.dict entries').named? (n :: rest) with
            | none => exact rfl
            | some given => exact rfl
    | recordClass kind => exact absurd h merge_recordClass_dict_ne_ok
    | _ => cases hbase

end Options

namespace Policy

open Options

variable {options defaults next both : Value} {p p₁ p₂ p₃ : Policy} {leaf : Leaf}

/-! ## Resolved options -/

/-- Sections are given as mappings. -/
def GivesSections (options : Value) : Prop := ∀ leaf : Leaf, options.givesAlong leaf.path = true

/-- What a leaf settles to when options are laid over the defaults. -/
def LayersAt (defaults options : Value) (leaf : Leaf) (settled : Value) : Prop :=
  ∃ base, defaults.atPath? leaf.path = some base ∧
    match options.named? leaf.path with
    | none => settled = leaf.settle base
    | some given => ∃ out, LaidOver (placeAt "options" leaf.path) base given out ∧ settled = leaf.settle out

theorem layersAt_of_resolve (hkeys : options.DistinctKeys) (hsections : GivesSections options)
    (h : resolve options defaults = .ok p) (leaf : Leaf) : LayersAt defaults options leaf (p.value leaf) := by
  obtain ⟨merged, hmerged, -, hsettles⟩ := resolve_eq_ok_iff.mp h
  obtain ⟨v, hv, hsettle⟩ := hsettles leaf
  have hrecord : isRecord defaults = true := by
    obtain ⟨⟨entries, rfl⟩, -⟩ := Value.givesAlong_cons_iff.mp (hsections .fallback)
    cases defaults with
    | record kind fields => rfl
    | recordClass kind => rfl
    | dict entries' =>
      -- a mapping in place of another has no leaves
      obtain rfl := Except.ok.inj hmerged
      obtain ⟨w, hw, -⟩ := hsettles .fallback
      cases hw
    | _ => cases hmerged
  have hlaid := laid_atPath? hrecord hkeys (hsections leaf) hmerged
  rw [hv] at hlaid
  unfold Laid at hlaid
  unfold LayersAt
  split at hlaid
  · rename_i hnone
    exact ⟨v, hlaid.symm, by rw [hnone]; exact hsettle.symm⟩
  · cases hlaid
  · rename_i base given hbase hgiven
    obtain ⟨out, hout, heq⟩ := hlaid
    obtain rfl := Option.some.inj heq
    exact ⟨base, hbase, by rw [hgiven]; exact ⟨v, hout, hsettle.symm⟩⟩

/-- A leaf settles to what has fields exactly if it holds that. -/
theorem isRecord_settle {v : Value} : isRecord (leaf.settle v) = isRecord v := by
  cases leaf with
  | sources => cases v <;> rfl
  | pattern =>
    cases v with
    | text t => cases hcompile : Pattern.compile [] t <;> simp [Leaf.settle, hcompile, isRecord]
    | _ => rfl
  | _ => rfl

theorem settle_eq_of_isRecord {v : Value} (h : isRecord v = true) : leaf.settle v = v := by
  cases v with
  | record kind fields => cases leaf <;> rfl
  | recordClass kind => cases leaf <;> rfl
  | _ => cases h

/-- It makes no difference to what comes of `given` whether it is laid over a value or over what that settles to. -/
theorem laidOver_settle_iff {place : Text} {base given out : Value} :
    LaidOver place (leaf.settle base) given out ↔ LaidOver place base given out := by
  cases hrecord : isRecord base with
  | true => rw [settle_eq_of_isRecord hrecord]
  | false => rw [laidOver_iff_of_not_isRecord hrecord, laidOver_iff_of_not_isRecord (isRecord_settle.trans hrecord)]

namespace LayersAt

variable {base given v w : Value}

/-- A leaf that is not named settles to what the defaults hold. -/
theorem eq_settle (h : LayersAt defaults options leaf v) (hbase : defaults.atPath? leaf.path = some base)
    (hnone : options.named? leaf.path = none) : v = leaf.settle base := by
  obtain ⟨base', hbase', h⟩ := h
  obtain rfl := Option.some.inj (hbase.symm.trans hbase')
  rw [hnone] at h
  exact h

/-- A leaf that is named settles to what comes of the value that is given. -/
theorem exists_laidOver (h : LayersAt defaults options leaf v) (hbase : defaults.atPath? leaf.path = some base)
    (hgiven : options.named? leaf.path = some given) :
    ∃ out, LaidOver (placeAt "options" leaf.path) base given out ∧ v = leaf.settle out := by
  obtain ⟨base', hbase', h⟩ := h
  obtain rfl := Option.some.inj (hbase.symm.trans hbase')
  rw [hgiven] at h
  exact h

/-- Only what is given for a leaf matters to it. -/
theorem unique (h : LayersAt defaults options leaf v) (h' : LayersAt defaults next leaf w)
    (hsame : options.named? leaf.path = next.named? leaf.path) : v = w := by
  obtain ⟨base, hbase, -⟩ := id h
  cases hoptions : options.named? leaf.path with
  | none => rw [h.eq_settle hbase hoptions, h'.eq_settle hbase (hsame.symm.trans hoptions)]
  | some given =>
    obtain ⟨out, hout, rfl⟩ := h.exists_laidOver hbase hoptions
    obtain ⟨out', hout', rfl⟩ := h'.exists_laidOver hbase (hsame.symm.trans hoptions)
    rw [hout.unique hout']

end LayersAt

/-- Options with all that two mappings name, where the second comes before the first. -/
def Overlays (options next both : Value) : Prop :=
  ∀ leaf : Leaf, both.named? leaf.path = (next.named? leaf.path).or (options.named? leaf.path)

/-- Of two mappings, one after the other, at most one has something for a leaf, or nothing that has fields stands
there, neither before them nor in between. -/
def IsPlain (options next defaults : Value) (between : Policy) (leaf : Leaf) : Prop :=
  options.named? leaf.path = none ∨ next.named? leaf.path = none ∨
    (defaults.atPath? leaf.path).any isRecord = false ∧ isRecord (between.value leaf) = false

/-- **Two mappings, one after the other, settle a leaf as one that overlays them does.** -/
theorem value_eq_of_layersAt (hboth : Overlays options next both) (hplain : IsPlain options next defaults p₁ leaf)
    (h₁ : LayersAt defaults options leaf (p₁.value leaf)) (h₂ : LayersAt p₁.toRecord next leaf (p₂.value leaf))
    (h₃ : LayersAt defaults both leaf (p₃.value leaf)) : p₂.value leaf = p₃.value leaf := by
  have hoverlay := hboth leaf
  cases hnext : next.named? leaf.path with
  | none =>
    -- the second mapping leaves what is settled already
    rw [hnext, Option.none_or] at hoverlay
    rw [h₂.eq_settle atPath?_toRecord hnext, settle_value]
    exact h₁.unique h₃ hoverlay.symm
  | some given =>
    rw [hnext, Option.some_or] at hoverlay
    obtain ⟨base, hbase, -⟩ := id h₁
    obtain ⟨out, hout, hsettle⟩ := h₂.exists_laidOver atPath?_toRecord hnext
    obtain ⟨out', hout', hsettle'⟩ := h₃.exists_laidOver hbase hoverlay
    rw [hsettle, hsettle']
    refine congrArg leaf.settle ?_
    cases hoptions : options.named? leaf.path with
    | none =>
      -- both times it is laid over what the defaults hold
      rw [h₁.eq_settle hbase hoptions, laidOver_settle_iff] at hout
      exact hout.unique hout'
    | some given' =>
      obtain ⟨hnot, hbetween⟩ : isRecord base = false ∧ isRecord (p₁.value leaf) = false := by
        rcases hplain with h | h | ⟨hdefaults, hbetween⟩
        · cases hoptions.symm.trans h
        · cases hnext.symm.trans h
        · rw [hbase] at hdefaults
          exact ⟨hdefaults, hbetween⟩
      rw [(laidOver_iff_of_not_isRecord hbetween).mp hout, (laidOver_iff_of_not_isRecord hnot).mp hout']

/-- **A mapping of options changes the leaves that it names, and no others.** A leaf that it does not name settles to
what the defaults hold there. One that it names settles to what is given, be it nothing, or, where the defaults hold
what has fields, to what is given merged into that. The order of the options does not matter. One mapping after another
is the same as one that overlays them at every leaf that is plain, and altogether if all leaves are. -/
theorem resolve_layers (hkeys : options.DistinctKeys) (hsections : GivesSections options)
    (h : resolve options defaults = .ok p) :
    (∀ leaf : Leaf, ∃ base, defaults.atPath? leaf.path = some base ∧
      (options.named? leaf.path = none → p.toRecord.atPath? leaf.path = some (leaf.settle base)) ∧
      ∀ given, options.named? leaf.path = some given →
        (isRecord base = false → p.toRecord.atPath? leaf.path = some (leaf.settle given)) ∧
        (isRecord base = true → ∃ out, merge base (placeAt "options" leaf.path) given = .ok out ∧
          p.toRecord.atPath? leaf.path = some (leaf.settle out))) ∧
    (∀ options', Reordered defaults options options' → resolve options' defaults = .ok p) ∧
    ∀ next both p₂ p₃, next.DistinctKeys → GivesSections next → both.DistinctKeys → GivesSections both →
      Overlays options next both → resolve next p.toRecord = .ok p₂ → resolve both defaults = .ok p₃ →
      (∀ leaf, IsPlain options next defaults p leaf →
        p₂.toRecord.atPath? leaf.path = p₃.toRecord.atPath? leaf.path) ∧
      ((∀ leaf, IsPlain options next defaults p leaf) → p₂ = p₃) := by
  have hlayers := layersAt_of_resolve hkeys hsections h
  refine ⟨fun leaf => ?_, fun options' hreordered => ?_, ?_⟩
  · obtain ⟨base, hbase, -⟩ := hlayers leaf
    refine ⟨base, hbase, fun hnone => ?_, fun given hgiven => ?_⟩
    · rw [atPath?_toRecord, (hlayers leaf).eq_settle hbase hnone]
    · obtain ⟨out, hout, hsettle⟩ := (hlayers leaf).exists_laidOver hbase hgiven
      rw [atPath?_toRecord, hsettle]
      refine ⟨fun hrecord => ?_, fun hrecord => ⟨out, (if_pos hrecord).mp hout, rfl⟩⟩
      rw [(laidOver_iff_of_not_isRecord hrecord).mp hout]
  · obtain ⟨merged, hmerged, hchecked⟩ := resolve_eq_ok_iff.mp h
    exact resolve_eq_ok_iff.mpr ⟨merged, merge_reordered hreordered hkeys hmerged, hchecked⟩
  · intro next both p₂ p₃ hkeys₂ hsections₂ hkeys₃ hsections₃ hboth h₂ h₃
    have hvalue (leaf : Leaf) (hplain : IsPlain options next defaults p leaf) : p₂.value leaf = p₃.value leaf :=
      value_eq_of_layersAt hboth hplain (hlayers leaf) (layersAt_of_resolve hkeys₂ hsections₂ h₂ leaf)
        (layersAt_of_resolve hkeys₃ hsections₃ h₃ leaf)
    refine ⟨fun leaf hplain => ?_, fun hplain => ext_leaves fun leaf => hvalue leaf (hplain leaf)⟩
    rw [atPath?_toRecord, atPath?_toRecord, hvalue leaf hplain]

/-- Defaults with a response for a message. -/
def answeringDefaults : Value :=
  RecordKind.versioning.build [("error_response", RecordKind.errorResponse.build
    [("missing_version_message", RecordKind.response.build [("body", .text "no version")])])]

/-- Options with one value for the message when no version came. -/
def messageOptions (message : Value) : Value :=
  .dict [(.text "error_response", .dict [(.text "missing_version_message", message)])]

theorem distinctKeys_messageOptions {message : Value} (h : ∀ entries, message ≠ .dict entries) :
    (messageOptions message).DistinctKeys :=
  .dict (List.nodup_singleton _) (List.forall_mem_singleton.mpr
    (.dict (List.nodup_singleton _) (List.forall_mem_singleton.mpr (.leaf h))))

theorem givesSections_messageOptions (message : Value) : GivesSections (messageOptions message) := by
  intro leaf
  cases leaf <;> rfl

/-- A class of records that can be called. -/
def greeterClass : UserClass := ⟨0, "Greeter", ["greeting"], true⟩

/-- A record that can be called. -/
def greeter : Value := .record (.user greeterClass) [("greeting", .text "hi")]

/-- Options with a default handler. -/
def handlerOptions (handler : Value) : Value := .dict [(.text "default_handler", handler)]

/-- Nothing, given for a message or a handler, does not take the place of a record or of a class of records: these stay,
whether they come from the defaults or from a mapping before, so that one mapping after another is not the same as one
that overlays them. A function does not take their place either, and is reported instead. -/
theorem resolve_null_over_record :
    ((messageOptions .null).DistinctKeys ∧ GivesSections (messageOptions .null) ∧
      (messageOptions .null).named? Leaf.missingMessage.path = some .null ∧
      ∃ p, resolve (messageOptions .null) answeringDefaults = .ok p ∧
        p.toRecord.atPath? Leaf.missingMessage.path ≠ some (Leaf.missingMessage.settle .null)) ∧
    (∃ options p p₂ p₃, options.DistinctKeys ∧ GivesSections options ∧
      Overlays options (messageOptions .null) (messageOptions .null) ∧
      resolve options defaultOptions = .ok p ∧ resolve (messageOptions .null) p.toRecord = .ok p₂ ∧
      resolve (messageOptions .null) defaultOptions = .ok p₃ ∧ p₂ ≠ p₃) ∧
    ∀ handler ∈ [greeter, .recordClass (.user greeterClass)],
      (∃ p, resolve (handlerOptions .null)
          (RecordKind.versioning.build [("default_handler", handler)]) = .ok p ∧
        p.toRecord.atPath? Leaf.defaultHandler.path = some handler) ∧
      ∃ reason, resolve (handlerOptions (.function 0))
        (RecordKind.versioning.build [("default_handler", handler)]) = .error (.configuration reason) := by
  refine ⟨⟨distinctKeys_messageOptions nofun, givesSections_messageOptions _, rfl, ?_⟩, ?_, ?_⟩
  · obtain ⟨p, hp, hmessage⟩ : ∃ p, resolve (messageOptions .null) answeringDefaults = .ok p ∧
        isRecord p.missingMessage = true := ⟨_, rfl, rfl⟩
    refine ⟨p, hp, fun h => ?_⟩
    have hnull : p.missingMessage = .null := Option.some.inj (atPath?_toRecord.symm.trans h)
    rw [hnull] at hmessage
    cases hmessage
  · obtain ⟨p, p₂, p₃, hp, hp₂, hp₃, hmessage, hnull⟩ : ∃ p p₂ p₃,
        resolve (messageOptions (RecordKind.response.build [])) defaultOptions = .ok p ∧
        resolve (messageOptions .null) p.toRecord = .ok p₂ ∧
        resolve (messageOptions .null) defaultOptions = .ok p₃ ∧
        isRecord p₂.missingMessage = true ∧ isRecord p₃.missingMessage = false :=
      ⟨_, _, _, rfl, rfl, rfl, rfl, rfl⟩
    have hrecord (entries : List (Value × Value)) : RecordKind.response.build [] ≠ .dict entries := by
      rw [RecordKind.build]
      nofun
    refine ⟨_, p, p₂, p₃, distinctKeys_messageOptions hrecord, givesSections_messageOptions _,
      fun leaf => ?_, hp, hp₂, hp₃, fun heq => ?_⟩
    · cases leaf <;> rfl
    · rw [heq, hnull] at hmessage
      cases hmessage
  · simp only [List.forall_mem_cons]
    exact ⟨⟨⟨_, rfl, rfl⟩, _, rfl⟩, ⟨⟨_, rfl, rfl⟩, _, rfl⟩, List.forall_mem_nil _⟩

/-- Options with the name of the header. -/
def headerOptions : Value :=
  .dict [(.text "extraction", .dict [(.text "header", .dict [(.text "name", .text "x-version")])])]

/-- Options with a list of sources and no default handler. -/
def sourceOptions : Value :=
  .dict [(.text "default_handler", .null), (.text "extraction", .dict [(.text "sources", .list [.text "query"])])]

/-- Both. -/
def headerAndSourceOptions : Value :=
  .dict [(.text "extraction", .dict [(.text "header", .dict [(.text "name", .text "x-version")]),
    (.text "sources", .list [.text "query"])]), (.text "default_handler", .null)]

theorem nodup_pair {t u : Text} (h : t ≠ u) : [Value.text t, .text u].Nodup :=
  List.nodup_cons.mpr ⟨fun hmem => h (Value.text.inj (List.mem_singleton.mp hmem)), List.nodup_singleton _⟩

/-- The header first and the sources and the handler second are the same as both at once. -/
theorem resolve_headerAndSourceOptions : ∃ p p₂, resolve headerOptions defaultOptions = .ok p ∧
    p.toRecord.atPath? Leaf.header.path = some (.text "x-version") ∧ resolve sourceOptions p.toRecord = .ok p₂ ∧
    resolve headerAndSourceOptions defaultOptions = .ok p₂ := by
  obtain ⟨p, p₂, p₃, hp, hp₂, hp₃⟩ : ∃ p p₂ p₃, resolve headerOptions defaultOptions = .ok p ∧
      resolve sourceOptions p.toRecord = .ok p₂ ∧ resolve headerAndSourceOptions defaultOptions = .ok p₃ :=
    ⟨_, _, _, rfl, rfl, rfl⟩
  have hheader : headerOptions.DistinctKeys :=
    .dict (List.nodup_singleton _) (List.forall_mem_singleton.mpr (.dict (List.nodup_singleton _)
      (List.forall_mem_singleton.mpr (.dict (List.nodup_singleton _)
        (List.forall_mem_singleton.mpr (.leaf nofun))))))
  have hsource : sourceOptions.DistinctKeys :=
    .dict (nodup_pair (by decide)) (List.forall_mem_cons.mpr ⟨.leaf nofun, List.forall_mem_singleton.mpr
      (.dict (List.nodup_singleton _) (List.forall_mem_singleton.mpr (.leaf nofun)))⟩)
  have hboth : headerAndSourceOptions.DistinctKeys := by
    refine .dict (nodup_pair (by decide)) (List.forall_mem_cons.mpr
      ⟨.dict (nodup_pair (by decide)) (List.forall_mem_cons.mpr ⟨?_, List.forall_mem_singleton.mpr (.leaf nofun)⟩),
        List.forall_mem_singleton.mpr (.leaf nofun)⟩)
    exact .dict (List.nodup_singleton _) (List.forall_mem_singleton.mpr (.leaf nofun))
  -- no leaf is named by both
  have hplain (leaf : Leaf) : IsPlain headerOptions sourceOptions defaultOptions p leaf := by
    cases leaf with
    | header => exact .inr (.inl rfl)
    | _ => exact .inl rfl
  have hlayers := resolve_layers hheader (fun leaf => by cases leaf <;> rfl) hp
  obtain ⟨base, hbase, -, hnamed⟩ := hlayers.1 .header
  have heq : p₂ = p₃ := (hlayers.2.2 sourceOptions headerAndSourceOptions p₂ p₃ hsource
    (fun leaf => by cases leaf <;> rfl) hboth (fun leaf => by cases leaf <;> rfl)
    (fun leaf => by cases leaf <;> rfl) hp₂ hp₃).2 hplain
  refine ⟨p, p₂, hp, (hnamed _ rfl).1 ?_, hp₂, heq ▸ hp₃⟩
  obtain rfl := Option.some.inj hbase
  rfl

end Policy

end SemverDispatch
