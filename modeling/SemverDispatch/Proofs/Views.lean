import Mathlib.Data.List.Perm.Subperm
import SemverDispatch.Failure
import SemverDispatch.Multimap

/-!
# The views of a multimap

A multimap is seen in several ways: the values under a name, the first of them, whether there is one, the distinct
names, and the names with their first values. All of these say the same:

* names are listed once each, in the order in which they first arrive (`pairwise_idxOf_names`), and those of two
  multimaps in a row are the first one's and then what is new in the second (`names_append`);
* a name is found in every way or in none, and the first value is the one that counts (`lookedUp`);
* two multimaps agree exactly if every name has the same first value in both, or none in either (`agrees_iff`).

Queries and headers are read through these views, so what is true of one is true of both.
-/

namespace SemverDispatch

namespace Multimap

variable {ν μ : Type} {m : Multimap ν} {name : Text} {v : ν} {seen ts us : List Text}

/-! ## Names -/

theorem mem_distinct_iff : name ∈ names.distinct seen ts ↔ name ∈ ts ∧ name ∉ seen := by
  induction ts generalizing seen with
  | nil => simp [names.distinct]
  | cons t rest ih =>
    rw [names.distinct]
    split
    · rename_i ht
      rw [ih, List.mem_cons]
      refine and_congr_left fun hnot => ⟨.inr, fun h => h.resolve_left ?_⟩
      rintro rfl
      exact hnot ht
    · rename_i ht
      by_cases heq : name = t
      · subst heq
        simp [ht]
      · simp [ih, heq]

/-- The names are those that something stands under. -/
theorem mem_names_iff : name ∈ m.names ↔ name ∈ m.map Prod.fst := by
  simp [names, mem_distinct_iff]

/-- Texts are listed in the order in which they first arrive. -/
theorem pairwise_idxOf_distinct :
    (names.distinct seen ts).Pairwise fun a b => ts.idxOf a < ts.idxOf b := by
  -- what is listed behind `t` is another text, so its place is one further than in the rest
  have hlater {t a : Text} {rest : List Text} (h : a ≠ t) : (t :: rest).idxOf a = rest.idxOf a + 1 :=
    List.idxOf_cons_ne _ h.symm
  induction ts generalizing seen with
  | nil => exact .nil
  | cons t rest ih =>
    have hshift {seen' : List Text} (ht : t ∈ seen') :
        (names.distinct seen' rest).Pairwise fun a b => (t :: rest).idxOf a < (t :: rest).idxOf b := by
      have hne {a : Text} (ha : a ∈ names.distinct seen' rest) : a ≠ t :=
        fun heq => (mem_distinct_iff.mp ha).2 (heq ▸ ht)
      refine List.Pairwise.imp_of_mem (fun ha hb hlt => ?_) ih
      rw [hlater (hne ha), hlater (hne hb)]
      exact Nat.succ_lt_succ hlt
    rw [names.distinct]
    split
    · rename_i ht
      exact hshift ht
    · refine List.pairwise_cons.mpr ⟨fun a ha => ?_, hshift (List.mem_cons_self ..)⟩
      have hne : a ≠ t := fun heq => (mem_distinct_iff.mp ha).2 (heq ▸ List.mem_cons_self ..)
      rw [List.idxOf_cons_self, hlater hne]
      exact Nat.succ_pos _

/-- **Names are listed in the order in which they first arrive.** -/
theorem pairwise_idxOf_names (m : Multimap ν) :
    m.names.Pairwise fun a b => (m.map Prod.fst).idxOf a < (m.map Prod.fst).idxOf b :=
  pairwise_idxOf_distinct

/-- No name is listed twice. -/
theorem nodup_names (m : Multimap ν) : m.names.Nodup :=
  m.pairwise_idxOf_names.imp fun hlt heq => absurd (heq ▸ hlt) (Nat.lt_irrefl _)

theorem distinct_of_nodup (hnodup : ts.Nodup) (hnew : ∀ t ∈ ts, t ∉ seen) : names.distinct seen ts = ts := by
  induction ts generalizing seen with
  | nil => rfl
  | cons t rest ih =>
    obtain ⟨ht, hrest⟩ := List.nodup_cons.mp hnodup
    obtain ⟨hnot, hothers⟩ := List.forall_mem_cons.mp hnew
    rw [names.distinct, if_neg hnot, ih hrest]
    intro u hu hmem
    rcases List.mem_cons.mp hmem with rfl | hmem
    · exact ht hu
    · exact hothers u hu hmem

/-- Distinct names are listed as they are. -/
theorem names_eq_of_nodup (h : (m.map Prod.fst).Nodup) : m.names = m.map Prod.fst :=
  distinct_of_nodup h fun _ _ => List.not_mem_nil

/-- What was seen before is left out. -/
theorem distinct_eq_filter (seen ts : List Text) :
    names.distinct seen ts = (names.distinct [] ts).filter (· ∉ seen) := by
  induction ts generalizing seen with
  | nil => rfl
  | cons t rest ih =>
    have hother : names.distinct [] (t :: rest) = t :: (names.distinct [] rest).filter (· ∉ [t]) := by
      rw [names.distinct, if_neg List.not_mem_nil, ih]
    rw [hother, names.distinct]
    split
    · rename_i ht
      rw [ih, List.filter_cons_of_neg (by simpa using ht), List.filter_filter]
      refine List.filter_congr fun a _ => ?_
      have hne (hnot : a ∉ seen) : a ≠ t := fun heq => hnot (heq ▸ ht)
      simpa using fun hnot => hne hnot
    · rename_i ht
      rw [ih, List.filter_cons_of_pos (by simpa using ht), List.filter_filter]
      refine congrArg (t :: ·) (List.filter_congr fun a _ => ?_)
      simp [Bool.and_comm]

theorem distinct_cons_seen (t : Text) (seen ts : List Text) :
    names.distinct (t :: seen) ts = (names.distinct seen ts).filter (· ≠ t) := by
  rw [distinct_eq_filter, distinct_eq_filter seen, List.filter_filter]
  exact List.filter_congr fun a _ => by simp

/-- Of two rows, the second adds what is new in it. -/
theorem distinct_append :
    names.distinct seen (ts ++ us) = names.distinct seen ts ++ (names.distinct seen us).filter (· ∉ ts) := by
  induction ts generalizing seen with
  | nil => simp [names.distinct]
  | cons t rest ih =>
    rw [List.cons_append, names.distinct, names.distinct]
    split
    · rename_i ht
      rw [ih]
      refine congrArg (_ ++ ·) (List.filter_congr fun a ha => ?_)
      have hne : a ≠ t := fun heq => (mem_distinct_iff.mp ha).2 (heq ▸ ht)
      simp [hne]
    · rw [ih, List.cons_append, distinct_cons_seen t seen us, List.filter_filter]
      refine congrArg (t :: _ ++ ·) (List.filter_congr fun a _ => ?_)
      simp [Bool.and_comm]

/-- **The names of two multimaps in a row** are the first one's and then the new ones of the second. -/
theorem names_append (m other : Multimap ν) :
    names (m ++ other) = names m ++ (names other).filter (· ∉ names m) := by
  rw [names, List.map_append, distinct_append]
  exact congrArg (_ ++ ·) (List.filter_congr fun a _ => by simp [mem_names_iff])

/-! ## Looking up -/

/-- What comes first stays first. -/
theorem get?_append (m other : Multimap ν) (name : Text) :
    get? (m ++ other) name = (m.get? name).or (other.get? name) :=
  List.lookup_append

theorem contains_iff_mem_names : m.contains name = true ↔ name ∈ m.names := by
  simp [contains, mem_names_iff]

theorem isSome_get?_iff : (m.get? name).isSome = true ↔ name ∈ m.names := by
  rw [← contains_eq_isSome, contains_iff_mem_names]

theorem getAll_cons (n : Text) (w : ν) (m : Multimap ν) (name : Text) :
    getAll ((n, w) :: m) name = if n = name then w :: getAll m name else getAll m name := by
  by_cases h : n = name
  · simp [getAll, h]
  · simp [getAll, h]

theorem getAll_eq_nil_iff : m.getAll name = [] ↔ name ∉ m.names := by
  rw [← isSome_get?_iff, m.get?_eq_head?, List.isSome_head?, not_ne_iff]

/-- What comes of looking a name up in every way: it is listed or not, and there is an answer to whether it occurs, to
all its values, to the first one if there is one, and to the first one that has to be there. All find it, and then the
first value counts, or none does. -/
inductive LookedUp (name : Text) (listed : Prop) : (occurs : Except Failure Bool) → (all : Except Failure (List ν)) →
    (first : Except Failure (Option ν)) → (item : Except Failure ν) → Prop where
  /-- the name is there -/
  | found (v : ν) (others : List ν) (h : listed) :
    LookedUp name listed (.ok true) (.ok (v :: others)) (.ok (some v)) (.ok v)
  /-- the name is not there -/
  | missing (h : ¬ listed) : LookedUp name listed (.ok false) (.ok []) (.ok none) (.error (.noKey name))

/-- The first value under a name that has to be there, where `shown` is what a message calls it. -/
def item (m : Multimap ν) (name shown : Text) : Except Failure ν :=
  match m.get? name with
  | some v => .ok v
  | none => .error (.noKey shown)

theorem item_eq_ok_iff {shown : Text} : m.item name shown = .ok v ↔ m.get? name = some v := by
  rw [item]
  cases m.get? name with
  | some w => rw [Except.ok.injEq, Option.some_inj]
  | none => exact ⟨nofun, nofun⟩

/-- **A name is found in every way or in none**, and the value that counts is the first. -/
theorem lookedUp (m : Multimap ν) (name shown : Text) :
    LookedUp shown (name ∈ m.names) (.ok (m.contains name)) (.ok (m.getAll name)) (.ok (m.get? name))
      (m.item name shown) := by
  have hlisted : (m.get? name).isSome = true ↔ name ∈ m.names := isSome_get?_iff
  have hfirst := m.get?_eq_head? name
  rw [item, m.contains_eq_isSome]
  cases hall : m.getAll name with
  | nil =>
    rw [hall] at hfirst
    rw [hfirst] at hlisted ⊢
    exact .missing fun h => absurd (hlisted.mpr h) Bool.false_ne_true
  | cons v others =>
    rw [hall] at hfirst
    rw [hfirst] at hlisted ⊢
    exact .found v others (hlisted.mp rfl)

/-! ## Items -/

/-- In a row of names with what is found under them, a name of the row is found like that. -/
theorem lookup_filterMap (found : Text → Option ν) (ns : List Text) (name : Text) :
    (ns.filterMap fun n => (found n).map (n, ·)).lookup name = if name ∈ ns then found name else none := by
  induction ns with
  | nil => rfl
  | cons n rest ih =>
    by_cases hn : name = n
    · subst hn
      cases hfound : found name with
      | none => simp [hfound, ih]
      | some v => simp [hfound]
    · cases hfound : found n with
      | none => simp [hfound, ih, hn]
      | some v => simp [hfound, ih, hn, List.lookup_cons, beq_eq_false_iff_ne.mpr hn]

/-- Looking up among the items is looking up. -/
theorem get?_items (m : Multimap ν) (name : Text) : get? m.items name = m.get? name := by
  rw [get?, items, lookup_filterMap]
  split
  · rfl
  · rename_i hnot
    exact (Option.not_isSome_iff_eq_none.mp (mt isSome_get?_iff.mp hnot)).symm

theorem mem_items_iff : (name, v) ∈ m.items ↔ m.get? name = some v := by
  simp only [items, List.mem_filterMap, Option.map_eq_some_iff, Prod.mk.injEq]
  constructor
  · rintro ⟨_, -, w, hw, rfl, rfl⟩
    exact hw
  · intro h
    exact ⟨name, isSome_get?_iff.mp (h ▸ rfl), v, h, rfl, rfl⟩

/-- What is first under a name stands under it. -/
theorem mem_of_get? (h : m.get? name = some v) : (name, v) ∈ m := by
  obtain ⟨before, after, rfl, -⟩ := List.lookup_eq_some_iff.mp h
  exact List.mem_append_right _ (List.mem_cons_self ..)

/-- Under a name of several distinct ones stands one value. -/
theorem getAll_of_nodup (h : (m.map Prod.fst).Nodup) (hmem : (name, v) ∈ m) : m.getAll name = [v] := by
  induction m with
  | nil => cases hmem
  | cons entry rest ih =>
    obtain ⟨n, w⟩ := entry
    obtain ⟨hn, hrest⟩ := List.nodup_cons.mp h
    rw [getAll_cons]
    rcases List.mem_cons.mp hmem with heq | hmem
    · obtain ⟨rfl, rfl⟩ := Prod.mk.inj heq
      rw [if_pos rfl, getAll_eq_nil_iff.mpr (mt mem_names_iff.mp hn)]
    · have hname : name ∈ rest.map Prod.fst := List.mem_map.mpr ⟨_, hmem, rfl⟩
      rw [if_neg fun heq : n = name => hn (heq ▸ hname), ih hrest hmem]

/-- The entries of a mapping of texts, as values. -/
def entries (m : Multimap Text) : List (Value × Value) :=
  m.map fun (name, value) => (.text name, .text value)

/-! ## Agreement -/

/-- **Multimaps agree exactly if every name has the same first value in both**, or none in either. -/
theorem agrees_iff {same : ν → μ → Bool} {other : Multimap μ} : m.agrees same other = true ↔
    ∀ name, Option.Rel (fun v w => same v w = true) (m.get? name) (other.get? name) := by
  simp only [agrees, Bool.and_eq_true, beq_iff_eq, List.all_eq_true, Prod.forall, mem_items_iff, Option.any_eq_true]
  constructor
  · rintro ⟨hlength, hall⟩ name
    have hsub : m.names ⊆ other.names := by
      intro n hn
      obtain ⟨v, hv⟩ := Option.isSome_iff_exists.mp (isSome_get?_iff.mpr hn)
      obtain ⟨w, hw, -⟩ := hall n v hv
      exact isSome_get?_iff.mp (hw ▸ rfl)
    have hperm : m.names.Perm other.names := (m.nodup_names.subperm hsub).perm_of_length_le (Nat.le_of_eq hlength.symm)
    cases hget : m.get? name with
    | some v =>
      obtain ⟨w, hw, hsame⟩ := hall name v hget
      rw [hw]
      exact .some hsame
    | none =>
      have hnot : name ∉ other.names := by
        rw [← hperm.mem_iff, ← isSome_get?_iff, hget]
        exact Bool.false_ne_true
      rw [Option.not_isSome_iff_eq_none.mp (mt isSome_get?_iff.mp hnot)]
      exact .none
  · intro hrel
    have hsome {a : Option ν} {b : Option μ} (h : Option.Rel (fun v w => same v w = true) a b) :
        a.isSome = b.isSome := by
      cases h with
      | some => rfl
      | none => rfl
    have hmem (n : Text) : n ∈ m.names ↔ n ∈ other.names := by
      rw [← isSome_get?_iff, ← isSome_get?_iff, hsome (hrel n)]
    refine ⟨((List.perm_ext_iff_of_nodup m.nodup_names other.nodup_names).mpr hmem).length_eq, fun n v hv => ?_⟩
    have hn := hrel n
    rw [hv] at hn
    cases hw : other.get? n with
    | none =>
      rw [hw] at hn
      cases hn
    | some w =>
      rw [hw] at hn
      cases hn with
      | some hsame => exact ⟨w, rfl, hsame⟩

end Multimap

end SemverDispatch
