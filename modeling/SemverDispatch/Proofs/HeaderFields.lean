import SemverDispatch.Headers
import SemverDispatch.Proofs.Decoding
import SemverDispatch.Proofs.Result
import SemverDispatch.Proofs.Views

/-!
# Headers in Latin-1

Names are folded once, when headers are built, and again whenever one is looked up. Both agree because the lower case
of a Latin-1 text is in Latin-1 and is its own lower case (`Text.isLatin1_lower`, `Text.lower_lower`): none of the first
256 code points is one of the two that fold by other rules. So a name that is listed is found under itself, and folded
names have bytes.

However headers are built of Latin-1 names and values (`Headers.Built`), they hold the folded pairs in their order
(`Headers.Built.pairs_eq`). That they are a coherent multimap whose case does not matter and that they survive the wire
follows from this (`Headers.coherent_of_built`).
-/

namespace SemverDispatch

/-! ## Lower case -/

/-- The first 256 code points have a lower case among them, which is its own lower case. -/
theorem CodePoint.simpleLower_ofNat : ∀ n < 256,
    (ofNat n).simpleLower.value < 256 ∧ (ofNat n).simpleLower.simpleLower = (ofNat n).simpleLower := by
  decide +kernel

theorem CodePoint.simpleLower_of_lt {c : CodePoint} (h : c.value < 256) :
    c.simpleLower.value < 256 ∧ c.simpleLower.simpleLower = c.simpleLower := by
  have hlower := simpleLower_ofNat c.value h
  rwa [ofNat_value] at hlower

namespace Text

variable {t : Text}

/-- In Latin-1 each code point folds alone, whatever stands before it. -/
theorem lowerFrom_eq_map (h : t.IsLatin1) (before : Text) : lowerFrom before t = t.map CodePoint.simpleLower := by
  induction t generalizing before with
  | nil => rfl
  | cons c rest ih =>
    obtain ⟨hc, hrest⟩ := List.forall_mem_cons.mp h
    have hsigma : c.value ≠ 0x3A3 := by omega
    have hdotted : c.value ≠ 0x130 := by omega
    rw [lowerFrom, lowerAt, if_neg hsigma, if_neg hdotted, ih hrest]
    rfl

theorem lower_eq_map (h : t.IsLatin1) : t.lower = t.map CodePoint.simpleLower :=
  lowerFrom_eq_map h []

/-- **The lower case of a Latin-1 text is in Latin-1.** -/
theorem isLatin1_lower (h : t.IsLatin1) : t.lower.IsLatin1 := by
  rw [lower_eq_map h]
  intro d hd
  obtain ⟨c, hc, rfl⟩ := List.mem_map.mp hd
  exact (CodePoint.simpleLower_of_lt (h c hc)).1

/-- **The lower case of a Latin-1 text is its own lower case.** -/
theorem lower_lower (h : t.IsLatin1) : t.lower.lower = t.lower := by
  rw [lower_eq_map (isLatin1_lower h), lower_eq_map h, List.map_map]
  exact List.map_congr_left fun c hc => (CodePoint.simpleLower_of_lt (h c hc)).2

end Text

/-- Bytes are read as Latin-1. -/
theorem Latin1.isLatin1_decode (bs : Bytes) : (decode bs).IsLatin1 := by
  intro c hc
  obtain ⟨b, -, rfl⟩ := List.mem_map.mp hc
  have hlt := b.toNat_lt
  rw [CodePoint.value_ofNat (by omega)]
  exact hlt

namespace Headers

/-! ## Building -/

/-- Names and values in Latin-1. -/
def InLatin1 (pairs : List (Text × Text)) : Prop := ∀ p ∈ pairs, p.1.IsLatin1 ∧ p.2.IsLatin1

instance (pairs : List (Text × Text)) : Decidable (InLatin1 pairs) :=
  inferInstanceAs (Decidable (∀ p ∈ pairs, p.1.IsLatin1 ∧ p.2.IsLatin1))

/-- What headers hold that are made of names and values. -/
def folded (pairs : List (Text × Text)) : Multimap Value := pairs.map fun (name, value) => (name.lower, .text value)

/-- Headers are built of names and values in Latin-1, in one of the ways that there are. -/
inductive Built : (pairs : List (Text × Text)) → Headers → Prop where
  /-- of pairs of texts -/
  | ofPairs (pairs : List (Text × Text)) (hlatin : InLatin1 pairs) :
    Built pairs (.ofPairs (pairs.map fun (name, value) => (name, .text value)))
  /-- of pairs of values or the entries of a mapping, all of them text -/
  | ofValues (pairs : List (Text × Text)) (hlatin : InLatin1 pairs) (h : Headers)
    (hvalues : Headers.ofValues (Multimap.entries pairs) = .ok h) : Built pairs h
  /-- of bytes -/
  | ofRaw (raw : List (Bytes × Bytes)) :
    Built (raw.map fun (name, value) => (Latin1.decode name, Latin1.decode value)) (.ofRaw raw)

variable {pairs pairs' : List (Text × Text)} {h h' : Headers} {name : Text} {v : Value}

/-- Headers can be built of the entries of a mapping of texts. -/
theorem ofValues_entries (pairs : List (Text × Text)) :
    ofValues (Multimap.entries pairs) = .ok ⟨folded pairs⟩ := by
  refine Result.bind_eq_ok_iff.mpr ⟨pairs.map fun (name, value) => (name, .text value), ?_, ?_⟩
  · rw [Result.mapM_eq_ok_iff, Multimap.entries, List.forall₂_map_left_iff, List.forall₂_map_right_iff]
    exact List.forall₂_same.mpr fun _ _ => rfl
  · exact congrArg (fun pairs => Except.ok (Headers.mk pairs)) (List.map_map ..)

theorem Built.inLatin1 (hb : Built pairs h) : InLatin1 pairs := by
  cases hb with
  | ofPairs _ hlatin => exact hlatin
  | ofValues _ hlatin => exact hlatin
  | ofRaw raw =>
    intro p hmem
    obtain ⟨⟨n, v⟩, -, rfl⟩ := List.mem_map.mp hmem
    exact ⟨Latin1.isLatin1_decode n, Latin1.isLatin1_decode v⟩

/-- **However headers are built, they hold the folded pairs in their order.** -/
theorem Built.pairs_eq (hb : Built pairs h) : h.pairs = folded pairs := by
  cases hb with
  | ofPairs => exact List.map_map ..
  | ofValues _ _ _ hvalues =>
    obtain rfl := Except.ok.inj ((ofValues_entries pairs).symm.trans hvalues)
    rfl
  | ofRaw raw =>
    rw [Headers.ofRaw, Headers.ofPairs, folded, List.map_map, List.map_map]
    rfl

/-! ## Looking up -/

theorem get_text (h : Headers) (name : Text) : h.get (.text name) = h.pairs.item name.lower name := by
  have hof : h.getOf (.text name) = .ok (h.pairs.get? name.lower) := rfl
  rw [get, hof, Result.ok_bind, Multimap.item]
  cases h.pairs.get? name.lower with
  | some v => rfl
  | none => rfl

/-- A name is found in every way or in none, by its lower case. -/
theorem lookedUp (h : Headers) (name : Text) :
    Multimap.LookedUp name (name.lower ∈ h.names) (.ok (h.containsOf (.text name))) (h.getAllOf (.text name))
      (h.getOf (.text name)) (h.get (.text name)) := by
  rw [get_text]
  exact h.pairs.lookedUp name.lower name

/-- The names that are listed are folded. -/
theorem Built.lower_of_mem_names (hb : Built pairs h) (hname : name ∈ h.names) : name.lower = name := by
  rw [names, hb.pairs_eq, Multimap.mem_names_iff, folded, List.map_map] at hname
  obtain ⟨⟨n, v⟩, hmem, rfl⟩ := List.mem_map.mp hname
  exact Text.lower_lower (hb.inLatin1 (n, v) hmem).1

/-- **A name that is listed is found under itself**, with its first value. -/
theorem Built.get_of_mem_names (hb : Built pairs h) (hname : name ∈ h.names) :
    ∃ v, h.get (.text name) = .ok v ∧ h.pairs.get? name = some v := by
  obtain ⟨v, hv⟩ := Option.isSome_iff_exists.mp (Multimap.isSome_get?_iff.mpr hname)
  refine ⟨v, ?_, hv⟩
  rw [get_text, hb.lower_of_mem_names hname, Multimap.item, hv]

/-- Going through the items looks up each name, and always finds it. -/
theorem Built.mapM_get_eq_items (hb : Built pairs h) :
    h.names.mapM (fun name => do return (name, ← h.get (.text name))) = .ok h.items := by
  have hrow {ns : List Text} (hns : ∀ n ∈ ns, n ∈ h.names) :
      ns.mapM (fun name => do return (name, ← h.get (.text name))) =
        .ok (ns.filterMap fun n => (h.pairs.get? n).map (n, ·)) := by
    induction ns with
    | nil => rfl
    | cons n rest ih =>
      obtain ⟨hn, hrest⟩ := List.forall_mem_cons.mp hns
      obtain ⟨v, hget, hfirst⟩ := hb.get_of_mem_names hn
      rw [List.mapM_cons, hget, ih hrest, List.filterMap_cons, hfirst]
      rfl
  exact hrow fun _ => id

/-- Going through the values does the same. -/
theorem Built.mapM_get_eq_values (hb : Built pairs h) :
    h.names.mapM (fun name => h.get (.text name)) = .ok (h.items.map Prod.snd) := by
  have hitems := Result.mapM_eq_ok_iff.mp hb.mapM_get_eq_items
  rw [Result.mapM_eq_ok_iff, List.forall₂_map_right_iff]
  refine hitems.imp fun name item hitem => ?_
  obtain ⟨v, hv, hpair⟩ := Result.bind_eq_ok_iff.mp hitem
  obtain rfl := Except.ok.inj hpair
  exact hv

/-! ## Comparing -/

/-- Texts are the same only if they are equal. -/
theorem rel_same_iff_eq {v? w? : Option Value} (hv : ∀ v ∈ v?, ∃ t, v = .text t) (hw : ∀ w ∈ w?, ∃ t, w = .text t) :
    Option.Rel (fun v w => v.same w = true) v? w? ↔ v? = w? := by
  cases v? with
  | none =>
    cases w? with
    | none => exact ⟨fun _ => rfl, fun _ => .none⟩
    | some w => exact ⟨nofun, nofun⟩
  | some v =>
    obtain ⟨t, rfl⟩ := hv v rfl
    cases w? with
    | none => exact ⟨nofun, nofun⟩
    | some w =>
      obtain ⟨u, rfl⟩ := hw w rfl
      have hsame : (Value.text t).same (.text u) = true ↔ t = u := by rw [Value.same, beq_iff_eq]
      rw [Option.some_inj, Value.text.injEq, ← hsame]
      refine ⟨fun h => ?_, fun h => .some h⟩
      cases h with
      | some h => exact h

theorem Built.exists_text_of_get? (hb : Built pairs h) (hget : h.pairs.get? name = some v) : ∃ t, v = .text t := by
  have hmem := Multimap.mem_of_get? hget
  rw [hb.pairs_eq] at hmem
  obtain ⟨⟨n, t⟩, -, heq⟩ := List.mem_map.mp hmem
  exact ⟨t, (Prod.mk.inj heq).2.symm⟩

/-- **Headers are the same exactly if every name has the same first value in both**, or none in either. -/
theorem Built.same_iff (hb : Built pairs h) (hb' : Built pairs' h') :
    h.same h' = true ↔ ∀ name : Text, h.getOf (.text name) = h'.getOf (.text name) := by
  have hgetOf (h : Headers) (n : Text) : h.getOf (.text n) = .ok (h.pairs.get? n.lower) := rfl
  have hequal : h.same h' = true ↔ ∀ n, h.pairs.get? n = h'.pairs.get? n := by
    rw [same, Multimap.agrees_iff]
    exact forall_congr' fun n =>
      rel_same_iff_eq (fun _ => hb.exists_text_of_get?) fun _ => hb'.exists_text_of_get?
  rw [hequal]
  refine ⟨fun hall n => congrArg Except.ok (hall n.lower), fun hall n => ?_⟩
  have hlower := hall n
  rw [hgetOf, hgetOf, Except.ok.injEq] at hlower
  -- a name that either lists is folded; any other is found in neither
  by_cases hn : n ∈ h.names
  · rwa [hb.lower_of_mem_names hn] at hlower
  by_cases hn' : n ∈ h'.names
  · rwa [hb'.lower_of_mem_names hn'] at hlower
  rw [Option.not_isSome_iff_eq_none.mp (mt Multimap.isSome_get?_iff.mp hn),
    Option.not_isSome_iff_eq_none.mp (mt Multimap.isSome_get?_iff.mp hn')]

/-! ## On the wire -/

/-- Folded pairs in bytes. -/
def wirePairs (pairs : List (Text × Text)) : List (Bytes × Bytes) :=
  pairs.map fun (name, value) => (Message.ascii name.lower, Message.ascii value)

/-- **Headers in Latin-1 have bytes, and are read back from them.** -/
theorem Built.raw_eq_wirePairs (hb : Built pairs h) :
    h.raw = .ok (wirePairs pairs) ∧ (Headers.ofRaw (wirePairs pairs)).pairs = h.pairs := by
  constructor
  · rw [raw, hb.pairs_eq, Result.mapM_eq_ok_iff, folded, wirePairs, List.forall₂_map_left_iff,
      List.forall₂_map_right_iff]
    refine List.forall₂_same.mpr fun (name, value) hmem => ?_
    obtain ⟨hname, hvalue⟩ := hb.inLatin1 (name, value) hmem
    have hnameBytes : name.lower.latin1 = .ok (Message.ascii name.lower) :=
      Text.latin1_eq_ok_iff.mpr ⟨Text.isLatin1_lower hname, rfl⟩
    have hvalueBytes : (Value.text value).latin1 = .ok (Message.ascii value) :=
      Text.latin1_eq_ok_iff.mpr ⟨hvalue, rfl⟩
    dsimp only
    rw [hnameBytes, hvalueBytes]
    rfl
  · rw [hb.pairs_eq, Headers.ofRaw, Headers.ofPairs, wirePairs, folded, List.map_map, List.map_map]
    refine List.map_congr_left fun (name, value) hmem => ?_
    obtain ⟨hname, hvalue⟩ := hb.inLatin1 (name, value) hmem
    simp only [Function.comp_apply, Latin1.decode_ascii (Text.isLatin1_lower hname), Latin1.decode_ascii hvalue,
      Text.lower_lower hname]

/-! ## Coherence -/

/-- What is true of headers that were built of names and values in Latin-1. -/
structure Coherent (pairs : List (Text × Text)) (h : Headers) : Prop where
  /-- a name is found in every way if its lower case is listed, with the first value counting, and in none otherwise -/
  lookedUp : ∀ name : Text, Multimap.LookedUp name (name.lower ∈ h.names) (.ok (h.containsOf (.text name)))
    (h.getAllOf (.text name)) (h.getOf (.text name)) (h.get (.text name))
  /-- two names of one lower case are answered in the same way -/
  caseless : ∀ name name' : Text, name.lower = name'.lower →
    h.containsOf (.text name) = h.containsOf (.text name') ∧ h.getAllOf (.text name) = h.getAllOf (.text name') ∧
      h.getOf (.text name) = h.getOf (.text name') ∧
      ∀ v, h.get (.text name) = .ok v ↔ h.get (.text name') = .ok v
  /-- the lower case of each name is listed, and nothing else -/
  mem_names : ∀ name, name ∈ h.names ↔ name ∈ pairs.map fun p => p.1.lower
  /-- names are listed in the order in which they first arrive -/
  ordered : h.names.Pairwise fun a b =>
    (pairs.map fun p => p.1.lower).idxOf a < (pairs.map fun p => p.1.lower).idxOf b
  /-- names are listed once each -/
  nodup : h.names.Nodup
  /-- and counted -/
  size : h.size = h.names.length
  /-- looking up each name for the items finds its first value -/
  items : h.names.mapM (fun name => do return (name, ← h.get (.text name))) = .ok h.items
  /-- and so does looking up each name for the values -/
  values : h.names.mapM (fun name => h.get (.text name)) = .ok (h.items.map Prod.snd)
  /-- there are bytes for each pair, in order -/
  raw : h.raw = .ok (wirePairs pairs)
  /-- the pairs are read back from them -/
  ofRaw : (Headers.ofRaw (wirePairs pairs)).pairs = h.pairs

/-- **Headers in Latin-1 are a coherent multimap in which case does not matter, and survive the wire.** Two of them are
the same exactly if looking up any name gives the same in both. -/
theorem coherent_of_built (hb : Built pairs h) (hb' : Built pairs' h') :
    Coherent pairs h ∧ (h.same h' = true ↔ ∀ name : Text, h.getOf (.text name) = h'.getOf (.text name)) := by
  have hnames : h.pairs.map Prod.fst = pairs.map fun p => p.1.lower := by
    rw [hb.pairs_eq, folded, List.map_map]
    rfl
  obtain ⟨hraw, hback⟩ := hb.raw_eq_wirePairs
  refine ⟨⟨h.lookedUp, fun name name' heq => ?_, fun name => ?_, ?_, h.pairs.nodup_names, rfl,
    hb.mapM_get_eq_items, hb.mapM_get_eq_values, hraw, hback⟩, hb.same_iff hb'⟩
  · refine ⟨congrArg h.pairs.contains heq, congrArg (fun n => Except.ok (h.pairs.getAll n)) heq,
      congrArg (fun n => Except.ok (h.pairs.get? n)) heq, fun v => ?_⟩
    rw [get_text, get_text, Multimap.item_eq_ok_iff, Multimap.item_eq_ok_iff, heq]
  · rw [← hnames]
    exact Multimap.mem_names_iff
  · rw [← hnames]
    exact h.pairs.pairwise_idxOf_names

/-- Names that differ by case only are one name, in pairs as in bytes, beyond ASCII too. -/
theorem coherent_of_built_variants : ∃ h h' : Headers,
    Built [("X-Tag", "a"), ("ÀÞ", "é"), ("x-tag", "b")] h ∧ Built [("àÞ", "é"), ("X-TAG", "a")] h' ∧
    h.names = ["x-tag", "àþ"] ∧ h.getAllOf (.text "x-TAG") = .ok [.text "a", .text "b"] ∧
    (Headers.ofRaw (wirePairs [("X-Tag", "a"), ("ÀÞ", "é"), ("x-tag", "b")])).pairs = h.pairs ∧
    h.getOf (.text "Àþ") = h'.getOf (.text "Àþ") := by
  have hlatin : InLatin1 [("X-Tag", "a"), ("ÀÞ", "é"), ("x-tag", "b")] := by decide
  have hb := Built.ofPairs _ hlatin
  have hb' := Built.ofRaw [(Message.ascii "àÞ", Message.ascii "é"), (Message.ascii "X-TAG", Message.ascii "a")]
  obtain ⟨hcoherent, hsame⟩ := coherent_of_built hb hb'
  exact ⟨_, _, hb, hb', by decide +kernel, (hcoherent.caseless "x-TAG" "X-Tag" (by decide +kernel)).2.1.trans rfl,
    hcoherent.ofRaw, hsame.mp (by decide +kernel) "Àþ"⟩

end Headers

end SemverDispatch
