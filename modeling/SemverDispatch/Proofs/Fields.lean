import SemverDispatch.Query
import SemverDispatch.Proofs.Decoding
import SemverDispatch.Proofs.Result
import SemverDispatch.Proofs.Views

/-!
# Fields of a query read back

A field is read back as the name and the value that it was made of (`parse_field`). Each byte of either is written
in one of three ways: as itself, as `+`, or as `%` with two digits. Whichever it is, reading puts the byte itself
behind those that wait (`decodeFrom_encodeByte`), so that the bytes of a whole component wait together in the end and
are read as the text that they came from. The marks that separate fields and names are written in the third way, so
that no component holds one.

Everything about several fields follows from one equation for a `&` in the middle, `parse_append`. Whatever is read, it
holds no surrogate that was not there before (`isScalar_of_mem_parse`), so that it can be written again.
-/

namespace SemverDispatch

/-! ## Splitting -/

namespace Text

variable {mark : CodePoint} {t : Text}

/-- A text is split where the mark first occurs. -/
theorem splitFirst_append (h : mark ∉ t) (rest : Text) :
    splitFirst mark (t ++ mark :: rest) = (t, some rest) := by
  induction t with
  | nil => exact if_pos rfl
  | cons c t ih =>
    obtain ⟨hc, ht⟩ : mark ≠ c ∧ mark ∉ t := not_or.mp (mt List.mem_cons.mpr h)
    rw [List.cons_append, splitFirst, if_neg fun heq => hc heq.symm, ih ht]

/-- What stands before the first mark, and what behind it, is made of what the text is made of. -/
theorem mem_of_mem_splitFirst {c : CodePoint} (h : c ∈ (splitFirst mark t).1 ∨ c ∈ (splitFirst mark t).2.getD []) :
    c ∈ t := by
  induction t with
  | nil => simp [splitFirst] at h
  | cons d rest ih =>
    rw [splitFirst] at h
    split at h
    · exact List.mem_cons_of_mem _ (h.resolve_left List.not_mem_nil)
    · rw [List.mem_cons, or_assoc] at h
      exact List.mem_cons.mpr (h.imp_right ih)

/-- Parts are made of what the text is made of. -/
theorem mem_of_mem_splitOn {c : CodePoint} {part : Text} (hpart : part ∈ splitOn mark t) (hc : c ∈ part) : c ∈ t := by
  induction t generalizing part with
  | nil =>
    obtain rfl := List.mem_singleton.mp hpart
    exact hc
  | cons d rest ih =>
    obtain ⟨first, others, hsplit⟩ := List.exists_cons_of_ne_nil (splitOn_ne_nil mark rest)
    have hfirst {p : Text} (hp : p ∈ first :: others) (hc : c ∈ p) : c ∈ d :: rest :=
      List.mem_cons_of_mem _ (ih (hsplit ▸ hp) hc)
    rw [splitOn, hsplit] at hpart
    split at hpart
    · rcases List.mem_cons.mp hpart with rfl | hpart
      · cases hc
      · exact hfirst hpart hc
    · rcases List.mem_cons.mp hpart with rfl | hpart
      · rcases List.mem_cons.mp hc with rfl | hc
        · exact List.mem_cons_self ..
        · exact hfirst (List.mem_cons_self ..) hc
      · exact hfirst (List.mem_cons_of_mem _ hpart) hc

end Text

namespace Form

variable {b : UInt8} {c : CodePoint} {d : Nat} {pending : Bytes} {rest : Text}

/-! ## How a byte is written -/

/-- ASCII that is no mark in a query: none of `%`, `&`, `+` and `=`. -/
def IsPlain (c : CodePoint) : Prop :=
  c.value < 0x80 ∧ c.value ≠ 0x25 ∧ c.value ≠ 0x26 ∧ c.value ≠ 0x2B ∧ c.value ≠ 0x3D

theorem IsPlain.ne_char (h : IsPlain c) :
    c ≠ .char '%' ∧ c ≠ .char '&' ∧ c ≠ .char '+' ∧ c ≠ .char '=' := by
  refine ⟨?_, ?_, ?_, ?_⟩
  all_goals
    rintro rfl
    simp [IsPlain, CodePoint.value] at h

theorem value_ofNat_toNat (b : UInt8) : (CodePoint.ofNat b.toNat).value = b.toNat := by
  have hlt := b.toNat_lt
  exact CodePoint.value_ofNat (by omega)

/-- A byte that stands for itself is plain. -/
theorem isPlain_of_isUnreserved (h : isUnreserved b = true) : IsPlain (.ofNat b.toNat) := by
  have hvalue := value_ofNat_toNat b
  have hchar (c : Char) : CodePoint.ofNat b.toNat = .char c ↔ b.toNat = c.toNat := by
    rw [← CodePoint.value_inj, hvalue]
    rfl
  simp only [isUnreserved, CodePoint.isAsciiLetter, CodePoint.isAsciiDigit, CodePoint.asciiDigit?, hvalue, hchar,
    Bool.or_eq_true, Bool.and_eq_true, decide_eq_true_eq, Option.isSome_ite, Char.reduceToNat] at h
  simp only [IsPlain, hvalue]
  omega

theorem value_upperDigit (hd : d < 16) :
    (upperDigit d).value = if d < 10 then 0x30 + d else 0x41 + (d - 10) := by
  unfold upperDigit
  split
  · exact CodePoint.value_ofNat (by omega)
  · exact CodePoint.value_ofNat (by omega)

/-- The digits behind a `%` are plain. -/
theorem isPlain_upperDigit (hd : d < 16) : IsPlain (upperDigit d) := by
  rw [IsPlain, value_upperDigit hd]
  split <;> omega

/-- A digit is read as what it is written for. -/
theorem hexDigit?_upperDigit (hd : d < 16) : (upperDigit d).hexDigit? = some d := by
  rw [CodePoint.hexDigit?, value_upperDigit hd]
  by_cases hten : d < 10
  · have hdigit : 0x30 ≤ 0x30 + d ∧ 0x30 + d ≤ 0x39 := by omega
    rw [if_pos hten, if_pos hdigit, Nat.add_sub_cancel_left]
  · have hdigit : ¬ (0x30 ≤ 0x41 + (d - 10) ∧ 0x41 + (d - 10) ≤ 0x39) := by omega
    have hletter : 0x41 ≤ 0x41 + (d - 10) ∧ 0x41 + (d - 10) ≤ 0x46 := by omega
    rw [if_neg hten, if_neg hdigit, if_pos hletter]
    exact congrArg some (by omega)

/-- What a byte is written with is plain, but for `+` and `%`. -/
theorem plain_or_of_mem_encodeByte (h : c ∈ encodeByte b) :
    IsPlain c ∨ c = .char '+' ∨ c = .char '%' := by
  have hlt := b.toNat_lt
  rw [encodeByte] at h
  split at h
  · rename_i hunreserved
    obtain rfl := List.mem_singleton.mp h
    exact .inl (isPlain_of_isUnreserved hunreserved)
  · split at h
    · exact .inr (.inl (List.mem_singleton.mp h))
    · simp only [percent, List.mem_cons, List.not_mem_nil, or_false] at h
      rcases h with rfl | rfl | rfl
      · exact .inr (.inr rfl)
      · exact .inl (isPlain_upperDigit (by omega))
      · exact .inl (isPlain_upperDigit (by omega))

/-- No byte is written with a mark that separates. -/
theorem ne_mark_of_mem_encodeByte (h : c ∈ encodeByte b) : c ≠ .char '&' ∧ c ≠ .char '=' := by
  rcases plain_or_of_mem_encodeByte h with hplain | rfl | rfl
  · exact ⟨hplain.ne_char.2.1, hplain.ne_char.2.2.2⟩
  · decide
  · decide

/-! ## Reading it back -/

/-- ASCII other than `%` waits as the byte that it is. -/
theorem decodeFrom_ascii (hascii : c.value < 0x80) (hne : c ≠ .char '%') :
    decodeFrom pending (c :: rest) = decodeFrom (UInt8.ofNat c.value :: pending) rest := by
  rw [decodeFrom, if_pos hascii]
  exact fun _ _ _ heq => absurd heq hne

/-- What is written with digits holds no `+`. -/
theorem plusToBlank_percent (b : UInt8) : plusToBlank (percent b) = percent b := by
  have hlt := b.toNat_lt
  have hhigh : IsPlain (upperDigit (b.toNat / 16)) := isPlain_upperDigit (by omega)
  have hlow : IsPlain (upperDigit (b.toNat % 16)) := isPlain_upperDigit (by omega)
  simp [plusToBlank, percent, hhigh.ne_char.2.2.1, hlow.ne_char.2.2.1]

/-- A `%` with two digits waits as the byte that they write. -/
theorem decodeFrom_percent (pending : Bytes) (b : UInt8) (rest : Text) :
    decodeFrom pending (percent b ++ rest) = decodeFrom (b :: pending) rest := by
  have hlt := b.toNat_lt
  have hbyte : b.toNat / 16 * 16 + b.toNat % 16 = b.toNat := by omega
  simp only [percent, List.cons_append, List.nil_append, decodeFrom,
    hexDigit?_upperDigit (by omega : b.toNat / 16 < 16), hexDigit?_upperDigit (by omega : b.toNat % 16 < 16),
    hbyte, UInt8.ofNat_toNat]

/-- **A byte is read back, however it is written.** -/
theorem decodeFrom_encodeByte (pending : Bytes) (b : UInt8) (rest : Text) :
    decodeFrom pending (plusToBlank (encodeByte b) ++ rest) = decodeFrom (b :: pending) rest := by
  rw [encodeByte]
  split
  · rename_i hunreserved
    have hplain := isPlain_of_isUnreserved hunreserved
    obtain ⟨hpercent, -, hplus, -⟩ := hplain.ne_char
    have hself : plusToBlank [.ofNat b.toNat] = [.ofNat b.toNat] := by
      rw [plusToBlank, List.map_singleton, if_neg hplus]
    rw [hself, List.singleton_append, decodeFrom_ascii hplain.1 hpercent, value_ofNat_toNat,
      UInt8.ofNat_toNat]
  · split
    · rename_i hblank
      subst hblank
      exact decodeFrom_ascii (by decide) (by decide)
    · rw [plusToBlank_percent, decodeFrom_percent]

variable {t encoded : Text}

/-- The bytes of a component wait together until its end. -/
theorem decodeFrom_encodeBytes (pending bs : Bytes) :
    decodeFrom pending (plusToBlank (encodeBytes bs)) = Utf8.decodeLossy (pending.reverse ++ bs) := by
  induction bs generalizing pending with
  | nil => rw [encodeBytes, List.flatMap_nil, List.append_nil]; rfl
  | cons b rest ih =>
    have hcons : plusToBlank (encodeBytes (b :: rest))
        = plusToBlank (encodeByte b) ++ plusToBlank (encodeBytes rest) := by
      rw [encodeBytes, List.flatMap_cons, plusToBlank, List.map_append]; rfl
    rw [hcons, decodeFrom_encodeByte, ih, List.reverse_cons, List.append_assoc, List.singleton_append]

/-- **A component is read back as the text that it was made of.** -/
theorem decode_of_encodeText? (h : encodeText? t = some encoded) : decode encoded = t := by
  obtain ⟨bs, hbs, rfl⟩ := Option.map_eq_some_iff.mp h
  rw [decode, decodeFrom_encodeBytes]
  exact Utf8.decodeLossy_of_encode? hbs

/-- A component holds no mark that separates. -/
theorem marks_not_mem_of_encodeText? (h : encodeText? t = some encoded) :
    .char '&' ∉ encoded ∧ .char '=' ∉ encoded := by
  obtain ⟨bs, -, rfl⟩ := Option.map_eq_some_iff.mp h
  constructor
  all_goals
    intro hmem
    obtain ⟨b, -, hb⟩ := List.mem_flatMap.mp hmem
    simpa using ne_mark_of_mem_encodeByte hb

/-! ## Whole fields -/

variable {name value encodedName encodedValue : Text}

/-- **A query of one field has the name and the value that the field was made of**, whatever marks they hold. -/
theorem parse_field (hname : encodeText? name = some encodedName)
    (hvalue : encodeText? value = some encodedValue) :
    parse (field encodedName encodedValue) = [(name, value)] := by
  obtain ⟨hnameAnd, hnameEq⟩ := marks_not_mem_of_encodeText? hname
  obtain ⟨hvalueAnd, -⟩ := marks_not_mem_of_encodeText? hvalue
  have hfield : field encodedName encodedValue = encodedName ++ .char '=' :: encodedValue := by
    rw [field, List.append_assoc, List.singleton_append]
  have hand : .char '&' ∉ field encodedName encodedValue := by
    simp [hfield, hnameAnd, hvalueAnd]
  have hread : readField (field encodedName encodedValue) = (name, value) := by
    rw [readField, hfield, Text.splitFirst_append hnameEq]
    exact Prod.ext (decode_of_encodeText? hname) (decode_of_encodeText? hvalue)
  have hfilled : (!(field encodedName encodedValue).isEmpty) = true := by
    simp [hfield]
  have hkept : [field encodedName encodedValue].filter (!·.isEmpty) = [field encodedName encodedValue] :=
    List.filter_cons_of_pos hfilled
  rw [parse, Text.splitOn_of_not_mem hand, hkept, List.map_singleton, hread]

/-! ## Several fields -/

variable {fields : List Text} {a b : Text}

/-- **A `&` in a query separates its fields.** -/
theorem parse_append (a b : Text) : parse (a ++ .char '&' :: b) = parse a ++ parse b := by
  rw [parse, Text.splitOn_append, List.filter_append, List.map_append, ← parse, ← parse]

/-- Joined fields are read one after another. -/
theorem parse_joinFields_cons (first : Text) (rest : List Text) :
    parse (joinFields (first :: rest)) = parse first ++ parse (joinFields rest) := by
  cases rest with
  | nil => exact (List.append_nil _).symm
  | cons next rest =>
    have hjoin : joinFields (first :: next :: rest) = first ++ .char '&' :: joinFields (next :: rest) := by
      simp [joinFields, Text.join]
    rw [hjoin, parse_append]

/-- A field writes a name and a value. -/
inductive Written : Text × Text → Text → Prop where
  /-- each of them in bytes of UTF-8 -/
  | field (n v : Text) {n' v' : Text} (hname : encodeText? n = some n') (hvalue : encodeText? v = some v') :
    Written (n, v) (field n' v')

/-- **What is written as fields is read back**, in its order. -/
theorem parse_joinFields {entries : Multimap Text} (h : List.Forall₂ Written entries fields) :
    parse (joinFields fields) = entries := by
  induction h with
  | nil => rfl
  | cons hfield _ ih =>
    rw [parse_joinFields_cons, ih]
    cases hfield with
    | field _ _ hname hvalue => rw [parse_field hname hvalue, List.singleton_append]

/-! ## Surrogates -/

theorem isScalar_plusToBlank (h : t.isScalar = true) : (plusToBlank t).isScalar = true := by
  rw [Text.isScalar_iff] at h ⊢
  intro c hc
  obtain ⟨d, hd, rfl⟩ := List.mem_map.mp hc
  split
  · exact nofun
  · exact h d hd

theorem isScalar_decodeFrom (h : t.isScalar = true) (pending : Bytes) : (decodeFrom pending t).isScalar = true := by
  fun_induction decodeFrom pending t with
  | case1 pending => exact Utf8.isScalar_decodeLossy _
  | case2 pending a b rest high hhigh low hlow ih =>
    exact ih (Text.isScalar_cons.mp (Text.isScalar_cons.mp (Text.isScalar_cons.mp h).2).2).2
  | case3 pending a b rest hnot ih => exact ih (Text.isScalar_cons.mp h).2
  | case4 pending c rest hnot hascii ih => exact ih (Text.isScalar_cons.mp h).2
  | case5 pending c rest hnot hascii ih =>
    obtain ⟨hc, hrest⟩ := Text.isScalar_cons.mp h
    exact Text.isScalar_append.mpr ⟨Utf8.isScalar_decodeLossy _, Text.isScalar_cons.mpr ⟨hc, ih hrest⟩⟩

/-- **What is read from a query without surrogates holds none**, however its bytes are written. -/
theorem isScalar_of_mem_parse (h : t.isScalar = true) {name value : Text} (hmem : (name, value) ∈ parse t) :
    name.isScalar = true ∧ value.isScalar = true := by
  obtain ⟨part, hpart, heq⟩ := List.mem_map.mp hmem
  have hscalar {s : Text} (hs : ∀ c ∈ s, c ∈ part) : s.isScalar = true :=
    Text.isScalar_iff.mpr fun c hc =>
      Text.isScalar_iff.mp h c (Text.mem_of_mem_splitOn (List.mem_of_mem_filter hpart) (hs c hc))
  obtain ⟨rfl, rfl⟩ := Prod.mk.inj heq
  exact ⟨isScalar_decodeFrom (isScalar_plusToBlank (hscalar fun _ hc => Text.mem_of_mem_splitFirst (.inl hc))) [],
    isScalar_decodeFrom (isScalar_plusToBlank (hscalar fun _ hc => Text.mem_of_mem_splitFirst (.inr hc))) []⟩

end Form

namespace Query

variable {q : Query} {name : Text}

/-- A query is made of what its fields write. -/
theorem ofEntries_of_written {m : Multimap Text} {fields : List Text} (h : List.Forall₂ Form.Written m fields) :
    ofEntries m.entries = .ok ⟨.text (Form.joinFields fields), m⟩ := by
  have hcomponent {t encoded : Text} (ht : Form.encodeText? t = some encoded) :
      encodeComponent (.text t) = .ok encoded := by
    rw [encodeComponent, Value.display, ht]
    intro bs hbytes
    cases hbytes
  refine Result.bind_eq_ok_iff.mpr ⟨fields, ?_, ?_⟩
  · rw [Result.mapM_eq_ok_iff, Multimap.entries, List.forall₂_map_left_iff]
    refine h.imp fun entry text hfield => ?_
    cases hfield with
    | field _ _ hname hvalue =>
      dsimp only
      rw [hcomponent hname, hcomponent hvalue]
      rfl
  · exact congrArg (fun fields => Except.ok (Query.mk _ fields)) (Form.parse_joinFields h)

/-- **A query made of names and values has these fields**, as long as none of them holds a surrogate. -/
theorem exists_ofEntries {m : Multimap Text}
    (h : ∀ name value, (name, value) ∈ m → name.isScalar = true ∧ value.isScalar = true) :
    ∃ raw, ofEntries m.entries = .ok ⟨.text raw, m⟩ := by
  have hencode {t : Text} (ht : t.isScalar = true) : ∃ encoded, Form.encodeText? t = some encoded := by
    obtain ⟨bs, hbs⟩ := Utf8.exists_encode?_iff.mpr ht
    exact ⟨_, Option.map_eq_some_iff.mpr ⟨bs, hbs, rfl⟩⟩
  obtain ⟨fields, hfields⟩ : ∃ fields, List.Forall₂ Form.Written m fields := by
    induction m with
    | nil => exact ⟨[], .nil⟩
    | cons entry rest ih =>
      obtain ⟨hname, hvalue⟩ := h entry.1 entry.2 (List.mem_cons_self ..)
      obtain ⟨fields, hfields⟩ := ih fun name value hmem => h name value (List.mem_cons_of_mem _ hmem)
      obtain ⟨encodedName, hname⟩ := hencode hname
      obtain ⟨encodedValue, hvalue⟩ := hencode hvalue
      exact ⟨_, .cons (.field _ _ hname hvalue) hfields⟩
  exact ⟨_, ofEntries_of_written hfields⟩

/-- A query made of one name and value has this one field. -/
theorem exists_ofEntries_singleton {name value : Text} (hname : name.isScalar = true)
    (hvalue : value.isScalar = true) :
    ∃ raw, ofEntries [(.text name, .text value)] = .ok ⟨.text raw, [(name, value)]⟩ := by
  refine exists_ofEntries (m := [(name, value)]) fun n v hmem => ?_
  obtain ⟨rfl, rfl⟩ := Prod.mk.inj (List.mem_singleton.mp hmem)
  exact ⟨hname, hvalue⟩

/-! ## Looking up text -/

/-- Text is a name in a query that is text, and none in a buffer. -/
theorem nameOf_text (q : Query) (name : Text) :
    q.nameOf (.text name) = .ok (if q.inBuffer then none else some name) := by
  have hkey : (Value.text name).asKey = .ok (.text name) := rfl
  simp only [nameOf, hkey, Result.ok_bind]
  cases q.inBuffer <;> rfl

theorem getOf_text (q : Query) (name : Text) :
    q.getOf (.text name) = .ok (if q.inBuffer then none else q.get? name) := by
  rw [getOf, nameOf_text]
  cases q.inBuffer <;> rfl

/-- What a text is answered in a query that is text. -/
theorem of_text (h : q.inBuffer = false) (name : Text) : q.getOf (.text name) = .ok (q.get? name) ∧
    q.getAllOf (.text name) = .ok (q.getAll name) ∧ q.containsOf (.text name) = .ok (q.contains name) := by
  rw [getOf, getAllOf, containsOf, nameOf_text, h]
  exact ⟨rfl, rfl, rfl⟩

end Query

end SemverDispatch
