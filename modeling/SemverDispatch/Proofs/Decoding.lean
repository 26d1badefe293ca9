import Mathlib.Algebra.Group.Nat.Defs
import SemverDispatch.Proofs.Encoding

/-!
# Text read back from bytes

What is written as bytes is read back as it was: in Latin-1 where it has bytes there (`Latin1.decode_ascii`), and
in UTF-8 unless it holds a surrogate (`Utf8.decodeLossy_of_encode?`). The readers of UTF-8 go through `Utf8.next`,
so the one fact about code points, `Utf8.next_encodeScalar`, is shown of it: the bytes of a scalar value are read
as that value and nothing more, whatever follows them.
-/

namespace SemverDispatch

namespace CodePoint

/-- A code point is found by its number. -/
theorem ofNat_value (c : CodePoint) : ofNat c.value = c := by
  cases c with
  | char c =>
    have hvalid : c.toNat.isValidChar := c.valid
    rw [ofNat, ofNat?, value, dif_pos hvalid]
    exact congrArg char ((dif_pos hvalid).symm.trans (Char.ofNat_toNat c))
  | lone half =>
    have hnot : ¬ (0xD800 + half.val).isValidChar := by
      simp only [Nat.isValidChar]
      omega
    have hhalf : 0xD800 ≤ 0xD800 + half.val ∧ 0xD800 + half.val < 0xE000 := by omega
    rw [ofNat, ofNat?, value, dif_neg hnot, dif_pos hhalf]
    simp

/-- A number within Unicode is the number of its code point. -/
theorem value_ofNat {n : Nat} (h : n < 0x110000) : (ofNat n).value = n := by
  by_cases hvalid : n.isValidChar
  · rw [ofNat, ofNat?, dif_pos hvalid]
    rfl
  · have hhalf : 0xD800 ≤ n ∧ n < 0xE000 := by
      simp only [Nat.isValidChar] at hvalid
      omega
    rw [ofNat, ofNat?, dif_neg hvalid, dif_pos hhalf]
    exact Nat.add_sub_cancel' hhalf.1

end CodePoint

namespace Latin1

/-- **Text in Latin-1 is read back from its bytes.** -/
theorem decode_ascii {t : Text} (h : t.IsLatin1) : decode (Message.ascii t) = t := by
  rw [decode, Message.ascii, List.map_map]
  refine (List.map_congr_left fun c hc => ?_).trans (List.map_id t)
  rw [Function.comp_apply, UInt8.toNat_ofNat_of_lt' (h c hc)]
  exact CodePoint.ofNat_value c

end Latin1

namespace Utf8

variable {count low high bits acc lead b n : Nat} {rest : Bytes} {surrogates : Bool}

/-! ## One code point -/

/-- What each leading byte of two announces. -/
theorem announced?_two {k : Nat} (hlow : 2 ≤ k) (hhigh : k < 32) :
    announced? surrogates (0xC0 + k) = some (1, 0x80, 0xBF, k) := by
  rw [announced?, if_neg (by omega), if_neg (by omega), if_pos (by omega), Nat.add_sub_cancel_left]

/-- What each leading byte of three announces. The first bounds rule out longer forms than are needed, the second
surrogates. -/
theorem announced?_three : ∀ surrogates : Bool, ∀ k < 16,
    announced? surrogates (0xE0 + k)
      = some (2, if k = 0 then 0xA0 else 0x80, if k = 0xD ∧ !surrogates then 0x9F else 0xBF, k) := by
  decide

/-- What each leading byte of four announces, up to the last code point. -/
theorem announced?_four : ∀ surrogates : Bool, ∀ k < 5,
    announced? surrogates (0xF0 + k)
      = some (3, if k = 0 then 0x90 else 0x80, if k = 4 then 0x8F else 0xBF, k) := by
  decide

/-- Behind a leading byte follows what it announces. -/
theorem next_of_announced (hlead : lead < 256)
    (h : announced? surrogates lead = some (count, low, high, bits)) :
    next surrogates (UInt8.ofNat lead) rest = follow count low high bits rest := by
  rw [next, UInt8.toNat_ofNat_of_lt' hlead, h]

/-- A following byte within its bounds adds its six bits. -/
theorem follow_cons (hlow : low ≤ 0x80 + n % 64) (hhigh : 0x80 + n % 64 ≤ high) :
    follow (count + 1) low high (n / 64) (UInt8.ofNat (0x80 + n % 64) :: rest)
      = follow count 0x80 0xBF n rest := by
  have hlt : 0x80 + n % 64 < 256 := by omega
  have hsum : n / 64 * 64 + (0x80 + n % 64 - 0x80) = n := by omega
  rw [follow, UInt8.toNat_ofNat_of_lt' hlt, if_pos ⟨hlow, hhigh⟩, hsum]

/-- **The bytes of a scalar value are read as this value**, whatever follows them. -/
theorem next_encodeScalar (surrogates : Bool) (h : n.isValidChar) (rest : Bytes) :
    ∃ lead tail, encodeScalar n = lead :: tail ∧ next surrogates lead (tail ++ rest) = (some n, rest) := by
  simp only [Nat.isValidChar] at h
  by_cases h1 : n < 0x80
  · exact ⟨_, [], if_pos h1, next_of_announced (by omega) (if_pos h1)⟩
  by_cases h2 : n < 0x800
  · refine ⟨_, _, (if_neg h1).trans (if_pos h2), ?_⟩
    rw [next_of_announced (by omega) (announced?_two (by omega) (by omega))]
    exact follow_cons (by omega) (by omega)
  by_cases h3 : n < 0x10000
  · refine ⟨_, _, (if_neg h1).trans ((if_neg h2).trans (if_pos h3)), ?_⟩
    have hbits : n / 4096 = n / 64 / 64 := by omega
    rw [next_of_announced (by omega) (announced?_three _ _ (by omega)), hbits]
    refine (follow_cons ?_ ?_).trans (follow_cons (by omega) (by omega))
    · split <;> omega
    · split <;> omega
  · refine ⟨_, _, (if_neg h1).trans ((if_neg h2).trans (if_neg h3)), ?_⟩
    have hbits : n / 262144 = n / 4096 / 64 := by omega
    have hbits' : n / 4096 = n / 64 / 64 := by omega
    rw [next_of_announced (by omega) (announced?_four _ _ (by omega)), hbits]
    refine (follow_cons ?_ ?_).trans ?_
    · split <;> omega
    · split <;> omega
    rw [hbits']
    exact (follow_cons (by omega) (by omega)).trans (follow_cons (by omega) (by omega))

/-! ## Text -/

variable {t : Text} {bs : Bytes}

theorem encode?_char_cons (c : Char) (t : Text) :
    encode? (.char c :: t) = (encode? t).map (encodeScalar c.toNat ++ ·) := by
  rw [encode?, List.mapM_cons, encode?]
  cases t.mapM encodePoint? <;> rfl

theorem decodeLossy_encodeScalar (c : Char) (rest : Bytes) :
    decodeLossy (encodeScalar c.toNat ++ rest) = .char c :: decodeLossy rest := by
  have hvalid : c.toNat.isValidChar := c.valid
  obtain ⟨lead, tail, hbytes, hnext⟩ := next_encodeScalar false hvalid rest
  have hchar : CodePoint.ofNat c.toNat = .char c := CodePoint.ofNat_value (.char c)
  rw [hbytes, List.cons_append, decodeLossy, hnext]
  dsimp only
  rw [hchar]

/-- **Text without surrogates is read back from its bytes.** -/
theorem decodeLossy_of_encode? (h : encode? t = some bs) : decodeLossy bs = t := by
  induction t generalizing bs with
  | nil =>
    obtain rfl : [] = bs := Option.some.inj h
    rw [decodeLossy]
  | cons c rest ih =>
    cases c with
    | char c =>
      rw [encode?_char_cons] at h
      obtain ⟨bs', hrest, rfl⟩ := Option.map_eq_some_iff.mp h
      rw [decodeLossy_encodeScalar, ih hrest]
    | lone half => cases h

theorem decode?_encodeScalar (surrogates : Bool) (c : Char) (rest : Bytes) :
    decode? surrogates (encodeScalar c.toNat ++ rest) = (decode? surrogates rest).map (.char c :: ·) := by
  have hvalid : c.toNat.isValidChar := c.valid
  obtain ⟨lead, tail, hbytes, hnext⟩ := next_encodeScalar surrogates hvalid rest
  have hchar : CodePoint.ofNat c.toNat = .char c := CodePoint.ofNat_value (.char c)
  rw [hbytes, List.cons_append, decode?, hnext]
  dsimp only
  rw [hchar]

/-- **Bytes of a text are well formed**, and the text is read back from them. -/
theorem decode?_of_encode? (surrogates : Bool) (h : encode? t = some bs) : decode? surrogates bs = some t := by
  induction t generalizing bs with
  | nil =>
    obtain rfl : [] = bs := Option.some.inj h
    rw [decode?]
  | cons c rest ih =>
    cases c with
    | char c =>
      rw [encode?_char_cons] at h
      obtain ⟨bs', hrest, rfl⟩ := Option.map_eq_some_iff.mp h
      rw [decode?_encodeScalar, ih hrest]
      rfl
    | lone half => cases h

/-! ## Any bytes -/

/-- The first following byte of a code point adds its six bits, and the others are below them. -/
theorem exists_of_follow (h : (follow (count + 1) low high acc rest).1 = some n) :
    ∃ b rest', low ≤ b ∧ b ≤ high ∧ (follow count 0x80 0xBF (acc * 64 + (b - 0x80)) rest').1 = some n := by
  cases rest with
  | nil => cases h
  | cons b rest =>
    rw [follow] at h
    split at h
    · rename_i hb
      exact ⟨b.toNat, rest, hb.1, hb.2, h⟩
    · cases h

/-- Following bytes add to the bits before them at their end only. -/
theorem div_of_follow (h : (follow count low high acc rest).1 = some n) (hlow : 0x80 ≤ low) (hhigh : high ≤ 0xBF) :
    n / 64 ^ count = acc := by
  induction count generalizing low high acc rest with
  | zero =>
    obtain rfl : acc = n := Option.some.inj h
    exact Nat.div_one acc
  | succ count ih =>
    obtain ⟨b, rest', hlowb, hhighb, hnext⟩ := exists_of_follow h
    rw [Nat.pow_succ, ← Nat.div_div_eq_div_mul, ih hnext (Nat.le_refl _) (Nat.le_refl _)]
    omega

/-- What leading bytes announce without surrogates. Of three bytes, the first bits of a surrogate come with a bound for
the next byte; of four, the least bits do. -/
theorem announced?_clear : ∀ lead < 256, ∀ a ∈ announced? false lead, 0x80 ≤ a.2.1 ∧ a.2.2.1 ≤ 0xBF ∧
    ((a.1 = 0 ∧ a.2.2.2 < 0x80) ∨ (a.1 = 1 ∧ a.2.2.2 < 0x20) ∨
      (a.1 = 2 ∧ (a.2.2.2 = 0xD → a.2.2.1 ≤ 0x9F)) ∨ (a.1 = 3 ∧ (a.2.2.2 = 0 → 0x90 ≤ a.2.1))) := by
  decide +kernel

/-- **No surrogate is read**, unless it is asked for. -/
theorem not_surrogate_of_next {lead : UInt8} (h : (next false lead rest).1 = some n) :
    n < 0xD800 ∨ 0xE000 ≤ n := by
  rw [next] at h
  split at h
  · rename_i count low high bits hannounced
    obtain ⟨hlow, hhigh, hcases⟩ := announced?_clear _ lead.toNat_lt _ hannounced
    dsimp only at hlow hhigh hcases
    have hbits := div_of_follow h hlow hhigh
    rcases hcases with ⟨rfl, hlt⟩ | ⟨rfl, hlt⟩ | ⟨rfl, hlast⟩ | ⟨rfl, hleast⟩
    · omega
    · omega
    · obtain ⟨b, rest', hlowb, hhighb, hnext⟩ := exists_of_follow h
      have hnext := div_of_follow hnext (Nat.le_refl _) (Nat.le_refl _)
      omega
    · obtain ⟨b, rest', hlowb, hhighb, hnext⟩ := exists_of_follow h
      have hnext := div_of_follow hnext (Nat.le_refl _) (Nat.le_refl _)
      omega
  · cases h

end Utf8

/-! ## Scalar values -/

theorem CodePoint.ofNat_ne_lone {n : Nat} (h : n < 0xD800 ∨ 0xE000 ≤ n) (half : Fin 2048) : ofNat n ≠ .lone half := by
  intro heq
  by_cases hvalid : n.isValidChar
  · rw [ofNat, ofNat?, dif_pos hvalid] at heq
    cases heq
  · rw [ofNat, ofNat?, dif_neg hvalid, dif_neg (by omega)] at heq
    cases heq

namespace Text

variable {s t : Text}

theorem isScalar_iff : t.isScalar = true ↔ ∀ c ∈ t, ∀ half, c ≠ .lone half := by
  rw [isScalar, List.all_eq_true]
  refine forall₂_congr fun c _ => ?_
  cases c with
  | char c => exact ⟨fun _ => nofun, fun _ => rfl⟩
  | lone half => exact ⟨nofun, fun h => absurd rfl (h half)⟩

theorem isScalar_append : (s ++ t).isScalar = true ↔ s.isScalar = true ∧ t.isScalar = true := by
  rw [isScalar, List.all_append, Bool.and_eq_true]
  rfl

theorem isScalar_cons {c : CodePoint} :
    isScalar (c :: t) = true ↔ (∀ half, c ≠ .lone half) ∧ t.isScalar = true := by
  simp only [isScalar_iff, List.forall_mem_cons]

end Text

/-- Bytes in Latin-1 are text without surrogates. -/
theorem Latin1.isScalar_decode (bs : Bytes) : (decode bs).isScalar = true := by
  rw [Text.isScalar_iff]
  intro c hc
  obtain ⟨b, -, rfl⟩ := List.mem_map.mp hc
  have hlt := b.toNat_lt
  exact CodePoint.ofNat_ne_lone (by omega)

/-- **Whatever the bytes are, they are read as text without surrogates.** -/
theorem Utf8.isScalar_decodeLossy (bs : Bytes) : (decodeLossy bs).isScalar = true := by
  fun_induction decodeLossy bs with
  | case1 => rfl
  | case2 lead rest n hn ih =>
    exact Text.isScalar_cons.mpr ⟨CodePoint.ofNat_ne_lone (not_surrogate_of_next hn), ih⟩
  | case3 lead rest hn ih => exact Text.isScalar_cons.mpr ⟨nofun, ih⟩

end SemverDispatch
