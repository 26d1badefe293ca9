import SemverDispatch.Message

/-!
# Text that has bytes

Latin-1 has a byte for each of the first 256 code points, so a text has bytes there exactly if it stays below
256 (`Text.latin1_eq_ok_iff`), and the bytes tell which text it was (`Message.ascii_inj`). UTF-8 has
bytes for everything but surrogates (`Utf8.exists_encode?_iff`).
-/

namespace SemverDispatch

/-! ## Latin-1 -/

/-- A text of which Latin-1 has every code point. -/
def Text.IsLatin1 (t : Text) : Prop := ∀ c ∈ t, c.value < 256

instance (t : Text) : Decidable t.IsLatin1 :=
  inferInstanceAs (Decidable (∀ c ∈ t, c.value < 256))

/-- No character stands where surrogates do. -/
theorem CodePoint.toNat_ne_surrogate (c : Char) (half : Fin 2048) : c.toNat ≠ 0xD800 + half.val := by
  have hvalid := c.valid
  simp only [UInt32.isValidChar, Nat.isValidChar] at hvalid
  show c.val.toNat ≠ _
  omega

/-- No two code points have one number. -/
theorem CodePoint.value_inj {c d : CodePoint} : c.value = d.value ↔ c = d := by
  refine ⟨fun h => ?_, fun h => h ▸ rfl⟩
  cases c with
  | char c =>
    cases d with
    | char d => exact congrArg CodePoint.char (Char.toNat_inj.mp h)
    | lone half => exact absurd h (toNat_ne_surrogate c half)
  | lone half =>
    cases d with
    | char d => exact absurd h.symm (toNat_ne_surrogate d half)
    | lone half' =>
      simp only [value, Nat.add_left_cancel_iff] at h
      exact congrArg CodePoint.lone (Fin.ext h)

namespace Latin1

theorem encodePoint?_of_lt {c : CodePoint} (h : c.value < 256) :
    encodePoint? c = some (UInt8.ofNat c.value) := if_pos h

theorem encodePoint?_of_not_lt {c : CodePoint} (h : ¬ c.value < 256) : encodePoint? c = none :=
  if_neg h

/-- The bytes of a text are the numbers of its code points. -/
theorem encode?_eq_some_iff {t : Text} {b : Bytes} :
    encode? t = some b ↔ t.IsLatin1 ∧ b = Message.ascii t := by
  induction t generalizing b with
  | nil => simp [encode?, Text.IsLatin1, Message.ascii, eq_comm]
  | cons c rest ih =>
    rw [Text.IsLatin1, List.forall_mem_cons, ← Text.IsLatin1, Message.ascii, List.map_cons,
      ← Message.ascii, encode?, List.mapM_cons, ← encode?]
    by_cases hc : c.value < 256
    · rw [encodePoint?_of_lt hc, and_iff_right hc]
      cases hrest : encode? rest with
      | none =>
        have hnot : ¬ Text.IsLatin1 rest := fun h => by
          have := ih.mpr ⟨h, rfl⟩
          rw [hrest] at this
          cases this
        simp [hnot]
      | some bs =>
        obtain ⟨hlatin, rfl⟩ := ih.mp hrest
        simp [hlatin, eq_comm]
    · rw [encodePoint?_of_not_lt hc]
      simp [hc]

end Latin1

/-- **A text has Latin-1 bytes exactly if it is in Latin-1**, and then they are its code points. -/
theorem Text.latin1_eq_ok_iff {t : Text} {b : Bytes} :
    t.latin1 = .ok b ↔ t.IsLatin1 ∧ b = Message.ascii t := by
  rw [← Latin1.encode?_eq_some_iff, Text.latin1]
  cases Latin1.encode? t with
  | none => simp
  | some bs => simp

/-- Only text has Latin-1 bytes. -/
theorem Value.latin1_eq_ok_iff {v : Value} {b : Bytes} :
    v.latin1 = .ok b ↔ ∃ t, v = .text t ∧ t.IsLatin1 ∧ b = Message.ascii t := by
  cases v with
  | text t => simp [latin1, Text.latin1_eq_ok_iff]
  | _ => simp [latin1]

/-- In Latin-1 the bytes tell texts apart. -/
theorem Message.ascii_inj {s t : Text} (hs : s.IsLatin1) (ht : t.IsLatin1) :
    ascii s = ascii t ↔ s = t := by
  refine ⟨fun h => ?_, fun h => h ▸ rfl⟩
  induction s generalizing t with
  | nil => exact (List.map_eq_nil_iff.mp h.symm).symm
  | cons c rest ih =>
    obtain ⟨hc, hrest⟩ := List.forall_mem_cons.mp hs
    cases t with
    | nil => cases h
    | cons d rest' =>
      obtain ⟨hd, hrest'⟩ := List.forall_mem_cons.mp ht
      obtain ⟨hhead, htail⟩ := List.cons.inj h
      have hvalue : c.value = d.value := by
        have := congrArg UInt8.toNat hhead
        rwa [UInt8.toNat_ofNat_of_lt' hc, UInt8.toNat_ofNat_of_lt' hd] at this
      rw [CodePoint.value_inj.mp hvalue, ih hrest hrest' htail]

/-! ## UTF-8 -/

namespace Utf8

/-- **A text has UTF-8 bytes exactly if it holds no surrogate.** -/
theorem exists_encode?_iff {t : Text} : (∃ b, encode? t = some b) ↔ t.isScalar = true := by
  have hall : (t.mapM encodePoint?).isSome = t.isScalar := by
    induction t with
    | nil => rfl
    | cons c rest ih =>
      cases c with
      | char c =>
        have hscalar : Text.isScalar (.char c :: rest) = Text.isScalar rest := rfl
        rw [hscalar, ← ih, List.mapM_cons]
        cases rest.mapM encodePoint? <;> rfl
      | lone half => rfl
  rw [← hall, ← Option.isSome_iff_exists, encode?, Option.isSome_map]

end Utf8

end SemverDispatch
