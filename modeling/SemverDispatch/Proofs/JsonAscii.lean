import SemverDispatch.Proofs.JsonStrings
import SemverDispatch.Proofs.Writable
import SemverDispatch.Proofs.Canonical

/-!
# JSON in ASCII

Whatever a value holds, its JSON is printable ASCII (`Json.isPrintable_write`). Only strings could break this, and
they escape everything else; numbers are digits with a few marks.
-/

namespace SemverDispatch

/-- Each code point is printable and in ASCII. -/
def Text.IsPrintableAscii (t : Text) : Prop := ∀ c ∈ t, 0x20 ≤ c.value ∧ c.value < 0x7F

instance (t : Text) : Decidable t.IsPrintableAscii :=
  inferInstanceAs (Decidable (∀ c ∈ t, 0x20 ≤ c.value ∧ c.value < 0x7F))

namespace Text.IsPrintableAscii

variable {s t : Text} {c : CodePoint}

theorem append (hs : s.IsPrintableAscii) (ht : t.IsPrintableAscii) : Text.IsPrintableAscii (s ++ t) :=
  List.forall_mem_append.mpr ⟨hs, ht⟩

theorem cons (hc : 0x20 ≤ c.value ∧ c.value < 0x7F) (ht : t.IsPrintableAscii) : Text.IsPrintableAscii (c :: t) :=
  List.forall_mem_cons.mpr ⟨hc, ht⟩

theorem subset (ht : t.IsPrintableAscii) (h : s ⊆ t) : s.IsPrintableAscii := fun c hc => ht c (h hc)

end Text.IsPrintableAscii

/-! ## Numbers -/

theorem Decimal.isPrintable_ofNat (n : Nat) : (ofNat n).IsPrintableAscii := by
  intro c hc
  have hdigit := digit_of_mem_ofNat hc
  omega

theorem Decimal.isPrintable_ofInt (n : Int) : (ofInt n).IsPrintableAscii := by
  cases n with
  | ofNat n => exact isPrintable_ofNat n
  | negSucc n => exact .cons (by decide) (isPrintable_ofNat _)

namespace Binary64

theorem isPrintable_zeros (n : Nat) : (zeros n).IsPrintableAscii := by
  intro c hc
  rw [List.eq_of_mem_replicate hc]
  decide

theorem isPrintable_layout {digits : Text} (style : Style) (h : digits.IsPrintableAscii) (top : Int) :
    (layout style digits top).IsPrintableAscii := by
  unfold layout
  split
  · split
    · exact (Text.IsPrintableAscii.append (by decide) (isPrintable_zeros _)).append h
    · have hpadded (k : Nat) := h.append (isPrintable_zeros k)
      refine (((hpadded _).subset (List.take_subset ..)).append (by decide)).append ?_
      split
      · exact isPrintable_zeros 1
      · exact (hpadded _).subset (List.drop_subset ..)
  · have hmantissa := h.subset (List.take_subset 1 digits)
    refine ((hmantissa.append ?_).append (.cons (by decide) (.cons ?_ (isPrintable_zeros _)))).append
      (Decimal.isPrintable_ofNat _)
    · split
      · exact List.forall_mem_nil _
      · exact .cons (by decide) (h.subset (List.drop_subset ..))
    · split <;> decide

theorem isPrintable_magnitudeText (style : Style) (mantissa : Nat) (exponent : Int) :
    (magnitudeText style mantissa exponent).IsPrintableAscii := by
  by_cases hzero : mantissa = 0
  · rw [magnitudeText, if_pos hzero]
    decide
  rw [magnitudeText, if_neg hzero]
  obtain ⟨point, k⟩ := shortest mantissa exponent
  refine isPrintable_layout style ((Decimal.isPrintable_ofNat point).subset fun c hc => ?_) _
  exact List.mem_reverse.mp ((List.dropWhile_sublist _).subset (List.mem_reverse.mp hc))

theorem isPrintable_signed {t : Text} (negative : Bool) (h : t.IsPrintableAscii) :
    (signed negative t).IsPrintableAscii := by
  cases negative with
  | false => exact h
  | true => exact .cons (by decide) h

theorem isPrintable_text (x : Binary64) : (x.text .json).IsPrintableAscii := by
  cases x with
  | nan => decide
  | infinite negative => exact isPrintable_signed negative (by decide)
  | finite negative mantissa exponent =>
    exact isPrintable_signed negative (isPrintable_magnitudeText .json mantissa exponent)

end Binary64

namespace Json

variable {c : CodePoint} {t : Text} {v : Value} {depth : Nat}

/-! ## Strings -/

theorem isPrintable_lowerDigit : ∀ d < 16, 0x20 ≤ (lowerDigit d).value ∧ (lowerDigit d).value < 0x7F := by decide

theorem isPrintable_hexDigits (width n : Nat) : (hexDigits width n).IsPrintableAscii := by
  induction width generalizing n with
  | zero => exact List.forall_mem_nil _
  | succ width ih =>
    have hdigit := isPrintable_lowerDigit (n % 16) (Nat.mod_lt _ (by decide))
    exact Text.IsPrintableAscii.append (ih _) (.cons hdigit (List.forall_mem_nil _))

theorem isPrintable_unitEscape (u : Nat) : (unitEscape u).IsPrintableAscii :=
  Text.IsPrintableAscii.append (by decide) (isPrintable_hexDigits 4 u)

theorem Escape.isPrintable (h : Escape c t) : t.IsPrintableAscii := by
  cases h with
  | short _ _ hletter => exact .cons (by decide) (.cons hletter (List.forall_mem_nil _))
  | plain _ _ hc => exact .cons hc (List.forall_mem_nil _)
  | unit => exact isPrintable_unitEscape _
  | pair => exact (isPrintable_unitEscape _).append (isPrintable_unitEscape _)

/-- **A string is printable ASCII**, whatever it holds. -/
theorem isPrintable_string (t : Text) : (string t).IsPrintableAscii := by
  have hinside : Text.IsPrintableAscii (t.flatMap escapePoint) :=
    List.forall_mem_flatMap.mpr fun c _ => (escape_escapePoint c).isPrintable
  exact (Text.IsPrintableAscii.cons (by decide) hinside).append (by decide)

/-! ## Values -/

theorem isPrintable_integer {n : Int} (h : integer n = .ok t) : t.IsPrintableAscii := by
  rw [integer] at h
  split at h
  · cases h
  · obtain rfl := Except.ok.inj h
    exact Decimal.isPrintable_ofInt n

/-- A row of texts is printable where each of them is. -/
theorem isPrintable_commaSeparated {parts : List Text} (h : ∀ part ∈ parts, part.IsPrintableAscii) :
    (commaSeparated parts).IsPrintableAscii := by
  intro c hc
  rcases Text.eq_mark_or_mem_of_mem_join hc with rfl | ⟨part, hpart, hc⟩
  · decide
  · exact h part hpart c hc

/-- What stands between brackets or braces, separated by commas, is printable where its parts are. -/
theorem isPrintable_enclosed {first last : CodePoint} {parts : List Text} (h : ∀ part ∈ parts, part.IsPrintableAscii)
    (hfirst : 0x20 ≤ first.value ∧ first.value < 0x7F) (hlast : 0x20 ≤ last.value ∧ last.value < 0x7F) :
    Text.IsPrintableAscii (first :: commaSeparated parts ++ [last]) :=
  (Text.IsPrintableAscii.cons hfirst (isPrintable_commaSeparated h)).append (.cons hlast (List.forall_mem_nil _))

theorem isPrintable_write_list {items : List Value} (h : write depth (.list items) = .ok t)
    (hitems : ∀ v ∈ items, ∀ {t depth}, write depth v = .ok t → t.IsPrintableAscii) : t.IsPrintableAscii := by
  cases depth with
  | zero => cases h
  | succ depth =>
    rw [write_list] at h
    obtain ⟨parts, hparts, h⟩ := Result.bind_eq_ok_iff.mp h
    obtain rfl := Except.ok.inj h
    refine isPrintable_enclosed (fun part hpart => ?_) (by decide) (by decide)
    obtain ⟨v, hv, hwrite⟩ := Result.exists_of_mem_mapM hparts hpart
    exact hitems v hv hwrite

theorem isPrintable_writeEntry {entry : Value × Value} (h : writeEntry depth entry = .ok t)
    (hv : ∀ {t depth}, write depth entry.2 = .ok t → t.IsPrintableAscii) : t.IsPrintableAscii := by
  obtain ⟨name, -, h⟩ := Result.bind_eq_ok_iff.mp h
  obtain ⟨inside, hinside, h⟩ := Result.bind_eq_ok_iff.mp h
  obtain rfl := Except.ok.inj h
  exact (isPrintable_string name).append (.cons (by decide) (hv hinside))

/-- **The JSON of a value is printable ASCII**, whatever the value holds. -/
theorem isPrintable_write (hv : Writable v) (h : write depth v = .ok t) : t.IsPrintableAscii := by
  induction hv generalizing depth t with
  | null =>
    obtain rfl := Except.ok.inj h
    decide
  | bool b =>
    obtain rfl := Except.ok.inj h
    cases b <;> decide
  | int _ =>
    rw [write] at h
    exact isPrintable_integer h
  | float x =>
    obtain rfl := Except.ok.inj h
    exact Binary64.isPrintable_text x
  | text u =>
    obtain rfl := Except.ok.inj h
    exact isPrintable_string u
  | list _ ih => exact isPrintable_write_list h ih
  | tuple _ ih =>
    rw [write_tuple] at h
    exact isPrintable_write_list h ih
  | dict _ _ ih =>
    cases depth with
    | zero => cases h
    | succ depth =>
      rw [write_dict] at h
      obtain ⟨parts, hparts, h⟩ := Result.bind_eq_ok_iff.mp h
      obtain rfl := Except.ok.inj h
      refine isPrintable_enclosed (fun part hpart => ?_) (by decide) (by decide)
      obtain ⟨entry, hentry, hwrite⟩ := Result.exists_of_mem_mapM hparts hpart
      exact isPrintable_writeEntry hwrite (ih entry hentry)

end Json

end SemverDispatch
