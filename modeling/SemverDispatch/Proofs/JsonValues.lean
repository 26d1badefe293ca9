import Mathlib.Data.List.TakeDrop
import SemverDispatch.Proofs.Canonical
import SemverDispatch.Proofs.JsonDepth
import SemverDispatch.Proofs.JsonStrings
import SemverDispatch.Proofs.Writable

/-!
# JSON values read back

What JSON writes of a value is read as this value again, if JSON loses nothing of it. `Json.Lossless` gives such
values by their constructors. Tuples are not among them, which become lists, nor mappings with keys other than text,
which become text; what becomes of floating point numbers is left open.

The readers take a value off the front of a text, so it matters what stands behind it: a number goes on as long
as digits do. In what is written, a value ends at the end of the text or where it is separated or closed
(`Json.Closes`). That a text is read as a value wherever it ends in this way is `Json.Reads`. Each constructor of
`Json.Lossless` has its lemma, from the parts to the whole, and `Json.Lossless.exists_write` puts them together.
-/

namespace SemverDispatch

/-! ## Entries under texts -/

namespace Value

/-- Values under texts, as entries. -/
def underTexts (named : List (Text × Value)) : List (Value × Value) := named.map (Prod.map text id)

/-- A value under a new text is put behind the others. -/
theorem insertEntry_underTexts {named : List (Text × Value)} {name : Text} {v : Value} (h : name ∉ named.map Prod.fst) :
    insertEntry (underTexts named) (.text name) v = underTexts (named ++ [(name, v)]) := by
  induction named with
  | nil => rfl
  | cons entry rest ih =>
    rw [List.map_cons, List.mem_cons, not_or] at h
    have hdiffers : (text name).same (text entry.1) = false := by
      rw [same, beq_eq_false_iff_ne]
      exact h.1
    have htail := ih h.2
    rw [underTexts] at htail ⊢
    rw [List.map_cons, Prod.map, insertEntry, hdiffers, htail]
    rfl

end Value

/-! ## Numbers -/

namespace Decimal

variable {n : Nat}

theorem isAsciiDigit_of_mem_ofNat {c : CodePoint} (h : c ∈ ofNat n) : c.isAsciiDigit = true := by
  rw [CodePoint.isAsciiDigit, CodePoint.asciiDigit?, if_pos (digit_of_mem_ofNat h)]
  rfl

theorem ofNat_ne_nil (n : Nat) : ofNat n ≠ [] := mt List.map_eq_nil_iff.mp Nat.toDigits_ne_nil

theorem digitChar_ne_zero : ∀ n < 10, n ≠ 0 → n.digitChar ≠ '0' := by decide

/-- No number but zero starts with a zero. -/
theorem exists_ofNat_eq_cons (h : n ≠ 0) : ∃ c tail, ofNat n = c :: tail ∧ c ≠ .char '0' := by
  induction n using Nat.strongRecOn with
  | ind n ih =>
    rw [ofNat, Nat.toDigits_eq_if (by decide)]
    split
    · rename_i hlt
      exact ⟨_, [], rfl, fun hzero => digitChar_ne_zero n hlt h (CodePoint.char.inj hzero)⟩
    · obtain ⟨c, tail, htail, hc⟩ := ih (n / 10) (by omega) (by omega)
      rw [List.map_append, ← ofNat, htail]
      exact ⟨c, _, rfl, hc⟩

theorem length_ofNat_le_iff {k : Nat} (h : 0 < k) : (ofNat n).length ≤ k ↔ n < power k := by
  rw [ofNat, List.length_map, Nat.length_toDigits_le_iff (by decide) h]
  rfl

/-- A number that is not too large has not more digits than are read. -/
theorem length_ofNat_le {m : Int} (h : isTooLarge m = false) : (ofNat m.natAbs).length ≤ digitLimit :=
  (length_ofNat_le_iff (by decide)).mpr (Nat.not_le.mp (of_decide_eq_false h))

end Decimal

namespace Json

variable {c : CodePoint} {t rest name : Text} {v : Value} {entries : List (Value × Value)} {n fuel depth : Nat}

/-! ## What stands behind a value -/

/-- What can stand behind a value in what is written: nothing, or what separates or closes. -/
inductive Closes : Text → Prop
  /-- the end -/
  | nil : Closes []
  /-- a further value -/
  | comma (rest : Text) : Closes (.char ',' :: rest)
  /-- the end of an array -/
  | bracket (rest : Text) : Closes (.char ']' :: rest)
  /-- the end of an object -/
  | brace (rest : Text) : Closes (.char '\x7d' :: rest)

/-- Digits end where a value does. -/
theorem Closes.spanDigits_append (h : Closes rest) (ht : ∀ c ∈ t, c.isAsciiDigit = true) :
    Binary64.spanDigits (t ++ rest) = (t, rest) := by
  have hrest : rest.takeWhile CodePoint.isAsciiDigit = [] ∧ rest.dropWhile CodePoint.isAsciiDigit = rest := by
    cases h <;> exact ⟨rfl, rfl⟩
  rw [Binary64.spanDigits, List.span_eq_takeWhile_dropWhile, List.takeWhile_append_of_pos ht,
    List.dropWhile_append_of_pos ht, hrest.1, hrest.2, List.append_nil]

theorem Closes.fractionPart (h : Closes rest) : Binary64.fractionPart rest = none := by
  cases h <;> rfl

theorem Closes.exponentPart (h : Closes rest) : Binary64.exponentPart rest = none := by
  cases h <;> rfl

/-! ## Numbers -/

/-- The digits of a number are its whole part. -/
theorem Closes.wholePart (h : Closes rest) (n : Nat) :
    wholePart (Decimal.ofNat n ++ rest) = some (Decimal.ofNat n, rest) := by
  by_cases hn : n = 0
  · subst hn
    rfl
  · obtain ⟨c, tail, hcons, hc⟩ := Decimal.exists_ofNat_eq_cons hn
    have hspan := h.spanDigits_append fun _ => Decimal.isAsciiDigit_of_mem_ofNat (n := n)
    unfold Json.wholePart
    split
    · rename_i heq
      rw [hcons] at heq
      exact absurd (List.cons.inj heq).1 hc
    · rw [hspan]
      exact if_neg (Decimal.ofNat_ne_nil n)

theorem Closes.readMagnitude (h : Closes rest) (hn : (Decimal.ofNat n).length ≤ Decimal.digitLimit)
    (negative : Bool) : readMagnitude negative (Decimal.ofNat n ++ rest)
      = .ok (.int (if negative then -n else n), rest) := by
  rw [Json.readMagnitude, h.wholePart]
  dsimp only
  rw [h.fractionPart, Option.getD_none, h.exponentPart]
  simp only [Option.isNone_none, and_self, if_true, if_neg (Nat.not_lt.mpr hn), Decimal.value_ofNat]

theorem ne_of_isAsciiDigit {d : CodePoint} (hc : c.isAsciiDigit = true) (hd : d.isAsciiDigit = false) : c ≠ d := by
  rintro rfl
  rw [hd] at hc
  cases hc

theorem words_spec : ∀ entry ∈ words, 2 ≤ (Text.ofString entry.1).length ∧
    ∀ c ∈ (Text.ofString entry.1).take 2, c.isAsciiDigit = false := by
  decide

/-- No word is a number: it has no digit among its first two characters. -/
theorem readWord_eq_none (hc : c ∈ t.take 2) (hdigit : c.isAsciiDigit = true) : readWord t = none := by
  refine List.findSome?_eq_none_iff.mpr fun entry hentry => ?_
  obtain ⟨hlength, hhead⟩ := words_spec entry hentry
  have hprefix : ¬ (Text.ofString entry.1).isPrefixOf t = true := by
    intro h
    have htake := List.prefix_iff_eq_take.mp (List.isPrefixOf_iff_prefix.mp h)
    rw [htake, List.take_take, Nat.min_eq_left hlength] at hhead
    rw [hhead c hc] at hdigit
    cases hdigit
  dsimp only
  rw [afterWord?, if_neg hprefix]
  rfl

/-! ## One step of the reader -/

theorem skipBlanks_cons (h : isBlank c = false) : skipBlanks (c :: rest) = c :: rest :=
  List.dropWhile_cons_of_neg (Bool.eq_false_iff.mp h)

theorem readValue_string : readValue (fuel + 1) depth (.char '"' :: rest) = (do
    let (t, after) ← readString (rest.length + 1) rest
    return (.text t, after)) := rfl

/-- A digit starts a number. -/
theorem readValue_digit (hc : c.isAsciiDigit = true) :
    readValue (fuel + 1) depth (c :: rest) = readMagnitude false (c :: rest) := by
  rw [readValue.eq_def]
  dsimp only
  rw [if_neg (ne_of_isAsciiDigit hc (by decide)), if_neg (ne_of_isAsciiDigit hc (by decide)),
    if_neg (ne_of_isAsciiDigit hc (by decide)), readWord_eq_none (List.mem_cons_self ..) hc]
  exact if_neg (ne_of_isAsciiDigit hc (by decide))

/-- A digit behind a minus sign starts a negative number. -/
theorem readValue_minus (hc : c.isAsciiDigit = true) :
    readValue (fuel + 1) depth (.char '-' :: c :: rest) = readMagnitude true (c :: rest) := by
  rw [readValue.eq_def]
  dsimp only
  rw [if_neg (by decide), if_neg (by decide), if_neg (by decide),
    readWord_eq_none (List.mem_cons_of_mem _ (List.mem_cons_self ..)) hc]
  exact if_pos rfl

theorem readValue_array (hblank : isBlank c = false) (hne : c ≠ .char ']') :
    readValue (fuel + 1) (depth + 1) (.char '[' :: c :: rest) = (do
      let (items, after) ← readItems fuel depth (c :: rest)
      return (.list items, after)) := by
  rw [readValue.eq_def]
  dsimp only
  rw [if_neg (by decide), if_pos rfl, skipBlanks_cons hblank]
  split
  · contradiction
  · rename_i heq _
    exact absurd (List.cons.inj heq).1 hne
  · rename_i hdepth _
    cases hdepth
    rfl

theorem readValue_object : readValue (fuel + 1) (depth + 1) (.char '\x7b' :: .char '"' :: rest) = (do
    let (entries, after) ← readEntries fuel depth [] (.char '"' :: rest)
    return (.dict entries, after)) := rfl

theorem readItems_last (h : readValue fuel depth t = .ok (v, .char ']' :: rest)) :
    readItems (fuel + 1) depth t = .ok ([v], rest) := by
  rw [readItems, h]
  rfl

theorem readItems_more (h : readValue fuel depth t = .ok (v, .char ',' :: rest)) :
    readItems (fuel + 1) depth t = (do
      let (items, last) ← readItems fuel depth (skipBlanks rest)
      return (v :: items, last)) := by
  rw [readItems, h]
  rfl

theorem readEntries_last (hname : name.Unpaired)
    (h : readValue fuel depth (skipBlanks t) = .ok (v, .char '\x7d' :: rest)) :
    readEntries (fuel + 1) depth entries (string name ++ .char ':' :: t)
      = .ok (Value.insertEntry entries (.text name) v, rest) := by
  have hcolon : skipBlanks (.char ':' :: t) = .char ':' :: t := rfl
  rw [string_append, readEntries, readString_inside hname, Result.ok_bind]
  simp only [hcolon, h]
  rfl

theorem readEntries_more (hname : name.Unpaired)
    (h : readValue fuel depth (skipBlanks t) = .ok (v, .char ',' :: rest)) :
    readEntries (fuel + 1) depth entries (string name ++ .char ':' :: t)
      = readEntries fuel depth (Value.insertEntry entries (.text name) v) (skipBlanks rest) := by
  have hcolon : skipBlanks (.char ':' :: t) = .char ':' :: t := rfl
  rw [string_append, readEntries, readString_inside hname, Result.ok_bind]
  simp only [hcolon, h]
  rfl

/-! ## What is read as a value -/

/-- A character that a value can start with. -/
def IsStart (c : CodePoint) : Prop := isBlank c = false ∧ c ≠ .char ']'

instance (c : CodePoint) : Decidable (IsStart c) :=
  inferInstanceAs (Decidable (isBlank c = false ∧ c ≠ .char ']'))

/-- A text that is read as a value, wherever it ends as values do. -/
structure Reads (t : Text) (v : Value) : Prop where
  /-- it starts as values do -/
  start : ∃ c tail, t = c :: tail ∧ IsStart c
  /-- it is read as the value, and what is behind it is left -/
  read : ∀ {fuel depth : Nat} {rest : Text}, Closes rest → v.nesting ≤ depth → t.length ≤ fuel →
    readValue (fuel + 1) depth (t ++ rest) = .ok (v, rest)

theorem reads_null : Reads "null" .null := ⟨⟨_, _, rfl, by decide⟩, fun _ _ _ => rfl⟩

theorem reads_bool (b : Bool) : Reads (if b then "true" else "false") (.bool b) := by
  cases b with
  | false => exact ⟨⟨_, _, rfl, by decide⟩, fun _ _ _ => rfl⟩
  | true => exact ⟨⟨_, _, rfl, by decide⟩, fun _ _ _ => rfl⟩

theorem isStart_of_isAsciiDigit (hc : c.isAsciiDigit = true) : IsStart c := by
  have hne {d : CodePoint} (hd : d.isAsciiDigit = false) := ne_of_isAsciiDigit hc hd
  refine ⟨?_, hne (by decide)⟩
  rw [isBlank, decide_eq_false (hne (by decide)), decide_eq_false (hne (by decide)),
    decide_eq_false (hne (by decide)), decide_eq_false (hne (by decide))]
  rfl

theorem reads_int {m : Int} (h : Decimal.isTooLarge m = false) : Reads (Decimal.ofInt m) (.int m) := by
  have hlength := Decimal.length_ofNat_le h
  obtain ⟨c, tail, hcons⟩ := List.exists_cons_of_ne_nil (Decimal.ofNat_ne_nil m.natAbs)
  have hc : c.isAsciiDigit = true := Decimal.isAsciiDigit_of_mem_ofNat (hcons ▸ List.mem_cons_self ..)
  cases m with
  | ofNat n =>
    refine ⟨⟨c, tail, hcons, isStart_of_isAsciiDigit hc⟩, fun hrest _ _ => ?_⟩
    have hread := hrest.readMagnitude hlength false
    rw [hcons] at hread
    rw [Decimal.ofInt, ← Int.natAbs_ofNat' n, hcons, List.cons_append, readValue_digit hc]
    exact hread
  | negSucc n =>
    have hcons' : Decimal.ofNat (n + 1) = c :: tail := hcons
    refine ⟨⟨.char '-', _, rfl, by decide⟩, fun hrest _ _ => ?_⟩
    have hread := hrest.readMagnitude hlength true
    rw [hcons] at hread
    rw [Decimal.ofInt, hcons', List.cons_append, List.cons_append, readValue_minus hc]
    exact hread

theorem reads_text (h : t.Unpaired) : Reads (string t) (.text t) := by
  refine ⟨⟨_, _, rfl, by decide⟩, fun _ _ _ => ?_⟩
  rw [string_append, readValue_string, readString_inside h]
  rfl

/-! ## Arrays -/

theorem commaSeparated_cons_cons (t next : Text) (parts : List Text) :
    commaSeparated (t :: next :: parts) = t ++ .char ',' :: commaSeparated (next :: parts) := by
  simp [commaSeparated, Text.join]

/-- Joined parts start as the first of them does. -/
theorem exists_commaSeparated_eq_append (t : Text) (parts : List Text) :
    ∃ more, commaSeparated (t :: parts) = t ++ more := by
  cases parts with
  | nil => exact ⟨[], (List.append_nil t).symm⟩
  | cons next parts => exact ⟨_, commaSeparated_cons_cons t next parts⟩

theorem Reads.exists_commaSeparated_eq_cons (h : Reads t v) (parts : List Text) :
    ∃ c tail, commaSeparated (t :: parts) = c :: tail ∧ IsStart c := by
  obtain ⟨c, tail, rfl, hc⟩ := h.start
  obtain ⟨more, hmore⟩ := exists_commaSeparated_eq_append (c :: tail) parts
  exact ⟨c, tail ++ more, hmore, hc⟩

/-- The values of a row are read one after the other, up to the closing bracket. Each of them takes one step of fuel
more than it has characters, and so does the row. -/
theorem readItems_commaSeparated {parts : List Text} {items : List Value} (h : List.Forall₂ Reads parts items)
    (hne : items ≠ []) (hdepth : ∀ v ∈ items, v.nesting ≤ depth) (hfuel : (commaSeparated parts).length ≤ fuel)
    (rest : Text) : readItems (fuel + 2) depth (commaSeparated parts ++ .char ']' :: rest) = .ok (items, rest) := by
  induction h generalizing fuel with
  | nil => exact absurd rfl hne
  | cons hread htail ih =>
    obtain ⟨hv, hothers⟩ := List.forall_mem_cons.mp hdepth
    cases htail with
    | nil => exact readItems_last (hread.read (.bracket rest) hv hfuel)
    | @cons next _ parts _ hnext htail =>
      rw [commaSeparated_cons_cons, List.length_append, List.length_cons] at hfuel
      obtain ⟨fuel, rfl⟩ := Nat.exists_eq_add_one_of_ne_zero (show fuel ≠ 0 by omega)
      obtain ⟨c, tail, hcons, hstart⟩ := hnext.exists_commaSeparated_eq_cons parts
      have hlength : (commaSeparated (next :: parts)).length ≤ fuel := by omega
      have hothers := ih (List.cons_ne_nil _ _) hothers hlength
      rw [commaSeparated_cons_cons, List.append_assoc, List.cons_append,
        readItems_more (hread.read (.comma _) hv (by omega))]
      rw [hcons, List.cons_append] at hothers ⊢
      rw [skipBlanks_cons hstart.1, hothers]
      rfl

/-- **A row is read** where its members are. -/
theorem reads_list {parts : List Text} {items : List Value} (h : List.Forall₂ Reads parts items) :
    Reads (.char '[' :: commaSeparated parts ++ [.char ']']) (.list items) := by
  refine ⟨⟨_, _, rfl, by decide⟩, fun {fuel depth rest} _ hdepth hfuel => ?_⟩
  rw [Value.nesting] at hdepth
  obtain ⟨depth, rfl⟩ := Nat.exists_eq_add_one_of_ne_zero (Nat.ne_zero_of_lt hdepth)
  cases h with
  | nil => rfl
  | @cons t _ parts _ hread htail =>
    rw [List.length_append, List.length_cons, List.length_singleton] at hfuel
    obtain ⟨fuel, rfl⟩ := Nat.exists_eq_add_of_le' (show 2 ≤ fuel by omega)
    obtain ⟨c, tail, hcons, hstart⟩ := hread.exists_commaSeparated_eq_cons parts
    have hinner := Value.nestingAll_le_iff.mp (Nat.le_of_succ_le_succ hdepth)
    have hlength : (commaSeparated (t :: parts)).length ≤ fuel := by omega
    have hitems := readItems_commaSeparated (.cons hread htail) (List.cons_ne_nil _ _) hinner hlength rest
    rw [List.append_assoc, List.cons_append, List.singleton_append]
    rw [hcons, List.cons_append] at hitems ⊢
    rw [readValue_array hstart.1 hstart.2, hitems]
    rfl

/-! ## Objects -/

/-- A text that is read as an entry, wherever it ends as values do. -/
def ReadsEntry (t : Text) (entry : Text × Value) : Prop :=
  entry.1.Unpaired ∧ ∃ inside, t = string entry.1 ++ .char ':' :: inside ∧ Reads inside entry.2

/-- What an entry is read from starts with a quote. -/
theorem ReadsEntry.exists_commaSeparated_eq_cons {entry : Text × Value} (h : ReadsEntry t entry)
    (parts : List Text) : ∃ tail, commaSeparated (t :: parts) = .char '"' :: tail := by
  obtain ⟨-, inside, rfl, -⟩ := h
  obtain ⟨more, hmore⟩ := exists_commaSeparated_eq_append (string entry.1 ++ .char ':' :: inside) parts
  exact ⟨_, hmore.trans (by rw [string_append, List.cons_append])⟩

/-- An entry is read, and left is what stands behind its value. -/
theorem ReadsEntry.exists_read {entry : Text × Value} (h : ReadsEntry t entry) (hrest : Closes rest)
    (hdepth : entry.2.nesting ≤ depth) (hfuel : t.length ≤ fuel) : ∃ inside,
    t ++ rest = string entry.1 ++ .char ':' :: inside ∧
      readValue (fuel + 1) depth (skipBlanks inside) = .ok (entry.2, rest) := by
  obtain ⟨-, inside, rfl, hread⟩ := h
  obtain ⟨c, tail, hcons, hstart⟩ := hread.start
  rw [List.length_append, List.length_cons] at hfuel
  refine ⟨inside ++ rest, by simp, ?_⟩
  have hskip : skipBlanks (inside ++ rest) = inside ++ rest := by
    rw [hcons, List.cons_append, skipBlanks_cons hstart.1]
  rw [hskip]
  exact hread.read hrest hdepth (by omega)

/-- The entries of an object are read one after the other, up to the closing brace, and put behind those before. -/
theorem readEntries_commaSeparated {parts : List Text} {named : List (Text × Value)}
    (h : List.Forall₂ ReadsEntry parts named) (seen : List (Text × Value)) (hne : named ≠ [])
    (hnodup : ((seen ++ named).map Prod.fst).Nodup)
    (hdepth : ∀ entry ∈ named, entry.2.nesting ≤ depth) (hfuel : (commaSeparated parts).length ≤ fuel) (rest : Text) :
    readEntries (fuel + 2) depth (Value.underTexts seen) (commaSeparated parts ++ .char '\x7d' :: rest)
      = .ok (Value.underTexts (seen ++ named), rest) := by
  -- `seen` is what has been read so far. As the names differ, the next entry goes to its end.
  induction h generalizing fuel seen with
  | nil => exact absurd rfl hne
  | @cons t entry parts named hread htail ih =>
    obtain ⟨hv, hothers⟩ := List.forall_mem_cons.mp hdepth
    have hnew : entry.1 ∉ seen.map Prod.fst := by
      rw [List.map_append, List.map_cons] at hnodup
      exact fun hmem => (List.nodup_append.mp hnodup).2.2 _ hmem _ (List.mem_cons_self ..) rfl
    have hgrown := Value.insertEntry_underTexts hnew (v := entry.2)
    cases htail with
    | nil =>
      obtain ⟨inside, hinside, hvalue⟩ := hread.exists_read (.brace rest) hv hfuel
      have ht : commaSeparated [t] = t := rfl
      rw [ht, hinside, readEntries_last hread.1 hvalue, hgrown]
    | @cons next _ parts named hnext htail =>
      rw [commaSeparated_cons_cons, List.length_append, List.length_cons] at hfuel
      obtain ⟨fuel, rfl⟩ := Nat.exists_eq_add_one_of_ne_zero (show fuel ≠ 0 by omega)
      have hfirst : t.length ≤ fuel + 1 := by omega
      have hlength : (commaSeparated (next :: parts)).length ≤ fuel := by omega
      obtain ⟨tail, hcons⟩ := hnext.exists_commaSeparated_eq_cons parts
      obtain ⟨inside, hinside, hvalue⟩ := hread.exists_read (.comma _) hv hfirst
      rw [List.append_cons] at hnodup
      have hothers := ih (seen ++ [entry]) (List.cons_ne_nil _ _) hnodup hothers hlength
      rw [commaSeparated_cons_cons, List.append_assoc, List.cons_append, hinside,
        readEntries_more hread.1 hvalue, hgrown]
      rw [hcons, List.cons_append] at hothers ⊢
      rw [skipBlanks_cons (by decide), hothers, List.append_assoc]
      rfl

/-- **An object is read** where its entries are. -/
theorem reads_dict {parts : List Text} {named : List (Text × Value)} (h : List.Forall₂ ReadsEntry parts named)
    (hnodup : (named.map Prod.fst).Nodup) :
    Reads (.char '\x7b' :: commaSeparated parts ++ [.char '\x7d']) (.dict (Value.underTexts named)) := by
  refine ⟨⟨_, _, rfl, by decide⟩, fun {fuel depth rest} _ hdepth hfuel => ?_⟩
  rw [Value.nesting] at hdepth
  obtain ⟨depth, rfl⟩ := Nat.exists_eq_add_one_of_ne_zero (Nat.ne_zero_of_lt hdepth)
  cases h with
  | nil => rfl
  | @cons t _ parts _ hread htail =>
    rw [List.length_append, List.length_cons, List.length_singleton] at hfuel
    obtain ⟨fuel, rfl⟩ := Nat.exists_eq_add_of_le' (show 2 ≤ fuel by omega)
    obtain ⟨tail, hcons⟩ := hread.exists_commaSeparated_eq_cons parts
    have hinner := Value.nestingUnder_le_iff.mp (Nat.le_of_succ_le_succ hdepth)
    have hlength : (commaSeparated (t :: parts)).length ≤ fuel := by omega
    have hentries := readEntries_commaSeparated (.cons hread htail) [] (List.cons_ne_nil _ _) hnodup
      (fun entry hentry => hinner _ (List.mem_map_of_mem hentry)) hlength rest
    rw [List.append_assoc, List.cons_append, List.singleton_append]
    rw [hcons, List.cons_append] at hentries ⊢
    rw [readValue_object]
    rw [show ([] : List (Value × Value)) = Value.underTexts [] from rfl, hentries]
    rfl

/-! ## Values -/

/-- A value of which JSON loses nothing. -/
inductive Lossless : Value → Prop
  /-- nothing -/
  | null : Lossless .null
  /-- a truth value -/
  | bool (b : Bool) : Lossless (.bool b)
  /-- an integer that has not too many digits -/
  | int {n : Int} : Decimal.isTooLarge n = false → Lossless (.int n)
  /-- text in which no surrogates make a pair -/
  | text {t : Text} : t.Unpaired → Lossless (.text t)
  /-- such values in order -/
  | list {items : List Value} : (∀ v ∈ items, Lossless v) → Lossless (.list items)
  /-- such values under such texts, which differ -/
  | dict {named : List (Text × Value)} : (named.map Prod.fst).Nodup → (∀ entry ∈ named, entry.1.Unpaired) →
      (∀ entry ∈ named, Lossless entry.2) → Lossless (.dict (Value.underTexts named))

theorem write_int {m : Int} (h : Decimal.isTooLarge m = false) : write depth (.int m) = .ok (Decimal.ofInt m) := by
  rw [write, integer, h]
  rfl

theorem writeEntry_text (h : write depth v = .ok t) :
    writeEntry depth (.text name, v) = .ok (string name ++ .char ':' :: t) := by
  rw [writeEntry, key, Result.ok_bind, h]
  rfl

/-- A value of which JSON loses nothing can be written. -/
theorem Lossless.writable (h : Lossless v) : Writable v := by
  induction h with
  | null => exact .null
  | bool b => exact .bool b
  | int hn => exact .int hn
  | text _ => exact .text _
  | list _ ih => exact .list ih
  | dict _ _ _ ih =>
    refine .dict ?_ ?_
    · exact List.forall_mem_map.mpr fun entry _ => .text entry.1
    · exact List.forall_mem_map.mpr ih

/-- **A value of which JSON loses nothing is written, and read from what is written**, where it is not too deep. -/
theorem Lossless.exists_write (h : Lossless v) (hdepth : v.nesting ≤ depth) :
    ∃ t, write depth v = .ok t ∧ Reads t v := by
  induction h generalizing depth with
  | null => exact ⟨_, rfl, reads_null⟩
  | bool b => exact ⟨_, rfl, reads_bool b⟩
  | int hn => exact ⟨_, write_int hn, reads_int hn⟩
  | text ht => exact ⟨_, rfl, reads_text ht⟩
  | list _ ih =>
    obtain ⟨inner, rfl⟩ := Nat.exists_eq_add_one_of_ne_zero (Nat.ne_zero_of_lt hdepth)
    have hinner := Value.nestingAll_le_iff.mp (Nat.le_of_succ_le_succ hdepth)
    obtain ⟨parts, hparts, hread⟩ := Result.exists_mapM_of_forall fun v hv => ih v hv (hinner v hv)
    rw [write_list, hparts]
    exact ⟨_, rfl, reads_list hread.flip⟩
  | @dict named hnodup hnames _ ih =>
    obtain ⟨inner, rfl⟩ := Nat.exists_eq_add_one_of_ne_zero (Nat.ne_zero_of_lt hdepth)
    have hinner := Value.nestingUnder_le_iff.mp (Nat.le_of_succ_le_succ hdepth)
    have hentries : ∀ entry ∈ named, ∃ part, (writeEntry inner ∘ Prod.map Value.text id) entry = .ok part ∧
        ReadsEntry part entry := by
      intro entry hentry
      obtain ⟨t, ht, hread⟩ := ih entry hentry (hinner _ (List.mem_map_of_mem hentry))
      exact ⟨_, writeEntry_text ht, hnames entry hentry, t, rfl, hread⟩
    obtain ⟨parts, hparts, hread⟩ := Result.exists_mapM_of_forall hentries
    rw [write_dict, Value.underTexts, List.mapM_map, hparts]
    exact ⟨_, rfl, reads_dict hread.flip hnodup⟩

end Json

end SemverDispatch
