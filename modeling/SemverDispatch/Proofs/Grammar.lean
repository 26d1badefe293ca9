import Mathlib.Data.Nat.Digits.Defs
import SemverDispatch.Proofs.Reading

/-!
# The grammar of versions

A version text is made of one to three runs of ASCII digits, none of them empty or longer than sixteen, with one
point between neighbours (`Version.Spells`). A range text has in front of this at most one mark, which is that of its
kind (`RangeKind.Marked`). The main result, `VersionRange.parse?_iff_spells`, is that both parsers accept exactly
their grammar, and what they read: the numbers that the runs write in base ten, and zero for each run that is not
there.

Reading is splitting at the points, so the first part is about splitting: it undoes joining, as long as no part
holds a point.
-/

namespace SemverDispatch

/-! ## Splitting and joining -/

namespace Text

variable {mark : CodePoint} {parts : List Text}

/-- Splitting finds the parts that a text is joined of. -/
theorem splitOn_join (hne : parts ≠ []) (h : ∀ part ∈ parts, mark ∉ part) :
    splitOn mark (join [mark] parts) = parts := by
  induction parts with
  | nil => exact absurd rfl hne
  | cons part rest ih =>
    obtain ⟨hpart, hrest⟩ := List.forall_mem_cons.mp h
    cases rest with
    | nil => exact splitOn_of_not_mem hpart
    | cons next rest =>
      have hjoin : join [mark] (part :: next :: rest) = part ++ mark :: join [mark] (next :: rest) := by
        simp [join]
      rw [hjoin, splitOn_append, splitOn_of_not_mem hpart, ih (List.cons_ne_nil _ _) hrest, List.singleton_append]

/-- A code point in front of a text that is joined of parts stands in front of the first part. -/
theorem join_cons (c : CodePoint) (part : Text) (parts : List Text) :
    join [mark] ((c :: part) :: parts) = c :: join [mark] (part :: parts) := by
  cases parts <;> rfl

/-- The parts of a text join to the text. -/
theorem join_splitOn (mark : CodePoint) (t : Text) : join [mark] (splitOn mark t) = t := by
  induction t with
  | nil => rfl
  | cons c rest ih =>
    obtain ⟨part, parts, hsplit⟩ := List.exists_cons_of_ne_nil (splitOn_ne_nil mark rest)
    rw [hsplit] at ih
    rw [splitOn]
    split
    · rename_i hc
      rw [hsplit, join, ih, hc, List.nil_append, List.singleton_append]
      exact List.cons_ne_nil _ _
    · rw [hsplit]
      dsimp only
      rw [join_cons, ih]

end Text

/-! ## Runs of digits -/

namespace Version

variable {run t body : Text} {runs : List Text} {v : Version} {n : Nat}

/-- The number that digits write in base ten. -/
def decimal (digits : Text) : Nat := Nat.ofDigits 10 (digits.reverse.map fun c => c.value - 0x30)

/-- A run of ASCII digits that is neither empty nor too long. -/
structure IsRun (run : Text) : Prop where
  /-- there is a digit -/
  ne_nil : run ≠ []
  /-- there are sixteen at most -/
  length_le : run.length ≤ 16
  /-- all are digits from `0` to `9` -/
  digit : ∀ c ∈ run, 0x30 ≤ c.value ∧ c.value ≤ 0x39

/-- Digits read behind a number go on with its digits. -/
theorem valueFrom_eq (acc : Nat) (digits : Text) :
    Decimal.valueFrom acc digits = acc * 10 ^ digits.length + decimal digits := by
  induction digits generalizing acc with
  | nil => simp [Decimal.valueFrom, decimal]
  | cons c rest ih =>
    have hstep : Decimal.valueFrom acc (c :: rest) = Decimal.valueFrom (acc * 10 + (c.value - 0x30)) rest := rfl
    have hdecimal : decimal (c :: rest) = decimal rest + 10 ^ rest.length * (c.value - 0x30) := by
      simp [decimal, Nat.ofDigits_append]
    rw [hstep, ih, hdecimal, List.length_cons]
    ring

/-- The value of digits is the number that they write. -/
theorem value_eq_decimal (digits : Text) : Decimal.value digits = decimal digits := by
  rw [Decimal.value, valueFrom_eq, Nat.zero_mul, Nat.zero_add]

/-- A component is read exactly from a run of digits, as the number that the run writes. -/
theorem component?_eq_some_iff : component? run = some n ↔ IsRun run ∧ n = decimal run := by
  have hdigit (c : CodePoint) : c.isAsciiDigit = true ↔ 0x30 ≤ c.value ∧ c.value ≤ 0x39 := by
    simp [CodePoint.isAsciiDigit, CodePoint.asciiDigit?]
  have hrun : IsRun run ↔ run.length ≤ 16 ∧ run ≠ [] ∧ run.all CodePoint.isAsciiDigit = true := by
    simp only [List.all_eq_true, hdigit]
    exact ⟨fun ⟨hne, hle, hall⟩ => ⟨hle, hne, hall⟩, fun ⟨hle, hne, hall⟩ => ⟨hne, hle, hall⟩⟩
  rw [hrun, component?, maxDigits, Decimal.toNat?, value_eq_decimal]
  by_cases hle : run.length ≤ 16
  · rw [if_pos hle, and_iff_right hle]
    split
    · rename_i hdigits
      rw [Option.some_inj, and_iff_right hdigits, eq_comm]
    · rename_i hnot
      exact iff_of_false nofun fun h => hnot h.1
  · rw [if_neg hle]
    exact iff_of_false nofun fun h => hle h.1.1

/-- Components are read exactly from runs of digits. -/
theorem mapM_component?_eq_some_iff {numbers : List Nat} :
    runs.mapM component? = some numbers ↔ (∀ run ∈ runs, IsRun run) ∧ numbers = runs.map decimal := by
  induction runs generalizing numbers with
  | nil => simp [eq_comm]
  | cons run rest ih =>
    rw [List.mapM_cons, List.forall_mem_cons, List.map_cons]
    constructor
    · intro h
      obtain ⟨number, hnumber, h⟩ := Option.bind_eq_some_iff.mp h
      obtain ⟨others, hothers, h⟩ := Option.bind_eq_some_iff.mp h
      obtain ⟨hrun, rfl⟩ := component?_eq_some_iff.mp hnumber
      obtain ⟨hrest, rfl⟩ := ih.mp hothers
      exact ⟨⟨hrun, hrest⟩, (Option.some.inj h).symm⟩
    · rintro ⟨⟨hrun, hrest⟩, rfl⟩
      rw [component?_eq_some_iff.mpr ⟨hrun, rfl⟩, ih.mpr ⟨hrest, rfl⟩]
      rfl

/-! ## Versions -/

/-- A text is made of runs of digits: one to three of them, with a point between neighbours. -/
structure Spells (t : Text) (runs : List Text) : Prop where
  /-- there is a run -/
  ne_nil : runs ≠ []
  /-- there are three at most -/
  length_le : runs.length ≤ 3
  /-- all are runs of digits -/
  isRun : ∀ run ∈ runs, IsRun run
  /-- points are between them and nothing else -/
  joined : t = Text.join [.char '.'] runs

/-- The number of a run. A run that is not there counts as zero. -/
def numberAt (runs : List Text) (i : Nat) : Nat := (runs[i]?.map decimal).getD 0

/-- The version of runs of digits, which is read from a text. -/
def ofRuns (runs : List Text) (raw : Text) : Version :=
  ⟨numberAt runs 0, numberAt runs 1, numberAt runs 2, raw⟩

/-- No point stands in a run of digits. -/
theorem IsRun.point_not_mem (h : IsRun run) : CodePoint.char '.' ∉ run := by
  intro hmem
  obtain ⟨hle, -⟩ := h.digit _ hmem
  exact absurd hle (by decide)

/-- A text of runs is split into them. -/
theorem Spells.splitOn_eq (h : Spells t runs) : Text.splitOn (.char '.') t = runs := by
  rw [h.joined]
  exact Text.splitOn_join h.ne_nil fun run hrun => (h.isRun run hrun).point_not_mem

/-- A text of runs is read, and what is read is what the runs write. -/
theorem Spells.split?_eq (h : Spells t runs) : split? t = some (ofRuns runs t, runs.length) := by
  have hnumbers : (Text.splitOn (.char '.') t).mapM component? = some (runs.map decimal) := by
    rw [h.splitOn_eq]
    exact mapM_component?_eq_some_iff.mpr ⟨h.isRun, rfl⟩
  have hne := h.ne_nil
  have hle := h.length_le
  rw [split?, hnumbers]
  -- there are one, two or three runs
  match runs, hne, hle with
  | [_], _, _ => rfl
  | [_, _], _, _ => rfl
  | [_, _, _], _, _ => rfl
  | _ :: _ :: _ :: _ :: _, _, hle =>
    simp only [List.length_cons] at hle
    omega

/-- What is read is a text of runs. -/
theorem exists_spells_of_split? (h : split? t = some (v, n)) : ∃ runs, Spells t runs := by
  obtain ⟨-, hn, hspelled⟩ := split?_eq_some h
  obtain ⟨numbers, hnumbers⟩ : ∃ numbers, (Text.splitOn (.char '.') t).mapM component? = some numbers := by
    cases hnumbers : (Text.splitOn (.char '.') t).mapM component? with
    | some numbers => exact ⟨numbers, rfl⟩
    | none =>
      rw [split?, hnumbers] at h
      cases h
  obtain ⟨hruns, -⟩ := mapM_component?_eq_some_iff.mp hnumbers
  exact ⟨_, Text.splitOn_ne_nil _ t, hn ▸ hspelled.le_three, hruns, (Text.join_splitOn _ t).symm⟩

/-- **A text without blanks around it is read exactly if it is made of runs of digits.** -/
theorem split?_eq_some_iff : split? t = some (v, n) ↔
    ∃ runs, Spells t runs ∧ v = ofRuns runs t ∧ n = runs.length := by
  constructor
  · intro h
    obtain ⟨runs, hruns⟩ := exists_spells_of_split? h
    obtain ⟨rfl, rfl⟩ := Prod.mk.inj (Option.some.inj (hruns.split?_eq.symm.trans h))
    exact ⟨runs, hruns, rfl, rfl⟩
  · rintro ⟨runs, hruns, rfl, rfl⟩
    exact hruns.split?_eq

theorem parse?_eq_some_iff : parse? t = some v ↔
    ∃ runs, Spells t.strip runs ∧ v = ofRuns runs t.strip := by
  rw [parse?, Option.map_eq_some_iff]
  constructor
  · rintro ⟨⟨v, n⟩, h, rfl⟩
    obtain ⟨runs, hruns, hv, -⟩ := split?_eq_some_iff.mp h
    exact ⟨runs, hruns, hv⟩
  · rintro ⟨runs, hruns, rfl⟩
    exact ⟨_, hruns.split?_eq, rfl⟩

/-- A text of runs starts with a digit. -/
theorem Spells.exists_head (h : Spells t runs) :
    ∃ c rest, t = c :: rest ∧ 0x30 ≤ c.value ∧ c.value ≤ 0x39 := by
  obtain ⟨run, others, rfl⟩ := List.exists_cons_of_ne_nil h.ne_nil
  have hrun : IsRun run := h.isRun run (List.mem_cons_self ..)
  obtain ⟨c, digits, rfl⟩ := List.exists_cons_of_ne_nil hrun.ne_nil
  exact ⟨c, _, h.joined.trans (Text.join_cons c digits others), hrun.digit c (List.mem_cons_self ..)⟩

end Version

/-! ## Ranges -/

/-- A text starts with the mark of a kind, and a body follows. Exact ranges have no mark. -/
inductive RangeKind.Marked : RangeKind → (body : Text) → Text → Prop where
  /-- the body alone -/
  | exact (body : Text) : Marked .exact body body
  /-- a tilde and the body -/
  | tilde (body : Text) : Marked .tilde body (.char '~' :: body)
  /-- a caret and the body -/
  | caret (body : Text) : Marked .caret body (.char '^' :: body)

namespace VersionRange

variable {t body : Text} {runs : List Text} {kind : RangeKind} {r : VersionRange}

/-- What is taken for a mark is one, or there is none. -/
theorem marked_splitKind (t : Text) : (splitKind t).1.Marked (splitKind t).2 t := by
  unfold splitKind
  split
  · exact .caret _
  · exact .tilde _
  · exact .exact _

/-- A mark in front of runs of digits is taken off, and nothing else is. -/
theorem splitKind_of_marked (h : kind.Marked body t) (hbody : Version.Spells body runs) :
    splitKind t = (kind, body) := by
  cases h with
  | tilde => rfl
  | caret => rfl
  | exact =>
    -- a digit is no mark
    obtain ⟨c, rest, rfl, -, hc⟩ := hbody.exists_head
    unfold splitKind
    split
    · rename_i heq
      obtain ⟨rfl, -⟩ := List.cons.inj heq
      exact absurd hc (by decide)
    · rename_i heq
      obtain ⟨rfl, -⟩ := List.cons.inj heq
      exact absurd hc (by decide)
    · rfl

theorem parse?_eq_some_iff : parse? t = some r ↔
    ∃ kind body runs, RangeKind.Marked kind body t.strip ∧ Version.Spells body runs ∧
      r = ⟨kind, Version.ofRuns runs body, t.strip, runs.length⟩ := by
  constructor
  · intro h
    obtain ⟨⟨v, n⟩, hsplit, rfl⟩ := Option.map_eq_some_iff.mp h
    obtain ⟨runs, hruns, rfl, rfl⟩ := Version.split?_eq_some_iff.mp hsplit
    exact ⟨_, _, runs, marked_splitKind _, hruns, rfl⟩
  · rintro ⟨kind, body, runs, hmarked, hruns, rfl⟩
    rw [parse?, splitKind_of_marked hmarked hruns]
    exact Option.map_eq_some_iff.mpr ⟨_, hruns.split?_eq, rfl⟩

/-- A version text is a range text without a mark, and writes the same version. -/
theorem parse?_version_iff (v : Version) : Version.parse? t = some v ↔
    ∃ r, parse? t = some r ∧ r.kind = .exact ∧ r.version = v := by
  rw [Version.parse?_eq_some_iff]
  constructor
  · rintro ⟨runs, hruns, rfl⟩
    exact ⟨_, parse?_eq_some_iff.mpr ⟨.exact, _, runs, .exact _, hruns, rfl⟩, rfl, rfl⟩
  · rintro ⟨r, hr, hexact, rfl⟩
    obtain ⟨kind, body, runs, hmarked, hruns, rfl⟩ := parse?_eq_some_iff.mp hr
    obtain rfl : kind = .exact := hexact
    generalize t.strip = s at hmarked
    cases hmarked with
    | exact => exact ⟨runs, hruns, rfl⟩

/-- **The parsers accept exactly their grammars.** Blanks around a text do not count. What is left writes a version
if it is made of runs of digits, and then the numbers of the version are those that the runs write; it writes a range
if it is so behind at most one mark, which tells the kind. A version text is a range text of the kind that has no mark,
with the same version. -/
theorem parse?_iff_spells (t : Text) :
    (∀ v, Version.parse? t = some v ↔
      ∃ runs, Version.Spells t.strip runs ∧ v = Version.ofRuns runs t.strip) ∧
    (∀ r, parse? t = some r ↔
      ∃ kind body runs, RangeKind.Marked kind body t.strip ∧ Version.Spells body runs ∧
        r = ⟨kind, Version.ofRuns runs body, t.strip, runs.length⟩) ∧
    ∀ v, Version.parse? t = some v ↔ ∃ r, parse? t = some r ∧ r.kind = .exact ∧ r.version = v :=
  ⟨fun _ => Version.parse?_eq_some_iff, fun _ => parse?_eq_some_iff, parse?_version_iff⟩

-- Seventeen digits are too many, and a blank may stand around a range but not behind its mark.
example : parse? "~10000000000000000" = none ∧ parse? "^ 1" = none ∧
    (parse? " ^1 ").map (·.version.triple) = some (1, 0, 0) := by decide

end VersionRange

end SemverDispatch
