import SemverDispatch.Pattern.Parser
import SemverDispatch.Proofs.Grammar
import SemverDispatch.Proofs.Matching

/-!
# The pattern of versions

A version text is read by splitting it at points. A pattern says the same: one to three runs of ASCII digits, of one to
sixteen digits each, every run in a group of its own, and a point in front of the second and of the third. What is read
from a text is what the groups keep that take part when all of the text matches (`Version.split?_eq_fullMatch`).

A second run may be kept by the second group or by the third. This makes no difference to the texts that are kept, so
it does not matter which way of matching is tried first, and all that is needed is that matching explores all ways.
-/

namespace SemverDispatch

/-! ## Matching all of a text -/

/-- The texts of the groups that took part, in their order. -/
def Match.texts (m : Match) : List Text := (List.range m.groups).filterMap fun i => m.edges.text? (i + 1)

namespace Pattern

variable {engine : Engine} {p : Pattern} {t : Text} {found : Match}

/-- A pattern, and the end of the subject behind it. -/
def toEnd (p : Pattern) : Pattern := { p with tree := .seq p.tree (.anchor .finish) }

/-- The match of a pattern with all of a subject, if there is one. -/
def fullMatch (engine : Engine) (p : Pattern) (t : Text) : Option Match :=
  match p.toEnd.matchAt engine (.start t) with
  | .matched m => some ⟨p.groups, m.edges⟩
  | .failed _ => none

/-- A pattern matches all of a subject, and keeps the edges of its groups. -/
def MatchesAll (p : Pattern) (t : Text) (edges : Edges) : Prop :=
  ∃ next, p.Matches (.start t) next edges ∧ next.ahead = []

theorem matches_toEnd_iff {here next : Cursor} {edges : Edges} :
    p.toEnd.Matches here next edges ↔ p.Matches here next edges ∧ next.ahead = [] := by
  constructor
  · rintro ⟨_, _, hways, hend, rfl, rfl⟩
    exact ⟨hways, eq_of_beq hend⟩
  · rintro ⟨hways, hend⟩
    exact ⟨next, edges, hways, beq_iff_eq.mpr hend, rfl, rfl⟩

theorem IsPlain.toEnd (h : p.IsPlain) : p.toEnd.IsPlain :=
  ⟨h.case, Bool.and_eq_true_iff.mpr ⟨h.tree, rfl⟩⟩

/-- **A match with all of a subject is one.** -/
theorem matchesAll_of_fullMatch (hp : p.IsPlain) (h : p.fullMatch engine t = some found) :
    found.groups = p.groups ∧ p.MatchesAll t found.edges := by
  unfold fullMatch at h
  split at h
  · rename_i m hm
    obtain rfl := Option.some.inj h
    obtain ⟨next, hmatches⟩ := matches_of_matchAt hp.toEnd hm
    exact ⟨rfl, next, matches_toEnd_iff.mp hmatches⟩
  · cases h

/-- **There is a match with all of a subject, if the pattern matches all of it.** -/
theorem exists_fullMatch (engine : Engine) (hp : p.IsPlain) {edges : Edges} (h : p.MatchesAll t edges) :
    ∃ found, p.fullMatch engine t = some found := by
  obtain ⟨next, hmatches⟩ := h
  unfold fullMatch
  split
  · exact ⟨_, rfl⟩
  · rename_i left hleft
    exact absurd (matches_toEnd_iff.mpr hmatches) (not_matches_of_matchAt hp.toEnd hleft next edges)

/-! ## The pattern -/

/-- One to sixteen ASCII digits. -/
def numberRun : Node := .times .most 1 (some 16) (.oneOf false [.range 0x30 0x39])

/-- A point and a run that a group keeps, or nothing. -/
def pointedRun (number : Nat) : Node :=
  .times .most 0 (some 1) (.seq (.point (.char '.')) (.group number numberRun))

/-- One to three runs with points between them. -/
def versionNumbers : Pattern where
  source := .text "([0-9]\x7b1,16\x7d)(?:\\.([0-9]\x7b1,16\x7d))?(?:\\.([0-9]\x7b1,16\x7d))?"
  flags := [.unicode]
  groups := 3
  tree := .sequence [.group 1 numberRun, pointedRun 2, pointedRun 3]

/-- It is compiled from its text. -/
theorem compile_versionNumbers :
    compile [] "([0-9]\x7b1,16\x7d)(?:\\.([0-9]\x7b1,16\x7d))?(?:\\.([0-9]\x7b1,16\x7d))?" = .ok versionNumbers :=
  rfl

theorem isPlain_versionNumbers : versionNumbers.IsPlain := ⟨by decide, rfl⟩

end Pattern

/-! ## Parts and groups -/

/-- Every part but the first stands behind a mark. -/
theorem Text.join_cons_eq_flatMap (mark : CodePoint) (part : Text) (parts : List Text) :
    join [mark] (part :: parts) = part ++ parts.flatMap (mark :: ·) := by
  induction parts generalizing part with
  | nil => exact (List.append_nil part).symm
  | cons next rest ih =>
    rw [join, ih, List.flatMap_cons, List.append_assoc, List.singleton_append, List.cons_append]
    exact List.cons_ne_nil _ _

namespace Edges

variable {e : Edges} {i number : Nat} {first last : Cursor} {run : Text}

theorem getElem?_mark_self (e : Edges) (i : Nat) (here : Cursor) : (e.mark i here)[i]? = some (some here) := by
  unfold mark
  split
  · rename_i h
    rw [List.getElem?_set_self h]
  · have hlength : (e ++ List.replicate (i - e.length) none).length = i := by simp; omega
    rw [List.getElem?_append_right (by omega), hlength, Nat.sub_self]
    rfl

theorem join_getElem?_mark_of_ne {j : Nat} (e : Edges) (here : Cursor) (h : j ≠ i) :
    (e.mark i here)[j]?.join = e[j]?.join := by
  unfold mark
  split
  · rw [List.getElem?_set_ne h.symm]
  · by_cases hj : j < e.length
    · rw [List.append_assoc, List.getElem?_append_left hj]
    · rw [List.getElem?_eq_none (Nat.le_of_not_lt hj)]
      -- in between nothing has been passed, and behind there is nothing
      by_cases hlt : j < i
      · rw [List.getElem?_append_left (by simp; omega), List.getElem?_append_right (Nat.le_of_not_lt hj),
          List.getElem?_replicate_of_lt (by omega)]
        rfl
      · rw [List.getElem?_eq_none (by simp; omega)]

/-- The edges behind a group that began at one place and ended at another. -/
def keep (e : Edges) (number : Nat) (first last : Cursor) : Edges :=
  (e.mark (2 * number - 2) first).mark (2 * number - 1) last

/-- The group keeps the text between the places. -/
theorem text?_keep (e : Edges) (hnumber : 0 < number) (h : first.Passes run last) :
    (e.keep number first last).text? number = some run := by
  refine text?_of_passes ?_ h
  have hfirst : (e.keep number first last)[2 * number - 2]?.join = some first := by
    rw [keep, join_getElem?_mark_of_ne _ _ (by omega), getElem?_mark_self]
    rfl
  have hlast : (e.keep number first last)[2 * number - 1]?.join = some last := by
    rw [keep, getElem?_mark_self]
    rfl
  rw [span?, hfirst, hlast]
  rfl

/-- Other groups keep what they had. -/
theorem text?_keep_of_ne (e : Edges) (first last : Cursor) (hnumber : 0 < number) (hi : 0 < i)
    (hne : i ≠ number) : (e.keep number first last).text? i = e.text? i := by
  have hsame {j : Nat} (hfirst : j ≠ 2 * number - 2) (hlast : j ≠ 2 * number - 1) :
      (e.keep number first last)[j]?.join = e[j]?.join := by
    rw [keep, join_getElem?_mark_of_ne _ _ hlast, join_getElem?_mark_of_ne _ _ hfirst]
  have hspan : (e.keep number first last).span? i = e.span? i := by
    rw [span?, span?, hsame (by omega) (by omega), hsame (by omega) (by omega)]
  rw [text?, text?, hspan]

end Edges

/-! ## The ways of the pattern -/

namespace Pattern

variable {flags : List Flag} {here next : Cursor} {e e' edges : Edges} {number : Nat} {t : Text}

theorem ways_numberRun (hcase : .ignoreCase ∉ flags) : numberRun.ways flags = .along Version.IsRun := by
  have htest (c : CodePoint) :
      inSet flags false [.range 0x30 0x39] c = true ↔ 0x30 ≤ c.value ∧ c.value ≤ 0x39 := by
    simp [inSet, amongMembers, SetItem.holds, Node.casing_of_notMem hcase]
  have hways : numberRun.ways flags =
      .taking (inSet flags false [.range 0x30 0x39]) 1 (·.furthest (some 16)) := rfl
  rw [hways, Ways.taking_furthest]
  congr 1
  funext run
  simp only [htest, Option.some.injEq, forall_eq', Nat.succ_le_iff, List.length_pos_iff]
  refine propext ⟨?_, ?_⟩
  · rintro ⟨hne, hle, hall⟩
    exact ⟨hne, hle, hall⟩
  · rintro ⟨hne, hle, hall⟩
    exact ⟨hne, hle, hall⟩

/-- A group keeps its run. -/
theorem ways_group_iff (hcase : .ignoreCase ∉ flags) :
    (Node.group number numberRun).ways flags here e next e' ↔
      ∃ run, Version.IsRun run ∧ here.Passes run next ∧ e' = e.keep number here next := by
  rw [Node.ways, ways_numberRun hcase]
  constructor
  · rintro ⟨_, ⟨⟨run, hrun, hpasses⟩, rfl⟩, rfl⟩
    exact ⟨run, hrun, hpasses, rfl⟩
  · rintro ⟨run, hrun, hpasses, rfl⟩
    exact ⟨_, ⟨⟨run, hrun, hpasses⟩, rfl⟩, rfl⟩

theorem ways_pointedRun_iff (hcase : .ignoreCase ∉ flags) :
    (pointedRun number).ways flags here e next e' ↔ (next = here ∧ e' = e) ∨
      ∃ first run, here.Passes "." first ∧ Version.IsRun run ∧ first.Passes run next ∧
        e' = e.keep number first next := by
  rw [pointedRun, Node.ways_optional rfl]
  refine or_congr Iff.rfl ?_
  rw [Node.ways, Node.ways_point hcase]
  constructor
  · rintro ⟨first, _, ⟨⟨_, rfl, hpoint⟩, rfl⟩, hgroup⟩
    obtain ⟨run, hrun, hpasses, rfl⟩ := (ways_group_iff hcase).mp hgroup
    exact ⟨first, run, hpoint, hrun, hpasses, rfl⟩
  · rintro ⟨first, run, hpoint, hrun, hpasses, rfl⟩
    exact ⟨first, e, ⟨⟨_, rfl, hpoint⟩, rfl⟩, (ways_group_iff hcase).mpr ⟨run, hrun, hpasses, rfl⟩⟩

theorem matches_versionNumbers_iff : versionNumbers.Matches here next edges ↔
    ∃ mid run mid' e, Version.IsRun run ∧ here.Passes run mid ∧
      (pointedRun 2).ways versionNumbers.flags mid (Edges.keep [] 1 here mid) mid' e ∧
      (pointedRun 3).ways versionNumbers.flags mid' e next edges := by
  have hcase : .ignoreCase ∉ versionNumbers.flags := by decide
  have htree : versionNumbers.tree.ways versionNumbers.flags =
      ((Node.group 1 numberRun).ways versionNumbers.flags).andThen
        (((pointedRun 2).ways versionNumbers.flags).andThen ((pointedRun 3).ways versionNumbers.flags)) := rfl
  rw [Matches, htree]
  constructor
  · rintro ⟨mid, _, hfirst, mid', e, hsecond, hthird⟩
    obtain ⟨run, hrun, hpasses, rfl⟩ := (ways_group_iff hcase).mp hfirst
    exact ⟨mid, run, mid', e, hrun, hpasses, hsecond, hthird⟩
  · rintro ⟨mid, run, mid', e, hrun, hpasses, hsecond, hthird⟩
    exact ⟨mid, _, (ways_group_iff hcase).mpr ⟨run, hrun, hpasses, rfl⟩, mid', e, hsecond, hthird⟩

/-! ## What is kept, and what is matched -/

/-- A part that may be missing takes nothing, or a point and the run that its group keeps. Other groups keep what they
had. -/
theorem kept_of_ways_pointedRun (hcase : .ignoreCase ∉ flags) (hnumber : 0 < number)
    (hnone : e.text? number = none) (h : (pointedRun number).ways flags here e next e') :
    (∀ run ∈ (e'.text? number).toList, Version.IsRun run) ∧
      here.ahead = (e'.text? number).toList.flatMap (.char '.' :: ·) ++ next.ahead ∧
      ∀ i, 0 < i → i ≠ number → e'.text? i = e.text? i := by
  rcases (ways_pointedRun_iff hcase).mp h with ⟨rfl, rfl⟩ | ⟨first, run, hpoint, hrun, hpasses, rfl⟩
  · rw [hnone]
    exact ⟨List.forall_mem_nil _, rfl, fun _ _ _ => rfl⟩
  · rw [e.text?_keep hnumber hpasses]
    refine ⟨List.forall_mem_singleton.mpr hrun, ?_, fun i hi hne => e.text?_keep_of_ne _ _ hnumber hi hne⟩
    rw [hpoint.ahead_eq, hpasses.ahead_eq]
    simp [Text.ofString]

/-- **What the groups keep of a version text are its runs.** -/
theorem spells_of_matchesAll (h : versionNumbers.MatchesAll t edges) :
    Version.Spells t (Match.texts ⟨3, edges⟩) := by
  have hcase : .ignoreCase ∉ versionNumbers.flags := by decide
  have htexts : Match.texts ⟨3, edges⟩ =
      (edges.text? 1).toList ++ ((edges.text? 2).toList ++ (edges.text? 3).toList) := by
    have hrow : Match.texts ⟨3, edges⟩ = [edges.text? 1, edges.text? 2, edges.text? 3].filterMap id := rfl
    rw [hrow]
    cases edges.text? 1 <;> cases edges.text? 2 <;> cases edges.text? 3 <;> rfl
  obtain ⟨next, hmatches, hend⟩ := h
  obtain ⟨mid, run, mid', e, hrun, hpasses, hsecond, hthird⟩ := matches_versionNumbers_iff.mp hmatches
  have hkeep (number : Nat) (hnumber : 1 < number) :
      (Edges.keep [] 1 (.start t) mid).text? number = none := by
    rw [Edges.text?_keep_of_ne _ _ _ Nat.one_pos (by omega) (by omega)]
    rfl
  obtain ⟨hruns, hahead, hothers⟩ :=
    kept_of_ways_pointedRun hcase Nat.two_pos (hkeep 2 (by decide)) hsecond
  obtain ⟨hruns', hahead', hothers'⟩ := kept_of_ways_pointedRun hcase (by decide)
    ((hothers 3 (by decide) (by decide)).trans (hkeep 3 (by decide))) hthird
  -- what the first two groups keep they still keep in the end
  have hfirst : edges.text? 1 = some run := by
    rw [hothers' 1 (by decide) (by decide), hothers 1 (by decide) (by decide)]
    exact Edges.text?_keep [] Nat.one_pos hpasses
  rw [← hothers' 2 (by decide) (by decide)] at hruns hahead
  have hone (kept : Option Text) : kept.toList.length ≤ 1 := by cases kept <;> simp
  rw [htexts, hfirst]
  refine ⟨List.cons_ne_nil _ _, ?_, ?_, ?_⟩
  · have hsecond := hone (edges.text? 2)
    have hthird := hone (edges.text? 3)
    simp only [List.length_append, Option.toList_some, List.length_singleton]
    omega
  · exact List.forall_mem_append.mpr
      ⟨List.forall_mem_singleton.mpr hrun, List.forall_mem_append.mpr ⟨hruns, hruns'⟩⟩
  · have ht : t = run ++ mid.ahead := hpasses.ahead_eq
    rw [Option.toList_some, List.singleton_append, Text.join_cons_eq_flatMap, List.flatMap_append]
    rw [ht, hahead, hahead', hend, List.append_nil]

/-- A run behind a point is kept by the group that is there for it. -/
theorem exists_ways_pointedRun (hcase : .ignoreCase ∉ flags) (number : Nat) (e : Edges) {run rest : Text}
    (hrun : Version.IsRun run) (h : here.ahead = .char '.' :: run ++ rest) :
    ∃ next e', (pointedRun number).ways flags here e next e' ∧ next.ahead = rest := by
  obtain ⟨next, hnext⟩ := Cursor.exists_passes h
  obtain ⟨first, hpoint, hpasses⟩ := Cursor.passes_append_iff.mp
    (show here.Passes ([.char '.'] ++ run) next from hnext)
  refine ⟨next, _, (ways_pointedRun_iff hcase).mpr (.inr ⟨first, run, hpoint, hrun, hpasses, rfl⟩), ?_⟩
  exact List.append_cancel_left (hnext.ahead_eq.symm.trans h)

/-- **A version text is matched.** -/
theorem exists_matchesAll {runs : List Text} (h : Version.Spells t runs) :
    ∃ edges, versionNumbers.MatchesAll t edges := by
  have hcase : .ignoreCase ∉ versionNumbers.flags := by decide
  have hstay (number : Nat) (here : Cursor) (e : Edges) :
      (pointedRun number).ways versionNumbers.flags here e here e :=
    (ways_pointedRun_iff hcase).mpr (.inl ⟨rfl, rfl⟩)
  obtain ⟨hne, hle, hruns, ht⟩ := h
  obtain ⟨run, others, rfl⟩ := List.exists_cons_of_ne_nil hne
  obtain ⟨hrun, hothers⟩ := List.forall_mem_cons.mp hruns
  -- what follows the first run is left to the two parts that may be missing
  obtain ⟨rest, hrest, hparts⟩ : ∃ rest, t = run ++ rest ∧ ∀ mid e, Cursor.ahead mid = rest →
      ∃ mid' e' next edges, (pointedRun 2).ways versionNumbers.flags mid e mid' e' ∧
        (pointedRun 3).ways versionNumbers.flags mid' e' next edges ∧ next.ahead = [] := by
    rcases others with _ | ⟨run', _ | ⟨run'', _ | ⟨fourth, others⟩⟩⟩
    · refine ⟨[], by simpa [Text.join] using ht, fun mid e hmid => ?_⟩
      exact ⟨mid, e, mid, e, hstay 2 mid e, hstay 3 mid e, hmid⟩
    · refine ⟨.char '.' :: run' ++ [], by simpa [Text.join] using ht, fun mid e hmid => ?_⟩
      obtain ⟨next, e', hways, hnext⟩ := exists_ways_pointedRun hcase 2 e (hothers run' (by simp)) hmid
      exact ⟨next, e', next, e', hways, hstay 3 next e', hnext⟩
    · refine ⟨.char '.' :: run' ++ (.char '.' :: run'' ++ []), by simpa [Text.join] using ht,
        fun mid e hmid => ?_⟩
      obtain ⟨mid', e', hways, hmid'⟩ := exists_ways_pointedRun hcase 2 e (hothers run' (by simp)) hmid
      obtain ⟨next, edges, hways', hnext⟩ := exists_ways_pointedRun hcase 3 e' (hothers run'' (by simp)) hmid'
      exact ⟨mid', e', next, edges, hways, hways', hnext⟩
    · -- four runs are too many
      simp only [List.length_cons] at hle
      omega
  obtain ⟨mid, hmid⟩ := Cursor.exists_passes (show (Cursor.start t).ahead = run ++ rest from hrest)
  obtain ⟨mid', e', next, edges, hsecond, hthird, hend⟩ := hparts mid (Edges.keep [] 1 (.start t) mid)
    (List.append_cancel_left (hmid.ahead_eq.symm.trans hrest))
  exact ⟨edges, next, matches_versionNumbers_iff.mpr ⟨mid, run, mid', e', hrun, hmid, hsecond, hthird⟩, hend⟩

end Pattern

/-! ## Reading -/

namespace Version

/-- **Splitting reads what the pattern keeps.** A text without blanks around it is read exactly if the pattern matches
all of it, and the numbers are those of the groups that took part, in their order, and zeros behind them. -/
theorem split?_eq_fullMatch (engine : Engine) (t : Text) :
    split? t = (Pattern.versionNumbers.fullMatch engine t).map fun found =>
      (ofRuns found.texts t, found.texts.length) := by
  have hplain := Pattern.isPlain_versionNumbers
  cases hfound : Pattern.versionNumbers.fullMatch engine t with
  | some found =>
    obtain ⟨hgroups, hmatches⟩ := Pattern.matchesAll_of_fullMatch hplain hfound
    have hspells := Pattern.spells_of_matchesAll hmatches
    obtain ⟨_, edges⟩ := found
    obtain rfl : _ = 3 := hgroups
    exact hspells.split?_eq
  | none =>
    cases hsplit : split? t with
    | none => rfl
    | some read =>
      obtain ⟨v, n⟩ := read
      obtain ⟨runs, hspells⟩ := exists_spells_of_split? hsplit
      obtain ⟨edges, hmatches⟩ := Pattern.exists_matchesAll hspells
      obtain ⟨found, hsome⟩ := Pattern.exists_fullMatch engine hplain hmatches
      rw [hfound] at hsome
      cases hsome

end Version

end SemverDispatch
