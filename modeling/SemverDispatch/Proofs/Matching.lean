import SemverDispatch.Pattern.Search

/-!
# Matching explores all ways

Matching hands every way to match a node to what follows it, and takes the first for which all of the pattern
matches. What it does on a way is a relation between places, and between the edges of groups there (`Node.ways`). A
step explores some ways if it only ever goes on along one of them, and if it fails only when what follows has failed
behind each of them (`Step.Explores`). Every node that is made of parts in a row, alternatives, groups, references and
repetitions that are not committed (`Node.isPlain`) explores its ways, as long as case matters (`Node.explores`):
whatever an attempt that fails leaves behind, the next one starts with the same edges, and an alternative or a place is
passed over only if it could not have been any use (`Node.failed_of_refuses`). Where no group is in the way, the ways
of a node are those over the texts of a language (`Ways.along`).

Since nothing follows a whole pattern, a search finds the leftmost place from which there is a way, if there is any
(`Pattern.isLeftmost_of_search`, `Pattern.search_eq_none_iff`).
-/

namespace SemverDispatch

/-! ## Places behind a text -/

/-- A text leads from one place to another. -/
inductive Cursor.Passes : Cursor → Text → Cursor → Prop where
  /-- nothing leads nowhere else -/
  | nil (here : Cursor) : Passes here [] here
  /-- the next code point, and so on -/
  | cons {here next : Cursor} {c : CodePoint} {w rest : Text} (ahead : here.ahead = c :: rest)
      (further : Passes (here.advance c rest) w next) : Passes here (c :: w) next

namespace Cursor

variable {here mid next other : Cursor} {u v w b : Text} {test : CodePoint → Bool} {limit least : Nat}

theorem Passes.ahead_eq (h : Passes here w next) : here.ahead = w ++ next.ahead := by
  induction h with
  | nil => rfl
  | cons ahead _ ih => rw [ahead, List.cons_append, ← ih]; rfl

theorem Passes.position_eq (h : Passes here w next) : next.position = here.position + w.length := by
  induction h with
  | nil => rfl
  | cons _ _ ih =>
    rw [ih, List.length_cons, advance]
    dsimp only
    omega

/-- The text that leads from one place to another is the text between them. -/
theorem Passes.textTo_eq (h : Passes here w next) : here.textTo next = w := by
  rw [textTo, h.position_eq, h.ahead_eq, Nat.add_sub_cancel_left, List.take_left]

/-- Only one place is behind a text. -/
theorem Passes.unique (h : Passes here w next) (h' : Passes here w other) : next = other := by
  induction h with
  | nil =>
    cases h'
    rfl
  | cons ahead _ ih =>
    cases h' with
    | cons ahead' further' =>
      obtain ⟨-, rfl⟩ := List.cons.inj (ahead.symm.trans ahead')
      exact ih further'

/-- Two texts between the same places are the same. -/
theorem Passes.text_unique (hv : here.Passes v next) (hw : here.Passes w next) : v = w :=
  List.append_cancel_right (hv.ahead_eq.symm.trans hw.ahead_eq)

theorem exists_passes (h : here.ahead = w ++ b) : ∃ next, Passes here w next := by
  induction w generalizing here with
  | nil => exact ⟨here, .nil here⟩
  | cons c w ih =>
    obtain ⟨next, hnext⟩ := @ih (here.advance c (w ++ b)) rfl
    exact ⟨next, .cons h hnext⟩

theorem passes_append_iff : Passes here (u ++ v) next ↔ ∃ mid, Passes here u mid ∧ Passes mid v next := by
  constructor
  · intro h
    induction u generalizing here with
    | nil => exact ⟨here, .nil here, h⟩
    | cons c u ih =>
      cases h with
      | cons ahead further =>
        obtain ⟨mid, hu, hv⟩ := ih further
        exact ⟨mid, .cons ahead hu, hv⟩
  · rintro ⟨mid, hu, hv⟩
    induction hu with
    | nil => exact hv
    | cons ahead _ ih => exact .cons ahead (ih hv)

theorem passes_singleton_iff {c : CodePoint} :
    Passes here [c] next ↔ ∃ rest, here.ahead = c :: rest ∧ next = here.advance c rest := by
  constructor
  · intro h
    cases h with
    | cons ahead further =>
      cases further
      exact ⟨_, ahead, rfl⟩
  · rintro ⟨rest, hahead, rfl⟩
    exact .cons hahead (.nil _)

theorem passes_cons_iff {c : CodePoint} {rest : Text} (h : here.ahead = c :: rest) :
    Passes here (c :: w) next ↔ Passes (here.advance c rest) w next := by
  refine ⟨fun hpasses => ?_, .cons h⟩
  cases hpasses with
  | cons ahead further =>
    obtain ⟨-, rfl⟩ := List.cons.inj (h.symm.trans ahead)
    exact further

/-- A text leads to a place, is neither too short nor too long, and all of it passes a test. -/
def Takes (test : CodePoint → Bool) (least limit : Nat) (here next : Cursor) : Prop :=
  ∃ w, Passes here w next ∧ least ≤ w.length ∧ w.length ≤ limit ∧ ∀ c ∈ w, test c = true

/-- Where no code point may be taken, nothing but this place is reached. -/
theorem takes_of_stuck (h : ∀ c rest, here.ahead = c :: rest → test c = true → limit = 0) :
    Takes test least limit here next ↔ next ∈ [here].drop least := by
  constructor
  · rintro ⟨w, hw, hleast, hlimit, hall⟩
    cases hw with
    | nil =>
      obtain rfl := Nat.le_zero.mp hleast
      exact List.mem_singleton_self _
    | cons ahead _ =>
      rw [h _ _ ahead (hall _ (List.mem_cons_self ..))] at hlimit
      cases hlimit
  · intro hmem
    cases least with
    | zero =>
      obtain rfl := List.mem_singleton.mp hmem
      exact ⟨[], .nil _, Nat.le_refl _, Nat.zero_le _, nofun⟩
    | succ least =>
      rw [List.drop_succ_cons, List.drop_nil] at hmem
      cases hmem

/-- Where a code point may be taken, it is, unless this place is where it ends. -/
theorem takes_of_passing {c : CodePoint} {rest : Text} (hahead : here.ahead = c :: rest) (hc : test c = true) :
    Takes test least (limit + 1) here next ↔
      (least = 0 ∧ next = here) ∨ Takes test (least - 1) limit (here.advance c rest) next := by
  constructor
  · rintro ⟨w, hw, hleast, hlimit, hall⟩
    cases w with
    | nil =>
      cases hw
      exact .inl ⟨Nat.le_zero.mp hleast, rfl⟩
    | cons d w =>
      have hd := hw.ahead_eq
      rw [hahead] at hd
      obtain ⟨rfl, -⟩ := List.cons.inj hd
      exact .inr ⟨w, (passes_cons_iff hahead).mp hw, Nat.sub_le_iff_le_add.mpr hleast,
        Nat.le_of_succ_le_succ hlimit, (List.forall_mem_cons.mp hall).2⟩
  · rintro (⟨rfl, rfl⟩ | ⟨w, hw, hleast, hlimit, hall⟩)
    · exact ⟨[], .nil _, Nat.le_refl _, Nat.zero_le _, nofun⟩
    · exact ⟨c :: w, (passes_cons_iff hahead).mpr hw, Nat.sub_le_iff_le_add.mp hleast,
        Nat.succ_le_succ hlimit, List.forall_mem_cons.mpr ⟨hc, hall⟩⟩

/-- The places that are reached are those behind texts that pass the test and are neither too short nor too long. -/
theorem mem_drop_reach_iff : next ∈ (here.reach test limit).drop least ↔ Takes test least limit here next := by
  induction limit generalizing here least with
  | zero => exact (takes_of_stuck fun _ _ _ _ => rfl).symm
  | succ limit ih =>
    rw [reach]
    split
    · rename_i hahead
      refine (takes_of_stuck fun c rest h => ?_).symm
      rw [hahead] at h
      cases h
    · rename_i c rest hahead
      split
      · rename_i hc
        rw [takes_of_passing hahead hc, ← @ih (here.advance c rest)]
        cases least with
        | zero => simp
        | succ least => simp
      · rename_i hc
        refine (takes_of_stuck fun d rest' h hd => ?_).symm
        obtain ⟨rfl, -⟩ := List.cons.inj (hahead.symm.trans h)
        exact absurd hd hc

end Cursor

/-- A group keeps the text that leads from where it begins to where it ends. -/
theorem Edges.text?_of_passes {edges : Edges} {number : Nat} {first last : Cursor} {w : Text}
    (hspan : edges.span? number = some (first, last)) (h : first.Passes w last) :
    edges.text? number = some w := by
  have hposition := h.position_eq
  have hle : first.position ≤ last.position := by omega
  rw [text?, hspan]
  simp [hle, h.textTo_eq]

/-! ## Ways -/

/-- Ways to go on from a place and the edges there: to another place, and the edges there. -/
abbrev Ways := Cursor → Edges → Cursor → Edges → Prop

namespace Ways

/-- No further, and with nothing changed. -/
def stay : Ways := fun here e next e' => next = here ∧ e' = e

/-- One way after another. -/
def andThen (first second : Ways) : Ways := fun here e next e' =>
  ∃ mid between, first here e mid between ∧ second mid between next e'

/-- Over code points that pass a test, from `least` to `limit` of them. -/
def taking (test : CodePoint → Bool) (least : Nat) (limit : Cursor → Nat) : Ways := fun here e next e' =>
  here.Takes test least (limit here) next ∧ e' = e

/-- A number of rounds, and then another way. -/
def before (round : Ways) : Nat → Ways → Ways
  | 0, second => second
  | n + 1, second => round.andThen (round.before n second)

/-- Up to a number of rounds, the last of which may take nothing. The round before them started at `last`. -/
inductive Rounds (round : Ways) : Nat → (last : Option Nat) → Ways where
  /-- no more rounds -/
  | stop (n : Nat) (last : Option Nat) (here : Cursor) (e : Edges) : Rounds round n last here e here e
  /-- one more -/
  | more {n : Nat} {last : Option Nat} {here mid next : Cursor} {e between e' : Edges}
      (moved : last ≠ some here.position) (first : round here e mid between)
      (others : Rounds round n (some here.position) mid between next e') :
      Rounds round (n + 1) last here e next e'

end Ways

/-- How many rounds there may be from a place on, besides those that have to be. -/
def Cursor.extraRounds (here : Cursor) (least : Nat) (bound : Option Nat) : Nat :=
  bound.elim (here.ahead.length + 1) fun b => min (b - least) (here.ahead.length + 1)

/-- How many code points may be taken from a place on. -/
def Cursor.furthest (here : Cursor) (bound : Option Nat) : Nat :=
  bound.elim here.ahead.length (min here.ahead.length)

/-- The ways to match a node, where case matters. What is looked at and not taken, is final or has flags or conditions
of its own has none here. -/
def Node.ways (flags : List Flag) : Node → Ways
  | .empty => .stay
  | .nothing => fun _ _ _ _ => False
  | .point p => .taking (samePoint flags p) 1 fun _ => 1
  | .any => .taking (dotTakes flags) 1 fun _ => 1
  | .oneOf negated items => .taking (inSet flags negated items) 1 fun _ => 1
  | .anchor a => fun here e next e' => here.isAt flags a = true ∧ Ways.stay here e next e'
  | .seq first second => (first.ways flags).andThen (second.ways flags)
  | .either first others => fun here e next e' =>
    first.ways flags here e next e' ∨ others.ways flags here e next e'
  | .group number body => fun here e next e' =>
    ∃ inside, body.ways flags here (e.mark (2 * number - 2) here) next inside ∧
      e' = inside.mark (2 * number - 1) next
  | .reference number => fun here e next e' =>
    e' = e ∧ (e.text? number).bind (here.advanceOver (sameKept flags) ·) = some next
  | .times _ least bound body =>
    match body.test? flags with
    | some test => .taking test least (·.furthest bound)
    | none => (body.ways flags).before least fun here =>
      Ways.Rounds (body.ways flags) (here.extraRounds least bound) none here
  | .ahead .. | .behind .. | .choice .. | .final _ | .under .. => fun _ _ _ _ => False

/-- Is a node made of parts in a row, alternatives, groups, references and repetitions that are not committed? -/
def Node.isPlain : Node → Bool
  | .empty | .nothing | .point _ | .any | .oneOf .. | .anchor _ | .reference _ => true
  | .seq first second => first.isPlain && second.isPlain
  | .either first others => first.isPlain && others.isPlain
  | .group _ body => body.isPlain
  | .times preference _ _ body => preference != .committed && body.isPlain
  | .ahead .. | .behind .. | .choice .. | .final _ | .under .. => false

/-! ## What follows -/

/-- What follows fails wherever it says that it cannot start. -/
def Rest.IsHonest (rest : Rest) : Prop :=
  ∀ here m, rest.lead.refuses here.ahead = true → ∃ left, rest.go here m = .failed left

namespace Rest

variable {rest : Rest} {here : Cursor}

theorem isHonest_hidden (go : Cursor → Memory → Outcome) : (hidden go).IsHonest := nofun

theorem isHonest_done : done.IsHonest := nofun

theorem IsHonest.failed_of_refusesPoint (h : rest.IsHonest) (m : Memory)
    (hrefuses : rest.lead.refusesPoint here.ahead = true) : ∃ left, rest.go here m = .failed left := by
  refine h here m ?_
  cases hlead : rest.lead with
  | point p => rwa [hlead] at hrefuses
  | _ =>
    rw [hlead] at hrefuses
    cases hrefuses

end Rest

/-! ## Steps -/

/-- A step goes on along its ways and no others, and fails only if what follows fails behind all of them. -/
structure Step.Explores (step : Step) (ways : Ways) : Prop where
  /-- it matches along one of them -/
  matched : ∀ {here : Cursor} {m found : Memory} {rest : Rest}, rest.IsHonest → step here m rest = .matched found →
    ∃ next left, ways here m.edges next left.edges ∧ rest.go next left = .matched found
  /-- it fails after all of them -/
  failed : ∀ {here : Cursor} {m left : Memory} {rest : Rest}, rest.IsHonest → step here m rest = .failed left →
    ∀ next e, ways here m.edges next e → ∃ m' left', m'.edges = e ∧ rest.go next m' = .failed left'

namespace Setting

variable {s : Setting}

/-- Outside committed repetitions the edges are as they were. -/
theorem edges_undo (h : s ≠ .committed) (m left : Memory) : (s.undo m left).edges = m.edges := by
  cases s with
  | committed => exact absurd rfl h
  | _ => rfl

theorem within_ne_committed (preference : Preference) (h : preference ≠ .committed) (s : Setting) :
    s.within preference ≠ .committed := by
  cases preference with
  | committed => exact absurd rfl h
  | _ => nofun

end Setting

namespace Outcome

variable {o : Outcome} {second : Memory → Outcome} {here : Cursor} {m : Memory}

theorem otherwise_eq_matched_iff : o.otherwise second = .matched m ↔
    o = .matched m ∨ ∃ left, o = .failed left ∧ second left = .matched m := by
  cases o <;> simp [otherwise]

theorem otherwise_eq_failed_iff : o.otherwise second = .failed m ↔
    ∃ left, o = .failed left ∧ second left = .failed m := by
  cases o <;> simp [otherwise]

theorem backTo_eq_matched_iff : o.backTo here = .matched m ↔ o = .matched m := by
  cases o <;> simp [backTo, otherwise]

theorem exists_of_backTo_eq_failed (h : o.backTo here = .failed m) : ∃ left, o = .failed left := by
  cases o with
  | matched m' => cases h
  | failed left => exact ⟨left, rfl⟩

end Outcome

namespace Step

variable {s : Setting} {body second : Step} {ways after : Ways} {test : CodePoint → Bool} {rest : Rest}
  {here place : Cursor} {m left found : Memory} {engine : Engine} {places : List Cursor} {n : Nat} {last : Option Nat}

theorem explores_take (test : CodePoint → Bool) : (take test).Explores (.taking test 1 fun _ => 1) where
  matched := by
    intro here m found rest _ h
    rw [take] at h
    split at h
    · cases h
    · rename_i c ahead hahead
      split at h
      · rename_i hc
        exact ⟨_, m, ⟨⟨[c], .cons hahead (.nil _), Nat.le_refl _, Nat.le_refl _,
          List.forall_mem_singleton.mpr hc⟩, rfl⟩, h⟩
      · cases h
  failed := by
    intro here m left rest _ h next e hways
    obtain ⟨⟨w, hw, hleast, hlimit, hall⟩, rfl⟩ := hways
    obtain ⟨c, rfl⟩ := List.length_eq_one_iff.mp (Nat.le_antisymm hlimit hleast)
    obtain ⟨ahead, hahead, rfl⟩ := Cursor.passes_singleton_iff.mp hw
    rw [take, hahead] at h
    dsimp only at h
    rw [if_pos (hall c (List.mem_cons_self ..))] at h
    exact ⟨m, left, rfl, h⟩

/-! ## Several places -/

/-- What comes of trying the places of a row, all with the same edges: a match from one of them, or a failure after
failures from all. -/
structure Tries (rest : Rest) (places : List Cursor) (e : Edges) (o : Outcome) : Prop where
  /-- it matches from one of them -/
  matched : ∀ {found : Memory}, o = .matched found →
    ∃ place ∈ places, ∃ left : Memory, left.edges = e ∧ rest.go place left = .matched found
  /-- it fails after all of them -/
  failed : ∀ {left : Memory}, o = .failed left →
    ∀ place ∈ places, ∃ m left' : Memory, m.edges = e ∧ rest.go place m = .failed left'

namespace Tries

variable {e : Edges} {o : Outcome} {next : Memory → Outcome} {others : List Cursor}

theorem nil (m : Memory) : Tries rest [] e (.failed m) := ⟨nofun, nofun⟩

/-- A place where what follows cannot start is passed over. -/
theorem skip (hedges : m.edges = e) (hfailed : ∃ left, rest.go place m = .failed left) (h : Tries rest others e o) :
    Tries rest (place :: others) e o where
  matched := by
    intro found hfound
    obtain ⟨there, hthere, htried⟩ := h.matched hfound
    exact ⟨there, List.mem_cons_of_mem _ hthere, htried⟩
  failed := by
    intro left hleft
    obtain ⟨left', hfailed⟩ := hfailed
    exact List.forall_mem_cons.mpr ⟨⟨m, left', hedges, hfailed⟩, h.failed hleft⟩

/-- A place comes before the others. -/
theorem cons (h : ∀ left, Tries rest others m.edges (next left)) :
    Tries rest (place :: others) m.edges ((rest.go place (m.visit place)).otherwise next) where
  matched := by
    intro found hfound
    rcases Outcome.otherwise_eq_matched_iff.mp hfound with hfound | ⟨left, -, hfound⟩
    · exact ⟨place, List.mem_cons_self .., m.visit place, rfl, hfound⟩
    · obtain ⟨there, hthere, htried⟩ := (h left).matched hfound
      exact ⟨there, List.mem_cons_of_mem _ hthere, htried⟩
  failed := by
    intro left hleft
    obtain ⟨left', hfailed, hleft⟩ := Outcome.otherwise_eq_failed_iff.mp hleft
    exact List.forall_mem_cons.mpr ⟨⟨m.visit place, left', rfl, hfailed⟩, (h left').failed hleft⟩

end Tries

theorem tries_tryEach (hs : s ≠ .committed) (hrest : rest.IsHonest) :
    Tries rest places m.edges (tryEach s rest places m) := by
  induction places generalizing m with
  | nil => exact .nil m
  | cons place others ih =>
    rw [tryEach]
    split
    · rename_i hrefuses
      exact .skip rfl (hrest.failed_of_refusesPoint m hrefuses) ih
    · exact .cons fun left => Setting.edges_undo hs m left ▸ ih

theorem tries_tryEachBack (hs : s ≠ .committed) : Tries rest places m.edges (tryEachBack s rest places m) := by
  induction places generalizing m with
  | nil => exact .nil m
  | cons place others ih =>
    have hedges (left : Memory) : ((s.undo m left).visit place).edges = m.edges := Setting.edges_undo hs m left
    exact .cons fun left => hedges left ▸ ih

/-- Too few code points are left to take. -/
theorem not_takes_of_lt {least limit : Nat} {next : Cursor} (h : here.ahead.length < least) :
    ¬ here.Takes test least limit next := by
  rintro ⟨w, hw, hleast, -⟩
  have hlength := congrArg List.length hw.ahead_eq
  rw [List.length_append] at hlength
  omega

/-- Single code points are taken as often as the bounds say. -/
theorem explores_single (hs : s ≠ .committed) {preference : Preference} (hpreference : preference ≠ .committed)
    (least : Nat) (bound : Option Nat) :
    (single s preference least bound test).Explores (.taking test least (·.furthest bound)) where
  matched := by
    intro here m found rest hrest h
    rw [single] at h
    split at h
    · cases h
    · cases preference with
      | most =>
        obtain ⟨place, hplace, left, hedges, hgo⟩ := (tries_tryEach hs hrest).matched h
        exact ⟨place, left, ⟨Cursor.mem_drop_reach_iff.mp (List.mem_reverse.mp hplace), hedges⟩, hgo⟩
      | fewest =>
        obtain ⟨place, hplace, left, hedges, hgo⟩ := (tries_tryEachBack hs).matched h
        exact ⟨place, left, ⟨Cursor.mem_drop_reach_iff.mp hplace, hedges⟩, hgo⟩
      | committed => exact absurd rfl hpreference
  failed := by
    intro here m left rest hrest h next e hways
    obtain ⟨htakes, rfl⟩ := hways
    rw [single] at h
    split at h
    · rename_i hlt
      exact absurd htakes (not_takes_of_lt hlt)
    · have hmem := Cursor.mem_drop_reach_iff.mpr htakes
      cases preference with
      | most => exact (tries_tryEach hs hrest).failed h next (List.mem_reverse.mpr hmem)
      | fewest => exact (tries_tryEachBack hs).failed h next hmem
      | committed => exact absurd rfl hpreference

/-! ## Rounds -/

/-- The rounds that have to be made come before what else there is to do. -/
theorem explores_required (hbody : body.Explores ways) (hsecond : second.Explores after) (n : Nat) :
    Explores (fun here m rest => required body n (fun next left => second next left rest) here m)
      (ways.before n after) where
  matched := by
    intro here m found rest hrest h
    induction n generalizing here m with
    | zero => exact hsecond.matched hrest h
    | succ n ih =>
      obtain ⟨mid, left, hways, hgo⟩ :=
        hbody.matched (Rest.isHonest_hidden _) (Outcome.backTo_eq_matched_iff.mp h)
      obtain ⟨next, left', hothers, hmatched⟩ := ih hgo
      exact ⟨next, left', ⟨mid, left.edges, hways, hothers⟩, hmatched⟩
  failed := by
    intro here m left rest hrest h next e hways
    induction n generalizing here m left with
    | zero => exact hsecond.failed hrest h next e hways
    | succ n ih =>
      obtain ⟨mid, between, hround, hothers⟩ := hways
      obtain ⟨left', hfailed⟩ := Outcome.exists_of_backTo_eq_failed h
      obtain ⟨m', left'', rfl, hgo⟩ := hbody.failed (Rest.isHonest_hidden _) hfailed mid between hround
      exact ih hgo hothers

theorem explores_most (hbody : body.Explores ways) (n : Nat) (last : Option Nat) :
    Explores (fun here m rest => most body rest n last here m) (.Rounds ways n last) where
  matched := by
    intro here m found rest hrest h
    induction n generalizing here m last with
    | zero => exact ⟨here, m.visit here, .stop .., Outcome.backTo_eq_matched_iff.mp h⟩
    | succ n ih =>
      rw [most] at h
      split at h
      · exact ⟨here, m.visit here, .stop .., Outcome.backTo_eq_matched_iff.mp h⟩
      · rename_i hmoved
        split at h
        · rename_i found' hround
          obtain rfl := Outcome.matched.inj h
          obtain ⟨mid, left, hways, hgo⟩ := hbody.matched (Rest.isHonest_hidden _) hround
          obtain ⟨next, left', hothers, hmatched⟩ := ih _ hgo
          exact ⟨next, left', .more hmoved hways hothers, hmatched⟩
        · exact ⟨here, m.visit here, .stop .., Outcome.backTo_eq_matched_iff.mp h⟩
  failed := by
    intro here m left rest hrest h next e hways
    induction n generalizing here m left last with
    | zero =>
      cases hways with
      | stop =>
        obtain ⟨left', hfailed⟩ := Outcome.exists_of_backTo_eq_failed h
        exact ⟨m.visit next, left', rfl, hfailed⟩
    | succ n ih =>
      rw [most] at h
      cases hways with
      | stop =>
        -- whether there was another round or not, it ends with what follows here
        have hleave : ∃ left', (rest.go next (m.visit next)).backTo next = .failed left' := by
          split at h
          · exact ⟨_, h⟩
          · split at h
            · cases h
            · exact ⟨_, h⟩
        obtain ⟨left', hfailed⟩ := hleave
        obtain ⟨left'', hfailed⟩ := Outcome.exists_of_backTo_eq_failed hfailed
        exact ⟨m.visit next, left'', rfl, hfailed⟩
      | more moved first others =>
        rw [if_neg moved] at h
        split at h
        · cases h
        · rename_i left' hround
          obtain ⟨m', left'', rfl, hgo⟩ := hbody.failed (Rest.isHonest_hidden _) hround _ _ first
          exact ih _ hgo others

theorem explores_fewest (hs : s ≠ .committed) (hbody : body.Explores ways) (n : Nat) (last : Option Nat) :
    Explores (fun here m rest => fewest s body rest n last here m) (.Rounds ways n last) where
  matched := by
    intro here m found rest hrest h
    induction n generalizing here m last with
    | zero =>
      rcases Outcome.otherwise_eq_matched_iff.mp h with h | ⟨left, -, h⟩
      · exact ⟨here, m.visit here, .stop .., h⟩
      · cases h
    | succ n ih =>
      rcases Outcome.otherwise_eq_matched_iff.mp h with h | ⟨left, -, h⟩
      · exact ⟨here, m.visit here, .stop .., h⟩
      · dsimp only at h
        split at h
        · cases h
        · rename_i hmoved
          obtain ⟨mid, left', hways, hgo⟩ :=
            hbody.matched (Rest.isHonest_hidden _) (Outcome.backTo_eq_matched_iff.mp h)
          have hedges : ((s.undo m left).visit here).edges = m.edges := Setting.edges_undo hs m left
          rw [hedges] at hways
          obtain ⟨next, left'', hothers, hmatched⟩ := ih _ hgo
          exact ⟨next, left'', .more hmoved hways hothers, hmatched⟩
  failed := by
    intro here m left rest hrest h next e hways
    induction n generalizing here m left last with
    | zero =>
      obtain ⟨left', hfailed, -⟩ := Outcome.otherwise_eq_failed_iff.mp h
      cases hways with
      | stop => exact ⟨m.visit next, left', rfl, hfailed⟩
    | succ n ih =>
      obtain ⟨left', hfailed, h⟩ := Outcome.otherwise_eq_failed_iff.mp h
      cases hways with
      | stop => exact ⟨m.visit next, left', rfl, hfailed⟩
      | more moved first others =>
        dsimp only at h
        rw [if_neg moved] at h
        obtain ⟨_, hround⟩ := Outcome.exists_of_backTo_eq_failed h
        have hedges : ((s.undo m left').visit here).edges = m.edges := Setting.edges_undo hs m left'
        obtain ⟨m', _, rfl, hgo⟩ :=
          hbody.failed (Rest.isHonest_hidden _) hround _ _ (by rw [hedges]; exact first)
        exact ih _ hgo others

/-- A step from `least` to `bound` times explores the rounds of its ways. -/
theorem explores_repeated (hs : s ≠ .committed) {preference : Preference} (hpreference : preference ≠ .committed)
    (hbody : body.Explores ways) (least : Nat) (bound : Option Nat) :
    (repeated engine s preference least bound body).Explores
      (ways.before least fun here => Ways.Rounds ways (here.extraRounds least bound) none here) := by
  cases preference with
  | most =>
    have hsecond : Explores (fun here m rest => most body rest (here.extraRounds least bound) none here m)
        fun here => Ways.Rounds ways (here.extraRounds least bound) none here :=
      ⟨fun hrest h => (explores_most hbody _ _).matched hrest h,
        fun hrest h => (explores_most hbody _ _).failed hrest h⟩
    exact explores_required hbody hsecond least
  | fewest =>
    have hsecond : Explores (fun here m rest => fewest s body rest (here.extraRounds least bound) none here m)
        fun here => Ways.Rounds ways (here.extraRounds least bound) none here :=
      ⟨fun hrest h => (explores_fewest hs hbody _ _).matched hrest h,
        fun hrest h => (explores_fewest hs hbody _ _).failed hrest h⟩
    exact explores_required hbody hsecond least
  | committed => exact absurd rfl hpreference

end Step

/-! ## Nodes -/

/-- A start tells which code points a test passes, if it tells anything. -/
def Lead.Fits (lead : Lead) (test : CodePoint → Bool) : Prop :=
  lead = .unknown ∨ lead = .among test ∨ ∃ p, lead = .point p ∧ ∀ c, test c = (p == c)

namespace Node

variable {engine : Engine} {flags : List Flag} {node first second : Node} {s : Setting} {here : Cursor} {rest : Rest}

/-- Where case matters, it changes no code point. -/
theorem casing_of_notMem (hcase : .ignoreCase ∉ flags) : Casing.of flags = .exact := if_neg hcase

theorem fits_ofPoint (hcase : .ignoreCase ∉ flags) {test : CodePoint → Bool} {p : CodePoint}
    (htest : ∀ c, test c = (p == c)) : (Lead.ofPoint flags p).Fits test := by
  rw [Lead.ofPoint, casing_of_notMem hcase]
  exact .inr (.inr ⟨p, rfl, htest⟩)

theorem fits_ofSet (hcase : .ignoreCase ∉ flags) (negated : Bool) (items : List SetItem) :
    (Lead.ofSet flags negated items).Fits (inSet flags negated items) := by
  have hstays : items.any (SetItem.changesCase .exact) = false := by
    refine List.any_eq_false.mpr fun item _ => ?_
    cases item <;> exact Bool.false_ne_true
  rw [Lead.ofSet, casing_of_notMem hcase, hstays, if_neg Bool.false_ne_true]
  exact .inr (.inl rfl)

theorem samePoint_eq (hcase : .ignoreCase ∉ flags) (p c : CodePoint) : samePoint flags p c = (p == c) := by
  rw [samePoint, casing_of_notMem hcase]

theorem fits_lead_oneOf (hcase : .ignoreCase ∉ flags) (after : Lead) (negated : Bool) (items : List SetItem) :
    (lead flags after (.oneOf negated items)).Fits (inSet flags negated items) := by
  -- a single point is told from other sets
  match negated, items with
  | false, [.point p] => exact fits_ofPoint hcase fun c => by simp [inSet, samePoint_eq hcase]
  | true, [.point p] => exact .inl rfl
  | false, [] | true, [] | false, [.range ..] | true, [.range ..] | false, [.shorthand ..]
  | true, [.shorthand ..] => exact fits_ofSet hcase _ _
  | false, item :: _ :: _ | true, item :: _ :: _ => cases item <;> exact fits_ofSet hcase _ _

/-- No code point is taken where the start is refused. -/
theorem take_eq_failed {lead : Lead} {test : CodePoint → Bool} (hfits : lead.Fits test)
    (h : lead.refuses here.ahead = true) (m : Memory) : Step.take test here m rest = .failed m := by
  rw [Step.take]
  split
  · rfl
  · rename_i c ahead hahead
    rw [hahead] at h
    have hnot : test c = false := by
      rcases hfits with rfl | rfl | ⟨p, rfl, htest⟩
      · cases h
      · simpa [Lead.refuses] using h
      · rw [htest]
        simpa [Lead.refuses] using h
    rw [hnot, if_neg Bool.false_ne_true]

/-- **A node fails wherever its start is refused**, if what follows does. -/
theorem failed_of_refuses (hcase : .ignoreCase ∉ flags) (hplain : node.isPlain = true) (hrest : rest.IsHonest)
    (h : (node.lead flags rest.lead).refuses here.ahead = true) (m : Memory) :
    ∃ left, node.run engine flags s here m rest = .failed left := by
  induction node generalizing rest here m s with
  | empty => exact hrest here m h
  | point p => exact ⟨m, take_eq_failed (fits_ofPoint hcase (samePoint_eq hcase p)) h m⟩
  | oneOf negated items => exact ⟨m, take_eq_failed (fits_lead_oneOf hcase _ negated items) h m⟩
  | seq first second ihFirst ihSecond =>
    obtain ⟨hfirst, hsecond⟩ := Bool.and_eq_true_iff.mp hplain
    rw [run]
    exact ihFirst hfirst (fun there left hrefuses => ihSecond hsecond hrest hrefuses left) h m
  | under => cases hplain
  | _ => cases h

/-! ## What nodes explore -/

theorem explores_empty : Step.Explores (empty.run engine flags s) (empty.ways flags) where
  matched := fun _ hgo => ⟨_, _, ⟨rfl, rfl⟩, hgo⟩
  failed := by
    rintro here m left rest - hgo next e ⟨rfl, rfl⟩
    exact ⟨m, left, rfl, hgo⟩

theorem explores_anchor (a : Anchor) : Step.Explores ((anchor a).run engine flags s) ((anchor a).ways flags) where
  matched := by
    intro here m found rest _ hgo
    by_cases hat : here.isAt flags a = true
    · exact ⟨here, m, ⟨hat, rfl, rfl⟩, (if_pos hat).symm.trans hgo⟩
    · cases (if_neg hat).symm.trans hgo
  failed := by
    rintro here m left rest - hgo next e ⟨hat, rfl, rfl⟩
    exact ⟨m, left, rfl, (if_pos hat).symm.trans hgo⟩

theorem explores_reference (number : Nat) :
    Step.Explores ((reference number).run engine flags s) ((reference number).ways flags) where
  matched := by
    intro here m found rest _ hgo
    rw [run] at hgo
    dsimp only at hgo
    split at hgo
    · cases hgo
    · rename_i next hnext
      exact ⟨next, m, ⟨rfl, hnext⟩, hgo⟩
  failed := by
    rintro here m left rest - hgo next e ⟨rfl, hnext⟩
    rw [run] at hgo
    dsimp only at hgo
    rw [hnext] at hgo
    exact ⟨m, left, rfl, hgo⟩

theorem explores_seq (hcase : .ignoreCase ∉ flags) (hplain : second.isPlain = true)
    (hfirst : Step.Explores (first.run engine flags s) (first.ways flags))
    (hsecond : Step.Explores (second.run engine flags s) (second.ways flags)) :
    Step.Explores ((seq first second).run engine flags s) ((seq first second).ways flags) := by
  have honest {rest : Rest} (hrest : rest.IsHonest) : Rest.IsHonest
      ⟨second.lead flags rest.lead, fun next left => second.run engine flags s next left rest⟩ :=
    fun there left hrefuses => failed_of_refuses hcase hplain hrest hrefuses left
  constructor
  · intro here m found rest hrest hgo
    obtain ⟨mid, left, hways, hgo⟩ := hfirst.matched (honest hrest) hgo
    obtain ⟨next, left', hways', hgo⟩ := hsecond.matched hrest hgo
    exact ⟨next, left', ⟨mid, left.edges, hways, hways'⟩, hgo⟩
  · rintro here m left rest hrest hgo next e ⟨mid, between, hways, hways'⟩
    obtain ⟨m', left', rfl, hgo⟩ := hfirst.failed (honest hrest) hgo mid between hways
    exact hsecond.failed hrest hgo next e hways'

/-- An alternative that is passed over would have failed. -/
theorem failed_of_passedOver (hcase : .ignoreCase ∉ flags) (hplain : first.isPlain = true)
    {go : Cursor → Memory → Outcome} {before m left : Memory}
    (h : (if (first.lead flags .unknown).refuses here.ahead then Outcome.failed before
      else first.run engine flags s here m (.hidden go)) = .failed left) :
    ∃ left', first.run engine flags s here m (.hidden go) = .failed left' := by
  split at h
  · rename_i hrefuses
    exact failed_of_refuses hcase hplain (Rest.isHonest_hidden go) hrefuses m
  · exact ⟨left, h⟩

theorem explores_either (hcase : .ignoreCase ∉ flags) (hplain : first.isPlain = true) (hs : s ≠ .committed)
    (hfirst : Step.Explores (first.run engine flags s) (first.ways flags))
    (hothers : Step.Explores (second.run engine flags s) (second.ways flags)) :
    Step.Explores ((either first second).run engine flags s) ((either first second).ways flags) where
  matched := by
    intro here m found rest hrest hgo
    rw [run] at hgo
    rcases Outcome.otherwise_eq_matched_iff.mp hgo with hgo | ⟨left, -, hgo⟩
    · split at hgo
      · cases hgo
      · obtain ⟨next, left, hways, hgo⟩ := hfirst.matched (Rest.isHonest_hidden _) hgo
        exact ⟨next, left, .inl hways, hgo⟩
    · obtain ⟨next, left', hways, hgo⟩ := hothers.matched hrest hgo
      rw [Setting.edges_undo hs] at hways
      exact ⟨next, left', .inr hways, hgo⟩
  failed := by
    intro here m left rest hrest hgo next e hways
    rw [run] at hgo
    obtain ⟨left', hgoFirst, hgoOthers⟩ := Outcome.otherwise_eq_failed_iff.mp hgo
    rcases hways with hways | hways
    · obtain ⟨left'', hfailed⟩ := failed_of_passedOver hcase hplain hgoFirst
      exact hfirst.failed (Rest.isHonest_hidden _) hfailed next e hways
    · refine hothers.failed hrest hgoOthers next e ?_
      rwa [Setting.edges_undo hs]

theorem explores_group (number : Nat) (hbody : Step.Explores (first.run engine flags s) (first.ways flags)) :
    Step.Explores ((group number first).run engine flags s) ((group number first).ways flags) where
  matched := by
    intro here m found rest _ hgo
    obtain ⟨next, left, hways, hgo⟩ := hbody.matched (Rest.isHonest_hidden _) hgo
    exact ⟨next, left.closeGroup number next, ⟨left.edges, hways, rfl⟩, hgo⟩
  failed := by
    rintro here m left rest - hgo next e ⟨inside, hways, rfl⟩
    obtain ⟨m', left', rfl, hgo⟩ := hbody.failed (Rest.isHonest_hidden _) hgo next inside hways
    exact ⟨m'.closeGroup number next, left', rfl, hgo⟩

theorem explores_times (hs : s ≠ .committed) {preference : Preference} (hpreference : preference ≠ .committed)
    (least : Nat) (bound : Option Nat)
    (hbody : Step.Explores (first.run engine flags (s.within preference)) (first.ways flags)) :
    Step.Explores ((times preference least bound first).run engine flags s)
      ((times preference least bound first).ways flags) := by
  rw [run, ways]
  cases first.test? flags with
  | some test => exact Step.explores_single hs hpreference least bound
  | none => exact Step.explores_repeated hs hpreference hbody least bound

/-- **A node explores its ways.** -/
theorem explores (hcase : .ignoreCase ∉ flags) (h : node.isPlain = true) (hs : s ≠ .committed) :
    Step.Explores (node.run engine flags s) (node.ways flags) := by
  induction node generalizing s with
  | empty => exact explores_empty
  | nothing => exact ⟨nofun, nofun⟩
  | point p => exact Step.explores_take _
  | any => exact Step.explores_take _
  | oneOf negated items => exact Step.explores_take _
  | anchor a => exact explores_anchor a
  | reference number => exact explores_reference number
  | seq first second ihFirst ihSecond =>
    obtain ⟨hfirst, hsecond⟩ := Bool.and_eq_true_iff.mp h
    exact explores_seq hcase hsecond (ihFirst hfirst hs) (ihSecond hsecond hs)
  | either first others ihFirst ihOthers =>
    obtain ⟨hfirst, hothers⟩ := Bool.and_eq_true_iff.mp h
    exact explores_either hcase hfirst hs (ihFirst hfirst hs) (ihOthers hothers hs)
  | group number body ih => exact explores_group number (ih h hs)
  | times preference least bound body ih =>
    obtain ⟨hpreference, hbody⟩ := Bool.and_eq_true_iff.mp h
    have hne : preference ≠ .committed := bne_iff_ne.mp hpreference
    exact explores_times hs hne least bound (ih hbody (Setting.within_ne_committed _ hne s))
  | ahead => cases h
  | behind => cases h
  | choice => cases h
  | final => cases h
  | under => cases h

end Node

/-! ## Languages -/

namespace Ways

/-- Over the texts of a language. -/
def along (language : Text → Prop) : Ways := fun here e next e' =>
  (∃ w, language w ∧ here.Passes w next) ∧ e' = e

variable {first second : Text → Prop}

theorem andThen_along : (along first).andThen (along second) =
    along fun w => ∃ u v, first u ∧ second v ∧ w = u ++ v := by
  funext here e next e'
  refine propext ⟨?_, ?_⟩
  · rintro ⟨mid, _, ⟨⟨u, hu, hmid⟩, rfl⟩, ⟨v, hv, hnext⟩, rfl⟩
    exact ⟨⟨u ++ v, ⟨u, v, hu, hv, rfl⟩, Cursor.passes_append_iff.mpr ⟨mid, hmid, hnext⟩⟩, rfl⟩
  · rintro ⟨⟨w, ⟨u, v, hu, hv, rfl⟩, hw⟩, rfl⟩
    obtain ⟨mid, hmid, hnext⟩ := Cursor.passes_append_iff.mp hw
    exact ⟨mid, _, ⟨⟨u, hu, hmid⟩, rfl⟩, ⟨v, hv, hnext⟩, rfl⟩

/-- At most one round is none or one. -/
theorem rounds_one_iff {round : Ways} {here next : Cursor} {e e' : Edges} :
    Rounds round 1 none here e next e' ↔ stay here e next e' ∨ round here e next e' := by
  constructor
  · intro h
    cases h with
    | stop => exact .inl ⟨rfl, rfl⟩
    | more _ first others =>
      cases others
      exact .inr first
  · rintro (⟨rfl, rfl⟩ | h)
    · exact .stop ..
    · exact .more nofun h (.stop ..)

/-- No more is taken than there is. -/
theorem taking_furthest (test : CodePoint → Bool) (least : Nat) (bound : Option Nat) :
    taking test least (·.furthest bound) =
      along fun w => least ≤ w.length ∧ (∀ n, bound = some n → w.length ≤ n) ∧ ∀ c ∈ w, test c = true := by
  funext here e next e'
  refine propext (and_congr_left fun _ => ⟨?_, ?_⟩)
  · rintro ⟨w, hw, hleast, hlimit, hall⟩
    refine ⟨w, ⟨hleast, ?_, hall⟩, hw⟩
    rintro n rfl
    exact Nat.le_trans hlimit (Nat.min_le_right ..)
  · rintro ⟨w, ⟨hleast, hbound, hall⟩, hw⟩
    have hlength : w.length ≤ here.ahead.length := by
      rw [hw.ahead_eq, List.length_append]
      exact Nat.le_add_right ..
    refine ⟨w, hw, hleast, ?_, hall⟩
    cases bound with
    | none => exact hlength
    | some n => exact Nat.le_min.mpr ⟨hlength, hbound n rfl⟩

end Ways

namespace Node

variable {flags : List Flag}

/-- Where case matters, a code point takes itself. -/
theorem ways_point (hcase : .ignoreCase ∉ flags) (c : CodePoint) : (point c).ways flags = .along (· = [c]) := by
  funext here e next e'
  refine propext (and_congr_left fun _ => ⟨?_, ?_⟩)
  · rintro ⟨w, hw, hleast, hlimit, hall⟩
    obtain ⟨d, rfl⟩ := List.length_eq_one_iff.mp (Nat.le_antisymm hlimit hleast)
    have hd : (c == d) = true := samePoint_eq hcase c d ▸ hall d (List.mem_cons_self ..)
    exact ⟨[d], by rw [eq_of_beq hd], hw⟩
  · rintro ⟨w, rfl, hw⟩
    refine ⟨[c], hw, Nat.le_refl _, Nat.le_refl _, List.forall_mem_singleton.mpr ?_⟩
    rw [samePoint_eq hcase]
    exact beq_self_eq_true c

/-- What may be there once is there or not. -/
theorem ways_optional {body : Node} (htest : body.test? flags = none) (preference : Preference)
    {here next : Cursor} {e e' : Edges} : (times preference 0 (some 1) body).ways flags here e next e' ↔
      Ways.stay here e next e' ∨ body.ways flags here e next e' := by
  have hextra : here.extraRounds 0 (some 1) = 1 := by simp [Cursor.extraRounds]
  rw [ways, htest, ← Ways.rounds_one_iff, ← hextra]
  exact Iff.rfl

end Node

/-! ## Searching -/

namespace Cursor

/-- The place before a whole text. -/
def start (t : Text) : Cursor := ⟨0, [], t⟩

end Cursor

namespace Pattern

variable {engine : Engine} {p : Pattern} {here : Cursor} {t : Text} {found : Match} {m left : Memory}

/-- A pattern with a plain tree, for which case matters. -/
structure IsPlain (p : Pattern) : Prop where
  /-- case matters -/
  case : .ignoreCase ∉ p.flags
  /-- the tree is plain -/
  tree : p.tree.isPlain = true

/-- A pattern matches from one place to another and keeps the edges of its groups. -/
def Matches (p : Pattern) (here next : Cursor) (edges : Edges) : Prop := p.tree.ways p.flags here [] next edges

theorem explores_tree (hp : p.IsPlain) :
    Step.Explores (p.tree.run engine p.flags .single) (p.tree.ways p.flags) := Node.explores hp.case hp.tree nofun

/-- A place from which a pattern matches is found, and the edges are those of a match. -/
theorem matches_of_matchAt (hp : p.IsPlain) (h : p.matchAt engine here = .matched m) :
    ∃ next, p.Matches here next m.edges := by
  rw [matchAt] at h
  obtain ⟨next, left, hways, hdone⟩ := (explores_tree hp).matched Rest.isHonest_done h
  obtain rfl := Outcome.matched.inj hdone
  exact ⟨next, hways⟩

/-- A place is given up only if the pattern does not match from there. -/
theorem not_matches_of_matchAt (hp : p.IsPlain) (h : p.matchAt engine here = .failed left) (next : Cursor)
    (edges : Edges) : ¬ p.Matches here next edges := by
  intro hways
  rw [matchAt] at h
  obtain ⟨m', left', -, hdone⟩ := (explores_tree hp).failed Rest.isHonest_done h next edges hways
  cases hdone

/-- A match that a search finds, with the text before it: no match begins further to the left. -/
structure IsLeftmost (p : Pattern) (start : Cursor) (found : Match) : Prop where
  /-- it has the groups of the pattern -/
  groups : found.groups = p.groups
  /-- it is a match, and none is before it -/
  exists_first : ∃ before here next, start.Passes before here ∧ p.Matches here next found.edges ∧
    ∀ shorter there, start.Passes shorter there → shorter.length < before.length →
      ∀ next edges, ¬ p.Matches there next edges

theorem isLeftmost_of_searchFrom (hp : p.IsPlain) {position : Nat} {behind : Text}
    (h : p.searchFrom engine position behind t = some found) : p.IsLeftmost ⟨position, behind, t⟩ found := by
  induction t generalizing position behind with
  | nil =>
    rw [searchFrom] at h
    split at h
    · rename_i m hm
      obtain rfl := Option.some.inj h
      obtain ⟨next, hmatches⟩ := matches_of_matchAt hp hm
      exact ⟨rfl, [], _, next, .nil _, hmatches, nofun⟩
    · cases h
  | cons c rest ih =>
    rw [searchFrom] at h
    split at h
    · rename_i m hm
      obtain rfl := Option.some.inj h
      obtain ⟨next, hmatches⟩ := matches_of_matchAt hp hm
      exact ⟨rfl, [], _, next, .nil _, hmatches, nofun⟩
    · rename_i left hleft
      obtain ⟨hgroups, before, here, next, hbefore, hmatches, hfirst⟩ := ih h
      refine ⟨hgroups, c :: before, here, next, .cons rfl hbefore, hmatches, fun shorter there hshorter hlt => ?_⟩
      -- no match begins here, and what comes later is told by the rest of the search
      cases shorter with
      | nil =>
        cases hshorter
        exact not_matches_of_matchAt hp hleft
      | cons d shorter =>
        have hd := hshorter.ahead_eq
        obtain ⟨rfl, -⟩ := List.cons.inj hd
        exact hfirst shorter there ((Cursor.passes_cons_iff rfl).mp hshorter) (Nat.lt_of_succ_lt_succ hlt)

/-- **A search finds the leftmost match.** -/
theorem isLeftmost_of_search (hp : p.IsPlain) (h : p.search engine t = some found) : p.IsLeftmost (.start t) found :=
  isLeftmost_of_searchFrom hp h

theorem not_matches_of_searchFrom (hp : p.IsPlain) {position : Nat} {behind : Text}
    (h : p.searchFrom engine position behind t = none) {before : Text}
    (hbefore : Cursor.Passes ⟨position, behind, t⟩ before here) (next : Cursor) (edges : Edges) :
    ¬ p.Matches here next edges := by
  induction t generalizing position behind before with
  | nil =>
    rw [searchFrom] at h
    split at h
    · cases h
    · rename_i left hleft
      cases hbefore with
      | nil => exact not_matches_of_matchAt hp hleft next edges
      | cons ahead => cases ahead
  | cons c rest ih =>
    rw [searchFrom] at h
    split at h
    · cases h
    · rename_i left hleft
      cases hbefore with
      | nil => exact not_matches_of_matchAt hp hleft next edges
      | cons ahead further =>
        obtain ⟨rfl, rfl⟩ := List.cons.inj ahead
        exact ih h further

/-- **A search finds nothing exactly if the pattern matches nowhere.** -/
theorem search_eq_none_iff (hp : p.IsPlain) : p.search engine t = none ↔
    ∀ before here, (Cursor.start t).Passes before here → ∀ next edges, ¬ p.Matches here next edges := by
  refine ⟨fun h before here hbefore => not_matches_of_searchFrom hp h hbefore, fun h => ?_⟩
  cases hsearch : p.search engine t with
  | none => rfl
  | some found =>
    obtain ⟨-, before, here, next, hbefore, hmatches, -⟩ := isLeftmost_of_search hp hsearch
    exact absurd hmatches (h before here hbefore next _)

end Pattern

end SemverDispatch
