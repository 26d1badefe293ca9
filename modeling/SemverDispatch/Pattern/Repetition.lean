import SemverDispatch.Pattern.Attempt

/-!
# Repetition

Steps that are made several times. What takes single code points is repeated by `Step.single`, which looks at
the subject once and then tries the places that it reached. Anything else is repeated round by round by
`Step.repeated`: the rounds that have to be made come first, then more rounds and what follows are tried in
the order of preference. A round that takes nothing is the last one.

A committed repetition is over with the first round that fails. What follows goes on where that round began; an
early engine goes on from the latest place where the round made a choice.
-/

namespace SemverDispatch

/-- Editions of the matcher. -/
inductive Engine where
  /-- a round that fails is taken back -/
  | exact
  /-- a round that fails in a committed repetition leaves the latest place where it made a choice -/
  | early
  deriving DecidableEq, Repr

/-- The memory behind a committed repetition whose next round started from `before` and failed with `left`. The
groups are as they were before. -/
def Engine.resume (before left : Memory) : Engine → Memory
  | exact => before
  | early => ⟨left.latest, before.edges⟩

namespace Step

/-- Takes the next code point if it passes a test. -/
def take (test : CodePoint → Bool) : Step := fun here m rest =>
  match here.ahead with
  | [] => .failed m
  | c :: ahead => if test c then rest.go (here.advance c ahead) m else .failed m

/-! ## Single code points -/

/-- Goes on from the first of several places from which this succeeds. Those where what follows cannot start
are skipped. -/
def tryEach (s : Setting) (rest : Rest) : List Cursor → Memory → Outcome
  | [], m => .failed m
  | place :: others, m =>
    if rest.lead.refusesPoint place.ahead then tryEach s rest others m
    else (rest.go place (m.visit place)).otherwise fun left =>
      tryEach s rest others (s.undo m left)

/-- Goes on from the first of several places from which this succeeds. A place that fails is gone back to
before the next one. -/
def tryEachBack (s : Setting) (rest : Rest) : List Cursor → Memory → Outcome
  | [], m => .failed m
  | place :: others, m => (rest.go place (m.visit place)).otherwise fun left =>
    tryEachBack s rest others ((s.undo m left).visit place)

/-- Takes from `least` to `bound` code points that pass a test. The most preferred of the places reached are
tried first. -/
def single (s : Setting) (preference : Preference) (least : Nat) (bound : Option Nat)
    (test : CodePoint → Bool) : Step := fun here m rest =>
  let size := here.ahead.length
  if size < least then .failed m
  else
    let places := (here.reach test (bound.elim size (min size))).drop least
    let start := m.visit here
    match preference with
    | .most => tryEach s rest places.reverse start
    | .fewest => tryEachBack s rest places start
    | .committed =>
      match places.getLast? with
      | some place => rest.go place start
      | none => .failed start

/-! ## Rounds -/

/-- The rounds that have to be made, and then what follows. -/
def required (body : Step) : Nat → (Cursor → Memory → Outcome) → Cursor → Memory → Outcome
  | 0, go, here, m => go here m
  | n + 1, go, here, m =>
    (body here (m.visit here) (.hidden (required body n go))).backTo here

/-- Up to a number of rounds and then what follows, the most rounds first. The last round started at
`last`. -/
def most (body : Step) (rest : Rest) : Nat → (last : Option Nat) → Cursor → Memory → Outcome
  | 0, _, here, m => (rest.go here (m.visit here)).backTo here
  | n + 1, last, here, m =>
    let leave : Outcome := (rest.go here (m.visit here)).backTo here
    if last = some here.position then leave
    else
      match body here (m.visit here) (.hidden (most body rest n (some here.position))) with
      | .matched done => .matched done
      | .failed _ => leave

/-- Up to a number of rounds and then what follows, the fewest rounds first. The last round started at
`last`. -/
def fewest (s : Setting) (body : Step) (rest : Rest) :
    Nat → (last : Option Nat) → Cursor → Memory → Outcome
  | 0, _, here, m => (rest.go here (m.visit here)).otherwise fun left =>
    .failed ((s.undo m left).visit here)
  | n + 1, last, here, m => (rest.go here (m.visit here)).otherwise fun left =>
    let back := (s.undo m left).visit here
    if last = some here.position then .failed back
    else (body here back (.hidden (fewest s body rest n (some here.position)))).backTo here

/-- The rounds that have to be made, each of them final. -/
def forced (body : Step) : Nat → Memory → Outcome
  | 0, m => .matched m
  | n + 1, m =>
    match body m.latest m .done with
    | .matched next => forced body n next
    | .failed left => .failed left

/-- Up to a number of final rounds, as many as succeed. The last round started at `last`. The memory's latest
place is where the repetition ends. -/
def exhaust (engine : Engine) (body : Step) : Nat → (last : Option Nat) → Memory → Memory
  | 0, _, m => m
  | n + 1, last, m =>
    if last = some m.latest.position then m
    else
      match body m.latest m .done with
      | .matched next => exhaust engine body n (some m.latest.position) next
      | .failed left => engine.resume m left

/-- A step from `least` to `bound` times. The subject ahead bounds the number of rounds that take something,
and one more may take nothing. -/
def repeated (engine : Engine) (s : Setting) (preference : Preference) (least : Nat) (bound : Option Nat)
    (body : Step) : Step := fun here m rest =>
  let extra (place : Cursor) : Nat :=
    let rounds := place.ahead.length + 1
    bound.elim rounds fun b => min (b - least) rounds
  match preference with
  | .most => required body least (fun next => most body rest (extra next) none next) here m
  | .fewest => required body least (fun next => fewest s body rest (extra next) none next) here m
  | .committed =>
    match forced body least (m.visit here) with
    | .matched next =>
      let last := exhaust engine body (extra next.latest) none next
      rest.go last.latest last
    | .failed left => .failed (left.visit here)

end Step

end SemverDispatch
