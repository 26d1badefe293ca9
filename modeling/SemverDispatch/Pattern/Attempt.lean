import SemverDispatch.Pattern.Membership

/-!
# Attempts to match

What is known while a pattern is tried at a place of a subject: the `Cursor` says where, the `Memory` what has
been found out on the way. Groups are remembered by their edges, a group's text lying between the latest place
where it began and the latest one where it ended.

An attempt that fails leaves its memory behind, as the next one may have a use for it.
-/

namespace SemverDispatch

/-! ## Places -/

/-- A place in a subject. -/
structure Cursor where
  /-- how many code points are behind -/
  position : Nat
  /-- the subject up to here, the nearest one first -/
  behind : Text
  /-- the subject from here on -/
  ahead : Text

namespace Cursor

/-- The place behind the next code point. -/
def advance (here : Cursor) (c : CodePoint) (rest : Text) : Cursor :=
  ⟨here.position + 1, c :: here.behind, rest⟩

/-- The place a number of code points before this one. -/
def back? : Nat → Cursor → Option Cursor
  | 0, here => some here
  | n + 1, here =>
    match here.behind with
    | [] => none
    | c :: behind => back? n ⟨here.position - 1, behind, c :: here.ahead⟩

/-- The place after a given piece, if the subject goes on with it. -/
def advanceOver (same : CodePoint → CodePoint → Bool) : Text → Cursor → Option Cursor
  | [], here => some here
  | p :: piece, here =>
    match here.ahead with
    | [] => none
    | c :: rest => if same p c then advanceOver same piece (here.advance c rest) else none

/-- The text from here to a place that is not before. -/
def textTo (here there : Cursor) : Text := here.ahead.take (there.position - here.position)

/-- The places behind none, one, two and so on of the code points from here on, as long as they pass a test. At
most `limit` are taken. -/
def reach (test : CodePoint → Bool) : (limit : Nat) → Cursor → List Cursor
  | 0, here => [here]
  | limit + 1, here =>
    match here.ahead with
    | [] => [here]
    | c :: rest => if test c then here :: reach test limit (here.advance c rest) else [here]

/-- Does a word begin or end here? -/
def onWordEdge (flags : List Flag) (here : Cursor) : Bool :=
  let before := here.behind.head?.any (Shorthand.word.admits flags)
  let after := here.ahead.head?.any (Shorthand.word.admits flags)
  before != after

/-- Is there a line break just behind? -/
def isAfterBreak (here : Cursor) : Bool := here.behind.head? == some (.char '\n')

/-- Is there a line break ahead? -/
def isBeforeBreak (here : Cursor) : Bool := here.ahead.head? == some (.char '\n')

/-- Is the place of the given kind? -/
def isAt (flags : List Flag) (here : Cursor) : Anchor → Bool
  | .start => here.behind == []
  | .lineStart => here.behind == [] || (.byLine ∈ flags && here.isAfterBreak)
  | .lineEnd => here.ahead == [] || here.ahead == [.char '\n'] || (.byLine ∈ flags && here.isBeforeBreak)
  | .finish => here.ahead == []
  | .wordEdge => here.onWordEdge flags
  | .notWordEdge => !(here.behind == [] && here.ahead == []) && !here.onWordEdge flags

end Cursor

/-! ## Groups -/

/-- Where groups begin and end: for group `n` at the indices `2 * n - 2` and `2 * n - 1`. An edge that has not
been passed is missing. -/
abbrev Edges := List (Option Cursor)

namespace Edges

/-- Sets the edge at an index; edges before it that have not been passed stay missing. -/
def mark (edges : Edges) (i : Nat) (here : Cursor) : Edges :=
  if i < edges.length then edges.set i (some here)
  else edges ++ List.replicate (i - edges.length) none ++ [some here]

/-- Where a group begins and ends, if it does. -/
def span? (edges : Edges) (number : Nat) : Option (Cursor × Cursor) := do
  let first ← edges[2 * number - 2]?.join
  let last ← edges[2 * number - 1]?.join
  return (first, last)

/-- The text that a group keeps, if it has one. -/
def text? (edges : Edges) (number : Nat) : Option Text := do
  let (first, last) ← edges.span? number
  if first.position ≤ last.position then some (first.textTo last) else none

/-- Does a group end before it begins? It has been entered again then, and not been left again. -/
def isCrossed (edges : Edges) (number : Nat) : Bool :=
  (edges.span? number).any fun (first, last) => last.position < first.position

end Edges

/-! ## Memory -/

/-- What has been found out on the way. -/
structure Memory where
  /-- the latest place where a choice was made -/
  latest : Cursor
  /-- the edges of groups -/
  edges : Edges

namespace Memory

/-- The memory at the start of a search. -/
def fresh (here : Cursor) : Memory := ⟨here, []⟩

/-- A choice is made at a place. -/
def visit (m : Memory) (here : Cursor) : Memory := { m with latest := here }

/-- A group begins. -/
def openGroup (m : Memory) (number : Nat) (here : Cursor) : Memory :=
  { m with edges := m.edges.mark (2 * number - 2) here }

/-- A group ends. -/
def closeGroup (m : Memory) (number : Nat) (here : Cursor) : Memory :=
  { m with edges := m.edges.mark (2 * number - 1) here }

end Memory

/-- How an attempt ends. -/
inductive Outcome where
  /-- the pattern matches up to the latest place -/
  | matched (m : Memory)
  /-- it does not match -/
  | failed (m : Memory)

namespace Outcome

/-- The outcome of a second attempt if the first one fails, which leaves a memory to it. -/
@[inline] def otherwise (o : Outcome) (second : Memory → Outcome) : Outcome :=
  match o with
  | matched m => matched m
  | failed m => second m

/-- A failure goes back to a place. -/
@[inline] def backTo (o : Outcome) (here : Cursor) : Outcome :=
  o.otherwise fun left => failed (left.visit here)

end Outcome

/-! ## What follows -/

/-- What follows a node in its pattern. -/
structure Rest where
  /-- what it starts with -/
  lead : Lead
  /-- tries it at a place -/
  go : Cursor → Memory → Outcome

namespace Rest

/-- Nothing follows. -/
def done : Rest := ⟨.unknown, fun here m => .matched (m.visit here)⟩

/-- What follows starts with something that is not told. -/
def hidden (go : Cursor → Memory → Outcome) : Rest := ⟨.unknown, go⟩

end Rest

/-- A way to go on from a place, given what follows. -/
abbrev Step := Cursor → Memory → Rest → Outcome

/-- The repetitions around a node, as far as they matter to what a failed attempt leaves behind. -/
inductive Setting where
  /-- there are none -/
  | single
  /-- there is one that is tried with several numbers -/
  | repeated
  /-- there are committed ones only -/
  | committed
  deriving DecidableEq, Repr

namespace Setting

/-- The repetitions around what is repeated. -/
def within (s : Setting) (preference : Preference) : Setting :=
  match preference, s with
  | .committed, .single => committed
  | .committed, s => s
  | _, _ => repeated

/-- The memory for the next attempt after one that started from `before` and left `left` behind: the edges are
as they were before. In committed repetitions only new edges are taken back, and those that had been passed
before stay where they were moved to. -/
def undo (s : Setting) (before left : Memory) : Memory :=
  match s with
  | committed => ⟨left.latest, left.edges.take before.edges.length⟩
  | _ => ⟨left.latest, before.edges⟩

end Setting

end SemverDispatch
