import SemverDispatch.Pattern.Repetition

/-!
# Searching

`Pattern.search` finds the leftmost place of a subject where a pattern matches, and the texts that its
groups keep there. A node tries its ways to match in order of preference and hands each one to what follows
it in the pattern, so the first way for which all of the pattern matches wins.
-/

namespace SemverDispatch

/-! ## Matching -/

/-- Matches a tree at a place, and goes on with what follows it. Alternatives that cannot start at the place
are passed over. -/
def Node.run (engine : Engine) : List Flag → Setting → Node → Step
  | _, _, .empty => fun here m rest => rest.go here m
  | _, _, .nothing => fun _ m _ => .failed m
  | flags, _, .point p => Step.take (samePoint flags p)
  | flags, _, .any => Step.take (dotTakes flags)
  | flags, _, .oneOf negated items => Step.take (inSet flags negated items)
  | flags, _, .anchor a => fun here m rest => if here.isAt flags a then rest.go here m else .failed m
  | flags, s, .seq first second => fun here m rest =>
    first.run engine flags s here m ⟨second.lead flags rest.lead, fun next left =>
      second.run engine flags s next left rest⟩
  | flags, s, .either first others => fun here m rest =>
    let outcome :=
      if (first.lead flags .unknown).refuses here.ahead then .failed m
      else first.run engine flags s here (m.visit here) (.hidden rest.go)
    outcome.otherwise fun left => others.run engine flags s here (s.undo m left) rest
  | flags, s, .group number body => fun here m rest =>
    body.run engine flags s here (m.openGroup number here) (.hidden fun next left =>
      rest.go next (left.closeGroup number next))
  | flags, _, .reference number => fun here m rest =>
    match (m.edges.text? number).bind (here.advanceOver (sameKept flags) ·) with
    | none => .failed m
    | some next => rest.go next m
  | flags, s, .times preference least bound body =>
    match body.test? flags with
    | some test => Step.single s preference least bound test
    | none =>
      Step.repeated engine s preference least bound (body.run engine flags (s.within preference))
  | flags, s, .ahead negated body => fun here m rest =>
    match body.run engine flags s here (m.visit here) .done, negated with
    | .matched left, false => rest.go here left
    | .matched left, true => .failed left
    | .failed left, false => .failed left
    | .failed left, true => rest.go here (s.undo m left)
  | flags, s, .behind negated width body => fun here m rest =>
    match here.back? width.least with
    | none => if negated then rest.go here m else .failed m
    | some before =>
      match body.run engine flags s before (m.visit before) .done, negated with
      | .matched left, false => rest.go here left
      | .matched left, true => .failed left
      | .failed left, false => .failed left
      | .failed left, true => rest.go here (s.undo m left)
  | flags, s, .choice number yes no => fun here m rest =>
    if (m.edges.text? number).isSome then yes.run engine flags s here m (.hidden rest.go)
    else no.run engine flags s here m rest
  | flags, s, .final body => fun here m rest =>
    match body.run engine flags s here (m.visit here) .done with
    | .matched left => rest.go left.latest left
    | .failed left => .failed (left.visit here)
  | flags, s, .under added removed body => body.run engine (Flag.within added removed flags) s

/-! ## Searching -/

/-- Where a pattern matched. -/
structure Match where
  /-- the number of groups of the pattern -/
  groups : Nat
  /-- the edges of those that took part -/
  edges : Edges

namespace Match

/-- The text of a group, if the group took part; nothing at all if the pattern has no such group. -/
def group? (m : Match) (number : Nat) : Option (Option Text) :=
  if number ≤ m.groups then some (m.edges.text? number) else none

/-- Does a group end before it begins? -/
def isCrossed (m : Match) : Bool :=
  (List.range m.groups).any fun i => m.edges.isCrossed (i + 1)

end Match

namespace Pattern

/-- What matching at a place gives. -/
def matchAt (engine : Engine) (p : Pattern) (here : Cursor) : Outcome :=
  p.tree.run engine p.flags .single here (.fresh here) .done

/-- The first match from a place on, where `ahead` is the subject behind it. -/
def searchFrom (engine : Engine) (p : Pattern) (position : Nat) (behind ahead : Text) : Option Match :=
  match p.matchAt engine ⟨position, behind, ahead⟩ with
  | .matched m => some ⟨p.groups, m.edges⟩
  | .failed _ =>
    match ahead with
    | [] => none
    | c :: rest => p.searchFrom engine (position + 1) (c :: behind) rest

/-- The leftmost match in a subject. -/
def search (engine : Engine) (p : Pattern) (subject : Text) : Option Match := p.searchFrom engine 0 [] subject

end Pattern

end SemverDispatch
