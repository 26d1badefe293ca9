import SemverDispatch.Pattern.Lexeme

/-!
# Reading patterns

`Pattern.compile` reads a pattern from text. Lexemes are taken in order; open parentheses wait on a
stack, the innermost first, each with the alternatives and items found in it so far. What a
quantifier cannot repeat (nothing, a place, a repetition) is an error where the quantifier starts.

Some things are wrong with a pattern only as a whole: flags that exclude each other, a condition on a group that
there is not, a look behind that takes no fixed number of code points. They are looked for in this order, when all
of the text has been read.
-/

namespace SemverDispatch

/-! ## Alternatives -/

namespace Alternatives

/-- Are two nodes the same one that needs no subtree? -/
def sameLeaf : Node → Node → Bool
  | .point c, .point d => c == d
  | .any, .any => true
  | .oneOf negated items, .oneOf negated' items' => negated == negated' && items == items'
  | .anchor a, .anchor b => a == b
  | .reference m, .reference n => m == n
  | _, _ => false

/-- What several rows leave behind a first node that all of them have. -/
def tails? (first : Node) (rows : List (List Node)) : Option (List (List Node)) :=
  rows.mapM fun
    | [] => none
    | n :: rest => if sameLeaf first n then some rest else none

/-- The nodes that a row and several others start with, and what is left of the row and of them. -/
def splitShared : List Node → List (List Node) → List Node × List Node × List (List Node)
  | [], others => ([], [], others)
  | n :: rest, others =>
    match tails? n others with
    | none => ([], n :: rest, others)
    | some after =>
      let (shared, row, left) := splitShared rest after
      (n :: shared, row, left)

/-- The members of a set of code points that a row stands for. -/
def members? : List Node → Option (List SetItem)
  | [.point c] => some [.point c]
  | [.oneOf false items] => some items
  | _ => none

/-- One of several rows. Rows of one code point each make a set. -/
def oneOfRows (rows : List (List Node)) : Node :=
  match rows.mapM members? with
  | some sets => .oneOf false sets.flatten.eraseDups
  | none => eitherOf (rows.map .sequence)
where
  /-- One of several nodes. -/
  eitherOf : List Node → Node
    | [] => .nothing
    | n :: rest => .either n (eitherOf rest)

/-- One of several rows of nodes, as one row. What all of them start with comes before the choice. -/
def join : List (List Node) → List Node
  | [] => []
  | [row] => row
  | row :: others =>
    let (shared, rest, left) := splitShared row others
    shared ++ [oneOfRows (rest :: left)]

end Alternatives

/-! ## Widths -/

namespace Width

/-- The width of one pattern after another. -/
def add (v w : Width) : Width := ⟨v.least + w.least, v.greatest + w.greatest⟩

/-- The width of one pattern or another. -/
def either (v w : Width) : Width := ⟨min v.least w.least, max v.greatest w.greatest⟩

/-- No pattern is known to take more. -/
def unbounded : Nat := 1 <<< 64

/-- The width of a number of repetitions. -/
def times (w : Width) (least : Nat) : (bound : Option Nat) → Width
  | none => ⟨w.least * least, if w.greatest = 0 then 0 else unbounded⟩
  | some bound => ⟨w.least * least, w.greatest * bound⟩

/-- The width, as far as numbers are counted. -/
def capped (w : Width) : Width := ⟨min w.least unbounded, min w.greatest unbounded⟩

/-- The greatest number of code points that a look behind goes back. -/
def backLimit : Nat := 4294967295

/-- What is wrong with a width of what is looked for behind a place. -/
def fault? (w : Width) : Option PatternError :=
  if backLimit < w.least then some (.unplaced "looks too much behind")
  else if w.least ≠ w.greatest then some (.unplaced "look-behind requires fixed-width pattern")
  else none

end Width

namespace Node

/-- How many code points a tree takes, where groups outside it take what `widths` says. -/
def width (widths : List (Nat × Width)) : Node → Width
  | .empty | .nothing | .anchor _ | .ahead .. | .behind .. => ⟨0, 0⟩
  | .point _ | .any | .oneOf .. => ⟨1, 1⟩
  | .seq first second => (first.width widths).add (second.width widths)
  | .either first .nothing => first.width widths
  | .either first others => (first.width widths).either (others.width widths)
  | .reference number => (widths.lookup number).getD ⟨0, 0⟩
  | .times _ least bound body => (body.width widths).times least bound
  | .choice _ yes no => (yes.width widths).either (no.width widths)
  | .group _ body | .final body | .under _ _ body => body.width widths

/-- The name of a repetition that is not allowed. -/
def repetitionName : Preference → Text
  | .most => "MAX_REPEAT"
  | .fewest => "MIN_REPEAT"
  | .committed => "POSSESSIVE_REPEAT"

/-- The first thing that is wrong with a tree as a whole, repetitions among them if it is a template. -/
def fault? (template : Bool) : Node → Option PatternError
  | .empty | .nothing | .point _ | .any | .oneOf .. | .anchor _ | .reference _ => none
  | .seq first second | .either first second | .choice _ first second =>
    (first.fault? template).or (second.fault? template)
  | .group _ body | .ahead _ body | .final body | .under _ _ body => body.fault? template
  | .behind _ width body => width.fault?.or (body.fault? template)
  | .times preference _ _ body =>
    if template then
      some (.unplaced ("internal: unsupported template operator " ++ repetitionName preference))
    else body.fault? template

end Node

/-- The flags that a pattern of text is run under: some of them exclude text, or each other. -/
def Flag.settle (flags : List Flag) : Except PatternError (List Flag) :=
  if locale ∈ flags then .error (.badFlags "cannot use LOCALE flag with a str pattern")
  else if ascii ∉ flags then .ok (inOrder (unicode :: flags))
  else if unicode ∈ flags then .error (.badFlags "ASCII and UNICODE flags are incompatible")
  else .ok (inOrder flags)

/-! ## Levels -/

/-- What kind of thing an item is to a quantifier. -/
inductive ItemKind where
  /-- it can be repeated -/
  | repeatable
  /-- it is a place between code points -/
  | place
  /-- it is a repetition -/
  | repetition
  deriving DecidableEq

/-- What an open parenthesis becomes when it closes. -/
inductive Closing where
  /-- a group kept under a number -/
  | keep (number : Nat)
  /-- its body -/
  | plain
  /-- a look at what is ahead -/
  | ahead (negated : Bool)
  /-- a look at what is behind; `groups` have been opened before it -/
  | behind (negated : Bool) (groups : Nat)
  /-- a choice by the group with a number -/
  | choice (number : Nat)
  /-- its body in its first way to match -/
  | final
  /-- its body with some flags added and some removed -/
  | under (added removed : List Flag)

namespace Closing

/-- How deep a parenthesis reaches into the reader: a choice has no alternatives to look for in its branches. -/
def depth : Closing → Nat
  | choice _ => 1
  | _ => 2

/-- The nodes of a closed parenthesis with its alternatives. As every place has the empty text ahead and behind,
none has it not there. -/
def nodes (widths : List (Nat × Width)) (rows : List (List Node)) : Closing → List Node
  | keep number => [.group number (.sequence (Alternatives.join rows))]
  | plain => Alternatives.join rows
  | ahead negated => look negated (.ahead negated) (Alternatives.join rows)
  | behind negated _ =>
    let body := Node.sequence (Alternatives.join rows)
    look negated (.behind negated (body.width widths).capped) (Alternatives.join rows)
  | choice number =>
    let branch (i : Nat) := Node.sequence (rows.getD i [])
    [.choice number (branch 0) (branch 1)]
  | final => [.final (.sequence (Alternatives.join rows))]
  | under added removed => [.under added removed (.sequence (Alternatives.join rows))]
where
  /-- A look at what is around, which fails at once if it is for nothing to be there. -/
  look (negated : Bool) (node : Node → Node) (body : List Node) : List Node :=
    [if negated && body.isEmpty then .nothing else node (.sequence body)]

end Closing

/-- What has been read inside a parenthesis, or outside all of them. -/
structure Level where
  /-- where the parenthesis stands -/
  position : Nat
  /-- what it becomes -/
  closing : Closing
  /-- finished alternatives, the latest first -/
  alternatives : List (List Node)
  /-- items of the current alternative, the latest first -/
  items : List (ItemKind × List Node)

namespace Level

/-- A level with nothing read yet. -/
def fresh (position : Nat) (closing : Closing) : Level := ⟨position, closing, [], []⟩

/-- Adds an item to the current alternative. -/
def push (level : Level) (kind : ItemKind) (nodes : List Node) : Level :=
  { level with items := (kind, nodes) :: level.items }

/-- The nodes of the current alternative. -/
def current (level : Level) : List Node := level.items.reverse.flatMap Prod.snd

/-- The level with the current alternative finished. -/
def finishAlternative (level : Level) : Level :=
  { level with alternatives := level.current :: level.alternatives, items := [] }

/-- All alternatives. -/
def rows (level : Level) : List (List Node) := level.finishAlternative.alternatives.reverse

end Level

/-! ## Readings -/

/-- How far the reading of a pattern has come. -/
structure Reading where
  /-- the innermost open level -/
  level : Level
  /-- the levels around it, the nearest first -/
  outer : List Level
  /-- how many groups have been opened -/
  groups : Nat
  /-- the named ones -/
  names : List (Text × Nat)
  /-- how many code points the closed ones take -/
  widths : List (Nat × Width)
  /-- the numbers that conditions are on, with their places, the latest first -/
  conditions : List (Nat × Nat)
  /-- the flags of all of the pattern -/
  flags : List Flag

namespace Reading

/-- The start of a reading. -/
def start (flags : List Flag) : Reading := ⟨.fresh 0 .plain, [], 0, [], [], [], flags⟩

/-- Adds an item at the innermost level. -/
def push (r : Reading) (kind : ItemKind) (node : Node) : Reading :=
  { r with level := r.level.push kind [node] }

/-! ### Groups -/

/-- Is a group still open? -/
def isOpen (r : Reading) (number : Nat) : Bool :=
  (r.level :: r.outer).any fun level =>
    match level.closing with
    | .keep n => n == number
    | _ => false

/-- What is said of a group that is not closed yet. -/
def openGroupReason : Text := "cannot refer to an open group"

/-- How many groups have been opened before the outermost look behind, if there is one. -/
def behindGroups? (r : Reading) : Option Nat :=
  (r.outer.reverse ++ [r.level]).findSome? fun level =>
    match level.closing with
    | .behind _ groups => some groups
    | _ => none

/-- What is looked for behind a place may depend on groups only that are closed before; `place` is behind what
refers to the group. -/
def checkBehind (r : Reading) (number place : Nat) : Except PatternError Unit :=
  match r.behindGroups? with
  | none => .ok ()
  | some groups =>
    if r.groups < number || r.isOpen number then .error (.fault openGroupReason place)
    else if groups < number then
      .error (.fault "cannot refer to group defined in the same lookbehind subpattern" place)
    else .ok ()

/-- The number of the group with a name that is written at a place. -/
def named (r : Reading) (name : Text) (place : Nat) : Except PatternError Nat :=
  match r.names.lookup name with
  | none => .error (.fault ("unknown group name " ++ Text.quoted name) place)
  | some number => .ok number

/-- Refers to a group that is written from one place to another. It has to be closed there. -/
def refer (r : Reading) (first last number : Nat) : Except PatternError Reading := do
  if r.isOpen number then throw (.fault openGroupReason first)
  r.checkBehind number last
  return r.push .repeatable (.reference number)

/-! ### Parentheses -/

/-- How deep the reader is in parentheses. -/
def depth (r : Reading) : Nat := (r.level :: r.outer).foldl (fun n level => n + level.closing.depth) 0

/-- How deep it can be. -/
def depthLimit : Nat := 982

/-- Opens a parenthesis. -/
def openLevel (r : Reading) (position : Nat) (closing : Closing) : Except PatternError Reading :=
  let opened := { r with level := .fresh position closing, outer := r.level :: r.outer }
  if depthLimit < opened.depth then .error .tooDeep else .ok opened

/-- Opens a group that is kept, under its name if it has one. -/
def openGroup (r : Reading) (position : Nat) (name : Option (Text × Nat)) :
    Except PatternError Reading :=
  let number := r.groups + 1
  let opened := { r with groups := number }
  match name with
  | none => opened.openLevel position (.keep number)
  | some (t, there) =>
    match r.names.lookup t with
    | some earlier =>
      .error (.fault ("redefinition of group name " ++ Text.quoted t ++ " as group "
        ++ Decimal.ofNat number ++ "; was group " ++ Decimal.ofNat earlier) there)
    | none => { opened with names := (t, number) :: r.names }.openLevel position (.keep number)

/-- The group that a condition is on. A number may be that of a group to come. -/
def condition (r : Reading) (place : Nat) : Condition → Except PatternError (Nat × Reading)
  | .name t => return (← r.named t place, r)
  | .number n =>
    let noted := if r.conditions.any (·.1 == n) then r.conditions else (n, place) :: r.conditions
    .ok (n, { r with conditions := noted })

/-- Opens a parenthesis of a kind. -/
def enter (r : Reading) (position : Nat) : Opening → Except PatternError Reading
  | .keep name => r.openGroup position name
  | .plain => r.openLevel position .plain
  | .ahead negated => r.openLevel position (.ahead negated)
  | .behind negated => r.openLevel position (.behind negated r.groups)
  | .choice condition first last => do
    let (number, noted) ← r.condition first condition
    r.checkBehind number last
    noted.openLevel position (.choice number)
  | .final => r.openLevel position .final
  | .under added removed => r.openLevel position (.under added removed)

/-- Closes the innermost parenthesis. -/
def close (r : Reading) (position : Nat) : Except PatternError Reading :=
  match r.outer with
  | [] => do
    let _ ← Flag.settle r.flags
    throw (.fault "unbalanced parenthesis" position)
  | level :: outer =>
    let rows := r.level.rows
    let closed := level.push .repeatable (r.level.closing.nodes r.widths rows)
    let widths := match r.level.closing with
      | .keep number => (number, ((Node.sequence (Alternatives.join rows)).width r.widths).capped) :: r.widths
      | _ => r.widths
    .ok { r with level := closed, outer := outer, widths := widths }

/-! ### Lexemes -/

/-- Repeats the latest item. -/
def quantify (r : Reading) (position : Nat) (preference : Preference) (least : Nat)
    (bound : Option Nat) : Except PatternError Reading :=
  match r.level.items with
  | [] | (.place, _) :: _ => .error (.fault "nothing to repeat" position)
  | (.repetition, _) :: _ => .error (.fault "multiple repeat" position)
  | (.repeatable, nodes) :: items =>
    let repeated := Node.times preference least bound (.sequence nodes)
    .ok { r with level := { r.level with items := (.repetition, [repeated]) :: items } }

/-- Starts another alternative. A choice has two. -/
def bar (r : Reading) (position : Nat) : Except PatternError Reading :=
  match r.level.closing, r.level.alternatives with
  | .choice _, _ :: _ => .error (.fault "conditional backref with more than two branches" position)
  | _, _ => .ok { r with level := r.level.finishAlternative }

/-- Is nothing read yet? -/
def isFresh (r : Reading) : Bool :=
  r.outer.isEmpty && r.level.alternatives.isEmpty && r.level.items.isEmpty

/-- Takes one lexeme. The number of a group stands behind a backslash. -/
def take (r : Reading) (position : Nat) : Lexeme → Except PatternError Reading
  | .item node =>
    match node with
    | .anchor _ => .ok (r.push .place node)
    | _ => .ok (r.push .repeatable node)
  | .reference number =>
    let written := Decimal.ofNat number
    if r.groups < number then .error (.fault (Lexeme.invalidReference number) (position + 1))
    else r.refer position (position + 1 + written.length) number
  | .namedReference name place => do
    let number ← r.named name place
    r.refer place (place + name.length + 1) number
  | .quantifier preference least bound => r.quantify position preference least bound
  | .opening opening => r.enter position opening
  | .closing => r.close position
  | .bar => r.bar position
  | .flags added =>
    if r.isFresh then .ok { r with flags := r.flags ++ added }
    else .error (.fault "global flags not at the start of the expression" position)
  | .comment => .ok r

/-- Takes lexemes up to the end or the first error. -/
def takeAll : Reading → List (Except PatternError (Nat × Lexeme)) → Except PatternError Reading
  | r, [] => .ok r
  | _, .error e :: _ => .error e
  | r, .ok (position, lexeme) :: rest =>
    match r.take position lexeme with
    | .error e => .error e
    | .ok r' => takeAll r' rest

/-- The number of the first condition that is on no group, with its place. -/
def unmet? (r : Reading) : Option (Nat × Nat) := r.conditions.reverse.find? fun (n, _) => r.groups < n

end Reading

namespace Pattern

/-- Reads a pattern from text. -/
def compile (flags : List Flag) (source : Text) : Except PatternError Pattern := do
  let r ← (Reading.start flags).takeAll (Lexeme.ofText (.verbose ∈ flags) source)
  if r.outer ≠ [] then throw (.fault "missing ), unterminated subpattern" r.level.position)
  let settled ← Flag.settle r.flags
  if let some (number, place) := r.unmet? then throw (.fault (Lexeme.invalidReference number) place)
  let tree := Node.sequence (Alternatives.join r.level.rows)
  match tree.fault? (.template ∈ r.flags) with
  | some e => throw e
  | none => return ⟨.text source, settled, r.groups, tree⟩

end Pattern

end SemverDispatch
