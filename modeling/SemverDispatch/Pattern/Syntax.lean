import SemverDispatch.Text.Basic

/-!
# Patterns

The syntax tree of a search pattern with the flags it is run under, and the pattern that finds a version
segment in a path. `Pattern.Parser` reads trees from text, `Pattern.Search` runs them.
-/

namespace SemverDispatch

/-! ## Flags -/

/-- Settings under which a pattern is read or run. -/
inductive Flag where
  /-- nothing is repeated -/
  | template
  /-- letters of both cases are the same -/
  | ignoreCase
  /-- classes and case are those of the locale -/
  | locale
  /-- every line has a beginning and an end -/
  | byLine
  /-- a dot takes a line break too -/
  | dotAll
  /-- classes and case are those of Unicode -/
  | unicode
  /-- blanks and comments in the text of the pattern do not count -/
  | verbose
  /-- how the pattern was read is written out -/
  | debug
  /-- classes and case are those of ASCII -/
  | ascii
  deriving DecidableEq, Repr

namespace Flag

/-- All flags, in the order in which they are shown. -/
def all : List Flag :=
  [template, ignoreCase, locale, byLine, dotAll, unicode, verbose, debug, ascii]

/-- Does a flag choose an alphabet? A pattern has one alphabet at a time. -/
def isAlphabet : Flag → Bool
  | ascii | locale | unicode => true
  | _ => false

/-- The flags inside a part of a pattern that adds some and removes some. -/
def within (added removed flags : List Flag) : List Flag :=
  let kept := if added.any isAlphabet then flags.filter (!isAlphabet ·) else flags
  (kept ++ added).filter (· ∉ removed)

/-- The given flags, each of them once and in order. -/
def inOrder (flags : List Flag) : List Flag := all.filter (· ∈ flags)

end Flag

/-! ## Trees -/

/-- A named class of code points. -/
inductive Shorthand where
  /-- decimal digits of any script -/
  | digit
  /-- blank characters -/
  | blank
  /-- word characters -/
  | word
  deriving DecidableEq, Repr

/-- A member of a set. -/
inductive SetItem where
  /-- one code point -/
  | point (c : CodePoint)
  /-- every code point with a number from `first` to `last` -/
  | range (first last : Nat)
  /-- a named class, or what is outside it -/
  | shorthand (s : Shorthand) (negated : Bool)
  deriving DecidableEq, Repr

/-- A place between code points. -/
inductive Anchor where
  /-- before the first code point -/
  | start
  /-- before the first code point; by line, behind a line break too -/
  | lineStart
  /-- after the last code point, or before a line break that is the last one; by line, before any line break -/
  | lineEnd
  /-- after the last code point -/
  | finish
  /-- where a word begins or ends -/
  | wordEdge
  /-- where no word begins or ends; an empty subject has no such place -/
  | notWordEdge
  deriving DecidableEq, Repr

/-- Which number of repetitions is tried first. -/
inductive Preference where
  /-- the most -/
  | most
  /-- the fewest -/
  | fewest
  /-- the most, and no other; every single repetition is final too -/
  | committed
  deriving DecidableEq, Repr

/-- How many code points a pattern takes. -/
structure Width where
  /-- at least -/
  least : Nat
  /-- at most -/
  greatest : Nat
  deriving DecidableEq, Repr

/-- A pattern's syntax tree. -/
inductive Node where
  /-- matches without taking anything -/
  | empty
  /-- matches nowhere -/
  | nothing
  /-- a given code point -/
  | point (c : CodePoint)
  /-- any code point but a line break -/
  | any
  /-- a code point in a set, or outside it -/
  | oneOf (negated : Bool) (items : List SetItem)
  /-- a place -/
  | anchor (a : Anchor)
  /-- one pattern after another -/
  | seq (first second : Node)
  /-- one pattern, or else one of others; the last of a row of alternatives has `nothing` behind it -/
  | either (first others : Node)
  /-- what a pattern takes is kept under a number -/
  | group (number : Nat) (body : Node)
  /-- the text last kept under a number -/
  | reference (number : Nat)
  /-- a pattern from `least` to `bound` times -/
  | times (preference : Preference) (least : Nat) (bound : Option Nat) (body : Node)
  /-- a pattern matches here, or does not, and takes nothing -/
  | ahead (negated : Bool) (body : Node)
  /-- a pattern matches the code points just behind, or does not, and takes nothing. How many these are is the
  least of its width -/
  | behind (negated : Bool) (width : Width) (body : Node)
  /-- one pattern if there is a text kept under a number, and another one if there is none -/
  | choice (number : Nat) (yes no : Node)
  /-- a pattern in the first way it matches, and no other -/
  | final (body : Node)
  /-- a pattern with some flags added and some removed -/
  | under (added removed : List Flag) (body : Node)

/-- The sequence of the given patterns. -/
def Node.sequence : List Node → Node
  | [] => .empty
  | [n] => n
  | n :: rest => .seq n (sequence rest)

/-- What a pattern is read from. It is searched for in what is of the same kind. -/
inductive PatternSource where
  /-- text -/
  | text (t : Text)
  /-- bytes -/
  | bytes (b : Bytes)
  deriving DecidableEq, Repr

/-- A compiled pattern. -/
structure Pattern where
  /-- what it was read from -/
  source : PatternSource
  /-- the flags it is run under -/
  flags : List Flag
  /-- how many groups it keeps -/
  groups : Nat
  /-- the tree -/
  tree : Node

namespace Pattern

/-- One or more decimal digits. -/
def digits : Node := .times .most 1 none (.oneOf false [.shorthand .digit false])

/-- A point and one or more decimal digits, or nothing. -/
def optionalPart : Node := .times .most 0 (some 1) (.seq (.point (.char '.')) digits)

/-- A path segment of `v` and one to three runs of digits joined by points; the runs are group 1. -/
def versionSegment : Pattern where
  source := .text "/v(\\d+(?:\\.\\d+)?(?:\\.\\d+)?)/"
  flags := [.unicode]
  groups := 1
  tree := .sequence [.point (.char '/'), .point (.char 'v'),
    .group 1 (.sequence [digits, optionalPart, optionalPart]), .point (.char '/')]

end Pattern

end SemverDispatch
