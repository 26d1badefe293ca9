import SemverDispatch.Pattern.Escape
import SemverDispatch.Text.Identifier
import SemverDispatch.Text.Quoted
import SemverDispatch.Text.Whole

/-!
# Lexemes of patterns

Marks make lexemes: an item that stands for itself, a set, a quantifier, a parenthesis with what it opens.
Lexemes come with their places and end with the first error.

A quantifier is read up to its mark of preference, and a bar or a closing parenthesis by itself; whether they
have a meaning where they stand is found out before what comes behind them is looked at. Whether blanks and
comments count depends on the parentheses around them, so the reader keeps that for each open one.
-/

namespace SemverDispatch

/-! ## Sets -/

namespace SetItem

/-- The range between two members, if both are code points in order. -/
def range? (low high : SetItem) : Option SetItem :=
  match low, high with
  | .point a, .point b => if a.value ≤ b.value then some (.range a.value b.value) else none
  | _, _ => none

/-- Reads the rest of a member that starts with a mark. -/
def readFrom (start : Nat) : Mark → Scan SetItem
  | .plain c => return .point c
  | .escaped c => Escape.readInSet start c
  | .dangling => Scan.fault Scan.danglingReason start

/-- What is said of a set without its closing bracket. -/
def unterminated : Text := "unterminated character set"

/-- Reads the members of a set that opened at `opened`, up to its closing bracket, behind those `found`,
the latest first. A bracket closes only behind a member. The number of marks bounds that of members. -/
def readMembers (opened : Nat) : (limit : Nat) → (found : List SetItem) → Scan (List SetItem)
  | 0, _ => Scan.fault unterminated opened
  | limit + 1, found => do
    let start ← Scan.position
    match ← Scan.take? with
    | none => Scan.fault unterminated opened
    | some mark =>
      if mark = .plain (.char ']') ∧ found ≠ [] then return found.reverse
      let low ← readFrom start mark
      if !(← Scan.accept '-') then readMembers opened limit (low :: found)
      else
        let middle ← Scan.position
        match ← Scan.take? with
        | none => Scan.fault unterminated opened
        | some upper =>
          if upper = .plain (.char ']') then
            return (.point (.char '-') :: low :: found).reverse
          let high ← readFrom middle upper
          match range? low high with
          | some item => readMembers opened limit (item :: found)
          | none =>
            let written := mark.text ++ [.char '-'] ++ upper.text
            let place ← Scan.position
            Scan.fault ("bad character range " ++ written) (place - written.length)

/-- The node of a set: a set of one code point is that code point. -/
def node (negated : Bool) (items : List SetItem) : Node :=
  match negated, items.eraseDups with
  | false, [.point c] => .point c
  | _, distinct => .oneOf negated distinct

/-- Reads the rest of a set that opened at `opened`. -/
def readSet (opened : Nat) : Scan Node := do
  let negated ← Scan.accept '^'
  let items ← readMembers opened ((← get).ahead.length + 1) []
  return node negated items

end SetItem

/-! ## Lexemes -/

/-- A group whose text decides between two patterns. -/
inductive Condition where
  /-- the group with a name -/
  | name (t : Text)
  /-- the group with a number -/
  | number (n : Nat)

/-- What a parenthesis opens. -/
inductive Opening where
  /-- a group whose text is kept, with the place of its name if it has one -/
  | keep (name : Option (Text × Nat))
  /-- a group for precedence alone -/
  | plain
  /-- a look at what is ahead -/
  | ahead (negated : Bool)
  /-- a look at what is behind -/
  | behind (negated : Bool)
  /-- a choice by a condition, which is written from one place to another -/
  | choice (condition : Condition) (first last : Nat)
  /-- a group that is matched in its first way -/
  | final
  /-- a group with some flags added and some removed -/
  | under (added removed : List Flag)

/-- Do blanks and comments count inside a parenthesis, if they do or do not around it? -/
def Opening.isVerbose (around : Bool) : Opening → Bool
  | .under added removed => (around || .verbose ∈ added) && .verbose ∉ removed
  | _ => around

/-- A lexeme of a pattern. -/
inductive Lexeme where
  /-- a node that stands for itself -/
  | item (node : Node)
  /-- the text of a group by its number -/
  | reference (number : Nat)
  /-- the text of a group by its name, which is written at a place -/
  | namedReference (name : Text) (position : Nat)
  /-- a count of repetitions of the item before -/
  | quantifier (preference : Preference) (least : Nat) (bound : Option Nat)
  /-- an opening parenthesis -/
  | opening (o : Opening)
  /-- a closing parenthesis -/
  | closing
  /-- between alternatives -/
  | bar
  /-- flags of all of the pattern -/
  | flags (added : List Flag)
  /-- what does not count -/
  | comment

namespace Lexeme

/-! ### Quantifiers -/

/-- The least number of repetitions that is out of range. -/
def countLimit : Nat := 4294967295

/-- The number of repetitions that digits write, if there are any. -/
def count (digits : Text) : Scan (Option Nat) :=
  if digits = [] then return none
  else if Decimal.digitLimit < digits.length then throw (.longCount digits.length)
  else if countLimit ≤ Decimal.value digits then throw .hugeCount
  else return some (Decimal.value digits)

/-- A quantifier, with the preference that a mark behind it gives. -/
def counted (least : Nat) (bound : Option Nat) : Scan Lexeme := do
  match ← Scan.next? with
  | some (.plain (.char '?')) =>
    Scan.pass
    return .quantifier .fewest least bound
  | some (.plain (.char '+')) =>
    Scan.pass
    return .quantifier .committed least bound
  | _ => return .quantifier .most least bound

/-- The digits of the least and the greatest number, if a closing brace ends them. -/
def braceDigits : Scan (Option (Text × Text)) := do
  if (← Scan.next?) = some (.plain (.char '}')) then return none
  let low ← Scan.takeAll CodePoint.isAsciiDigit
  let high ← if ← Scan.accept ',' then Scan.takeAll CodePoint.isAsciiDigit else pure low
  return if ← Scan.accept '}' then some (low, high) else none

/-- Reads what follows an opening brace: a quantifier, or nothing that belongs to the brace, which is itself
then. -/
def readBraces : Scan Lexeme := do
  let here ← get
  match ← braceDigits with
  | none =>
    set here
    return .item (.point (.char '{'))
  | some (low, high) =>
    let least := (← count low).getD 0
    let bound ← count high
    if bound.any (· < least) then Scan.fault "min repeat greater than max repeat" here.position
    else counted least bound

/-! ### Parentheses -/

/-- What is said of a name that is none. -/
def badName (t : Text) : Text := "bad character in group name " ++ t.quoted

/-- Reads the name of a group up to its closing mark. -/
def readName (close : Char) : Scan (Text × Nat) := do
  let (t, start) ← Scan.takeName "group name" close
  if t.isIdentifier then return (t, start) else Scan.fault (badName t) start

/-- The least number that no group can have. -/
def groupLimit : Nat := 1073741823

/-- What is said of the number of a group that there is not. -/
def invalidReference (number : Nat) : Text := "invalid group reference " ++ Decimal.ofNat number

/-- Reads the condition of a choice: the name of a group, or its number. -/
def readCondition : Scan Opening := do
  let (t, start) ← Scan.takeName "group name" ')'
  let last ← Scan.position
  if t.isIdentifier then return .choice (.name t) start last
  match Numeral.whole t with
  | .ok (.ofNat number) =>
    if number = 0 then Scan.fault "bad group number" start
    else if groupLimit ≤ number then Scan.fault (invalidReference number) start
    else return .choice (.number number) start last
  | _ => Scan.fault (badName t) start

/-- What is said of a parenthesis that goes on in an unknown way. -/
def unknownExtension (written : Text) : Text := "unknown extension ?" ++ written

/-- What is said of a pattern that ends too early. -/
def unexpectedEnd : Text := "unexpected end of pattern"

/-- Reads what follows `(?P`, where the parenthesis stands at `start`. -/
def readNamed (start : Nat) : Scan Lexeme := do
  if ← Scan.accept '<' then
    return .opening (.keep (some (← readName '>')))
  else if ← Scan.accept '=' then
    let (name, position) ← readName ')'
    return .namedReference name position
  else
    match ← Scan.take? with
    | none => Scan.fault unexpectedEnd (← Scan.position)
    | some mark => Scan.fault (unknownExtension (.char 'P' :: mark.text)) (start + 1)

/-- Reads what follows `(?<`, where the parenthesis stands at `start`. -/
def readBehind (start : Nat) : Scan Lexeme := do
  match ← Scan.take? with
  | none => Scan.fault unexpectedEnd (← Scan.position)
  | some (.plain (.char '=')) => return .opening (.behind false)
  | some (.plain (.char '!')) => return .opening (.behind true)
  | some mark => Scan.fault (unknownExtension (.char '<' :: mark.text)) (start + 1)

/-- Reads what follows `(?#`, where the parenthesis stands at `start`. -/
def readComment (start : Nat) : Scan Lexeme := do
  let (_, closed) ← Scan.takeTo ')'
  if closed then return .comment else Scan.fault "missing ), unterminated comment" start

/-! ### Flags -/

/-- The flag that a letter stands for. -/
def flag? : Mark → Option Flag
  | .plain c => [(CodePoint.char 'i', Flag.ignoreCase), (.char 'L', .locale), (.char 'm', .byLine),
      (.char 's', .dotAll), (.char 'x', .verbose), (.char 'a', .ascii), (.char 't', .template),
      (.char 'u', .unicode)].lookup c
  | _ => none

/-- The flag of a mark that has just been taken. If it has none, `missing` is what is said unless the mark is a
letter. -/
def flagOf (missing : Text) (mark : Mark) : Scan Flag := do
  match flag? mark with
  | some f => return f
  | none =>
    let place ← Scan.position
    match mark with
    | .plain c => Scan.fault (if c.isLetter then "unknown flag" else missing) (place - 1)
    | _ => Scan.fault missing (place - mark.width)

/-- Takes a mark where a flag has to come. -/
def takeFlag (missing : Text) : Scan Flag := do
  match ← Scan.take? with
  | none => Scan.fault missing (← Scan.position)
  | some mark => flagOf missing mark

/-- Reads the flags that follow some, at most `limit`, up to a mark that ends them: all the flags, and that mark.
`refuse?` says what is wrong with the latest flag in view of all of them. -/
def readFlags (refuse? : List Flag → Flag → Option Text) (ends : List Char) (missing : Text) :
    (limit : Nat) → (row : List Flag) → (latest : Flag) → Scan (List Flag × Char)
  | 0, _, _ => do Scan.fault missing (← Scan.position)
  | limit + 1, row, latest => do
    let flags := row ++ [latest]
    if let some reason := refuse? flags latest then Scan.fault reason (← Scan.position)
    match ← Scan.take? with
    | none => Scan.fault missing (← Scan.position)
    | some mark =>
      match ends.find? fun c => mark = .plain (.char c) with
      | some close => return (flags, close)
      | none => readFlags refuse? ends missing limit flags (← flagOf missing mark)

/-- What is wrong with a flag among those that a pattern adds. -/
def refuseAdded? (flags : List Flag) (latest : Flag) : Option Text :=
  if latest = .locale then some "bad inline flags: cannot use 'L' flag with a str pattern"
  else if latest.isAlphabet ∧ flags.any (fun f => f.isAlphabet && f != latest) then
    some "bad inline flags: flags 'a', 'u' and 'L' are incompatible"
  else none

/-- What is wrong with a flag among those that a pattern removes. -/
def refuseRemoved? (_ : List Flag) (latest : Flag) : Option Text :=
  if latest.isAlphabet then some "bad inline flags: cannot turn off flags 'a', 'u' and 'L'" else none

/-- Reads flags that are removed, behind those `added`. -/
def readRemoved (added : List Flag) : Scan Lexeme := do
  let first ← takeFlag "missing flag"
  let (removed, _) ← readFlags refuseRemoved? [':'] "missing :" ((← get).ahead.length + 1) [] first
  if .template ∈ removed then
    Scan.fault "bad inline flags: cannot turn off global flag" ((← Scan.position) - 1)
  if added.any (· ∈ removed) then
    Scan.fault "bad inline flags: flag turned on and off" ((← Scan.position) - 1)
  return .opening (.under added removed)

/-- Reads what follows `(?` and a first flag. -/
def readAdded (first : Flag) : Scan Lexeme := do
  let (added, close) ←
    readFlags refuseAdded? [')', '-', ':'] "missing -, : or )" ((← get).ahead.length + 1) [] first
  if close = ')' then return .flags added
  if .template ∈ added then
    Scan.fault "bad inline flags: cannot turn on global flag" ((← Scan.position) - 1)
  if close = '-' then readRemoved added else return .opening (.under added [])

/-- Reads what follows an opening parenthesis that stands at `start`. -/
def readParenthesis (start : Nat) : Scan Lexeme := do
  if !(← Scan.accept '?') then return .opening (.keep none)
  else
    match ← Scan.take? with
    | none => Scan.fault unexpectedEnd (← Scan.position)
    | some (.plain (.char ':')) => return .opening .plain
    | some (.plain (.char '=')) => return .opening (.ahead false)
    | some (.plain (.char '!')) => return .opening (.ahead true)
    | some (.plain (.char '>')) => return .opening .final
    | some (.plain (.char '<')) => readBehind start
    | some (.plain (.char '#')) => readComment start
    | some (.plain (.char 'P')) => readNamed start
    | some (.plain (.char '(')) => return .opening (← readCondition)
    | some (.plain (.char '-')) => readRemoved []
    | some mark =>
      match flag? mark with
      | some first => readAdded first
      | none => Scan.fault (unknownExtension mark.text) (start + 1)

/-! ### All lexemes -/

/-- The lexeme of an escape. -/
def ofEscape : Escape → Lexeme
  | .point p => .item (.point p)
  | .shorthand s negated => .item (.oneOf false [.shorthand s negated])
  | .anchor a => .item (.anchor a)
  | .reference number => .reference number

/-- Reads the rest of a lexeme that starts with a code point by itself. -/
def readPlain (start : Nat) (c : CodePoint) : Scan Lexeme := do
  if c = .char '[' then return .item (← SetItem.readSet start)
  else if c = .char '*' then counted 0 none
  else if c = .char '+' then counted 1 none
  else if c = .char '?' then counted 0 (some 1)
  else if c = .char '{' then readBraces
  else if c = .char '(' then readParenthesis start
  else if c = .char '.' then return .item .any
  else if c = .char '^' then return .item (.anchor .lineStart)
  else if c = .char '$' then return .item (.anchor .lineEnd)
  else return .item (.point c)

/-- Reads the rest of a lexeme that starts with a code point by itself, or of what does not count. -/
def readCounting (verbose : Bool) (start : Nat) (c : CodePoint) : Scan Lexeme := do
  if verbose && c.isAsciiBlank then return .comment
  else if verbose && c = .char '#' then
    discard (Scan.takeTo '\n')
    return .comment
  else readPlain start c

/-- Reads the rest of the lexeme that starts with a mark, which has been passed. -/
def readFrom (verbose : Bool) (start : Nat) (mark : Mark) : Scan Lexeme := do
  match mark with
  | .dangling => Scan.fault Scan.danglingReason start
  | .plain (.char ')') => return .closing
  | .plain (.char '|') => return .bar
  | .plain c =>
    Scan.check
    readCounting verbose start c
  | .escaped c =>
    Scan.check
    return ofEscape (← Escape.read start c)

/-- Whether blanks and comments do not count behind a lexeme: inside each open parenthesis, the innermost first,
and outside all of them. -/
def modesAfter (modes : List Bool) : Lexeme → List Bool
  | .opening o => o.isVerbose (modes.headD false) :: modes
  | .closing => modes.tail
  | .flags added => (modes.headD false || .verbose ∈ added) :: modes.tail
  | _ => modes

/-- The lexemes from a place on, at most `limit`, with their own places, up to the first error. -/
def readAll : (limit : Nat) → (modes : List Bool) → Place → List (Except PatternError (Nat × Lexeme))
  | 0, _, _ => []
  | limit + 1, modes, place =>
    match place.ahead with
    | [] => []
    | mark :: _ =>
      match readFrom (modes.headD false) place.position mark place.pass with
      | .error e => [.error e]
      | .ok (lexeme, after) =>
        .ok (place.position, lexeme) :: readAll limit (lexeme.modesAfter modes) after

/-- The lexemes of a pattern with their places, up to the first error. Each takes a mark at least. -/
def ofText (verbose : Bool) (source : Text) : List (Except PatternError (Nat × Lexeme)) :=
  readAll source.length [verbose] (.start source)

end Lexeme

end SemverDispatch
