import SemverDispatch.Text.Lowercase.Table

/-!
# Lower case

Lower case by the full Unicode mapping. Two characters leave the one-to-one pattern: U+0130 becomes
`i` with a dot above, and a capital sigma becomes the final form at the end of a word.
-/

namespace SemverDispatch

/-- The number that a row maps `n` to, if the row reaches it. -/
def CaseRow.apply? (row : CaseRow) (n : Nat) : Option Nat :=
  if row.first ≤ n ∧ n ≤ row.last ∧ (n - row.first) % row.step = 0 then
    some (row.target + (n - row.first))
  else none

/-- The number that the first row reaching `n` maps it to. The scan ends at a row beyond `n`. -/
def CaseRow.lookup : List CaseRow → Nat → Option Nat
  | [], _ => none
  | row :: rest, n =>
    if n < row.first then none
    else
      match row.apply? n with
      | some m => some m
      | none => lookup rest n

namespace CodePoint

/-- The lower case of a code point taken alone, as one code point. -/
def simpleLower (c : CodePoint) : CodePoint :=
  if c.value = 0x130 then .char 'i'
  else
    match CaseRow.lookup lowercaseRows c.value with
    | some m => ofNat m
    | none => c

/-- Is this a character with case, and not one ignored around a sigma? -/
def isCased (c : CodePoint) : Bool := casedTable.covers c.value

/-- Is this a character ignored around a sigma? -/
def isCaseIgnorable (c : CodePoint) : Bool := caseIgnorableTable.covers c.value

/-- Does a change of case change this character? -/
def changesCase (c : CodePoint) : Bool := caseChangingTable.covers c.value

end CodePoint

namespace Text

/-- Is a cased character the first one that is not ignored? -/
def startsCased (t : Text) : Bool :=
  match t.dropWhile CodePoint.isCaseIgnorable with
  | [] => false
  | c :: _ => c.isCased

/-- The lower case of one code point, between what comes before it, nearest first, and after it. A
capital sigma takes the final form after a cased character and not before one. -/
def lowerAt (before : Text) (c : CodePoint) (after : Text) : Text :=
  if c.value = 0x3A3 then
    if startsCased before && !startsCased after then [.char '\u03C2'] else [.char '\u03C3']
  else if c.value = 0x130 then [.char 'i', .char '\u0307']
  else [c.simpleLower]

/-- Lower case of a text that follows `before`, which is given nearest first. -/
def lowerFrom : Text → Text → Text
  | _, [] => []
  | before, c :: rest => lowerAt before c rest ++ lowerFrom (c :: before) rest

/-- The text in lower case. -/
def lower (t : Text) : Text := lowerFrom [] t

end Text

end SemverDispatch
