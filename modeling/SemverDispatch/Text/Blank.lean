import SemverDispatch.Text.Basic

/-!
# Blank characters

White space in the Unicode sense, with the separators U+001C to U+001F among it and the zero-width
spaces not. `Text.strip` takes it off both ends.
-/

namespace SemverDispatch

/-- The blank characters. -/
def blankTable : RangeTable :=
  [(0x9, 0xD), (0x1C, 0x20), (0x85, 0x85), (0xA0, 0xA0), (0x1680, 0x1680), (0x2000, 0x200A),
   (0x2028, 0x2029), (0x202F, 0x202F), (0x205F, 0x205F), (0x3000, 0x3000)]

/-- Is this a blank character? -/
def CodePoint.isBlank (c : CodePoint) : Bool := blankTable.covers c.value

/-- Is this a blank character of ASCII? -/
def CodePoint.isAsciiBlank (c : CodePoint) : Bool := c == .char ' ' || (0x9 ≤ c.value && c.value ≤ 0xD)

namespace Text

/-- The text without its leading blanks. -/
def stripLeft (t : Text) : Text := t.dropWhile CodePoint.isBlank

/-- The text without its leading and trailing blanks. -/
def strip (t : Text) : Text := (stripLeft t).reverse.dropWhile CodePoint.isBlank |>.reverse

/-- Does the text hold nothing but blanks? -/
def isBlank (t : Text) : Bool := t.all CodePoint.isBlank

end Text

end SemverDispatch
