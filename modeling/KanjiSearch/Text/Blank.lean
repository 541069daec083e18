import KanjiSearch.Text.CodeRanges

/-!
# Blanks

Blanks separate words: the characters with the Unicode property `White_Space`.
-/

namespace KanjiSearch.Text

/-- The characters with the property `White_Space`. -/
def blankRanges : CodeRanges :=
  [(0x9, 0xD), (0x20, 0x20), (0x85, 0x85), (0xA0, 0xA0), (0x1680, 0x1680), (0x2000, 0x200A), (0x2028, 0x2029),
   (0x202F, 0x202F), (0x205F, 0x205F), (0x3000, 0x3000)]

/-- Whether `c` is a blank. -/
def isBlank (c : Char) : Bool :=
  blankRanges.includes c.toNat

/-- `cs` without the blanks at its two ends. -/
def trim (cs : List Char) : List Char :=
  ((cs.dropWhile isBlank).reverse.dropWhile isBlank).reverse

end KanjiSearch.Text
