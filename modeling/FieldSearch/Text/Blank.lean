import FieldSearch.Text.Basic
import FieldSearch.Text.SearchTree

/-!
# Blank characters

A blank separates words and fills a text that says nothing. A *space* is a blank that may
surround a number written as text: every blank but the four separators of files, groups, records
and units.
-/

namespace FieldSearch.Text

/-- The code points of blanks. -/
def blankRanges : Ranges :=
  [(0x0009, 0x000D), (0x001C, 0x0020), (0x0085, 0x0085), (0x00A0, 0x00A0), (0x1680, 0x1680),
   (0x2000, 0x200A), (0x2028, 0x2029), (0x202F, 0x202F), (0x205F, 0x205F), (0x3000, 0x3000)]

/-- The blanks as a search tree. -/
def blankTree : RangeTree :=
  SearchTree.ofList blankRanges

/-- Whether a character is blank. -/
def isBlankChar (c : Char) : Bool :=
  blankTree.contains c.toNat

/-- Whether a text consists of blanks only; the empty text does. -/
def isBlank (text : Text) : Bool :=
  text.all (·.isIn isBlankChar)

/-- Whether a character is a blank other than the four information separators. -/
def isSpaceChar (c : Char) : Bool :=
  isBlankChar c && !(0x1C ≤ c.toNat && c.toNat ≤ 0x1F)

/-- A text without the spaces at its ends. -/
def trimSpaces (text : Text) : Text :=
  ((text.dropWhile (·.isIn isSpaceChar)).reverse.dropWhile (·.isIn isSpaceChar)).reverse

end FieldSearch.Text
