import FieldSearch.Proofs.Text.Ranges
import FieldSearch.Text.Blank

/-!
# Blank texts

A code point is blank exactly when its number lies in one of the listed ranges, and a text is blank
when all its code points are. No surrogate is blank, because the ranges end before them.
-/

namespace FieldSearch.Text

/-- Whether the number of a code point is that of a blank. -/
def IsBlankPoint (point : CodePoint) : Prop :=
  ∃ range ∈ blankRanges, range.1 ≤ point.toNat ∧ point.toNat ≤ range.2

instance (point : CodePoint) : Decidable (IsBlankPoint point) :=
  inferInstanceAs (Decidable (∃ range ∈ blankRanges, _))

/-- The ranges of blank characters are in order and apart. -/
theorem increasing_blankRanges : SearchTree.Increasing id blankRanges := by
  unfold SearchTree.Increasing
  decide

/-- The characters that are blank are those in the ranges. -/
theorem isBlankChar_iff (c : Char) : isBlankChar c = true ↔ IsBlankPoint (.char c) :=
  Ranges.contains_iff increasing_blankRanges

/-- No surrogate is blank. -/
theorem not_isBlankPoint_surrogate (index : Fin 0x800) : ¬IsBlankPoint (.surrogate index) := by
  rintro ⟨range, member, _, high⟩
  have below : ∀ range ∈ blankRanges, range.2 < CodePoint.firstSurrogate := by decide
  have end_lt := below range member
  simp only [CodePoint.toNat] at high
  omega

/-- The code points of the class are the blank ones. -/
theorem isIn_isBlankChar_iff (point : CodePoint) :
    point.isIn isBlankChar = true ↔ IsBlankPoint point := by
  cases point with
  | char c => exact isBlankChar_iff c
  | surrogate index =>
    simp only [CodePoint.isIn, Bool.false_eq_true, false_iff]
    exact not_isBlankPoint_surrogate index

/-- A text is blank when every code point in it is. -/
theorem isBlank_iff (text : Text) : isBlank text = true ↔ ∀ point ∈ text, IsBlankPoint point := by
  simp only [isBlank, List.all_eq_true, isIn_isBlankChar_iff]

end FieldSearch.Text
