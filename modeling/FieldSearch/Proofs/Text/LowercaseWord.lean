import FieldSearch.Proofs.Text.LowercaseClass

/-!
# Words in lower case

Lowering keeps words: the lowercase form of a word character is a word character. The one exception
is the dotted capital I, whose form ends with a combining dot.
-/

namespace FieldSearch.Text

/-- The dot that the lowercase form of the dotted capital I ends with. -/
def combiningDot : Char := '\u0307'

/-- A code point that lowering a word may give. -/
def IsLoweredWordPoint (point : CodePoint) : Prop :=
  point.isIn isWordChar ∨ point = .char combiningDot

/-- The letters among the forms of the dotted capital I and of the capital sigma belong to words. -/
theorem isWordChar_of_special {c : Char} (special : c ∈ ['i', 'σ', 'ς']) : isWordChar c := by
  have word : ['i', 'σ', 'ς'].all isWordChar := by
    decide +kernel
  exact List.all_eq_true.mp word c special

/-- The lowercase forms of a word character are word characters or combining dots. -/
theorem isLoweredWordPoint_of_mem_lowerChar {c d : Char} (word : isWordChar c)
    (member : d ∈ lowerChar c) : IsLoweredWordPoint (.char d) := by
  rw [lowerChar] at member
  split at member
  · have forms : d = 'i' ∨ d = combiningDot := by simpa [combiningDot] using member
    rcases forms with rfl | rfl
    · exact .inl (isWordChar_of_special (by simp))
    · exact .inr rfl
  · rw [List.mem_singleton.mp member]
    exact .inl ((ignoresCase_isWordChar.single c).trans word)

/-- Lowering a word gives word characters and combining dots. -/
theorem isLoweredWordPoint_of_mem_lowerAfter {before text : Text} {point : CodePoint}
    (word : ∀ point ∈ text, point.isIn isWordChar) (member : point ∈ lowerAfter before text) :
    IsLoweredWordPoint point := by
  obtain ⟨source, inText, form⟩ := exists_lowersTo_of_mem_lowerAfter member
  cases form with
  | finalSigma => exact .inl (isWordChar_of_special (by simp))
  | sigma => exact .inl (isWordChar_of_special (by simp))
  | @char c _ _ form => exact isLoweredWordPoint_of_mem_lowerChar (word (.char c) inText) form
  | surrogate index => cases word _ inText

/-- A text that is not empty is not lowered to nothing. -/
theorem lowerAfter_ne_nil {text : Text} (nonempty : text ≠ []) (before : Text) :
    lowerAfter before text ≠ [] := by
  obtain ⟨head, rest, rfl⟩ := List.exists_cons_of_ne_nil nonempty
  obtain ⟨forms, some, _, whole⟩ := exists_lowerAfter_cons before head rest
  rw [whole]
  exact List.append_ne_nil_of_left_ne_nil some _

end FieldSearch.Text
