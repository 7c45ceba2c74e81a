import FieldSearch.Proofs.Text.Lowercase

/-!
# Mended texts

Mending replaces the surrogates of a text by characters and keeps all else. So a mended text is
well-formed, a well-formed text is its own mended form, and a mended text in lower case is still in
lower case.
-/

namespace FieldSearch.Text

/-- A character in a mended text was there before, or is the replacement character. -/
theorem exists_char_of_mem_mended {text : Text} {point : CodePoint} (member : point ∈ text.mended) :
    ∃ c, point = .char c ∧ (point ∈ text ∨ c = '\uFFFD') := by
  obtain ⟨source, inside, made⟩ := List.mem_flatMap.mp member
  cases source with
  | char c =>
    cases List.mem_singleton.mp made
    exact ⟨c, rfl, .inl inside⟩
  | surrogate index => exact ⟨_, List.eq_of_mem_replicate made, .inr rfl⟩

/-- A mended text has no surrogates. -/
theorem isWellFormed_mended (text : Text) : text.mended.isWellFormed := by
  refine List.all_eq_true.mpr fun point member => ?_
  obtain ⟨c, rfl, _⟩ := exists_char_of_mem_mended member
  rfl

/-- A text without surrogates is not changed by mending it. -/
theorem mended_of_isWellFormed {text : Text} (wellFormed : text.isWellFormed) :
    text.mended = text := by
  induction text with
  | nil => rfl
  | cons head rest ih =>
    obtain ⟨first, others⟩ := Bool.and_eq_true_iff.mp wellFormed
    cases head with
    | char c => exact congrArg (CodePoint.char c :: ·) (ih others)
    | surrogate index => cases first

/-- A mended text is its own mended form. -/
theorem mended_mended (text : Text) : text.mended.mended = text.mended :=
  mended_of_isWellFormed text.isWellFormed_mended

/-- A text in lower case is in lower case after it is mended: the replacement character has no
lowercase form of its own. -/
theorem lower_mended_lower (text : Text) : lower (lower text).mended = (lower text).mended := by
  have replacement : IsLower (.char '\uFFFD') := by
    have kept : '\uFFFD' ≠ 'Σ' ∧ lowerChar '\uFFFD' = ['\uFFFD'] := by decide +kernel
    exact kept
  refine lowerAfter_eq_self (fun point member => ?_) []
  obtain ⟨c, rfl, before | rfl⟩ := exists_char_of_mem_mended member
  · exact isLower_of_mem_lowerAfter before
  · exact replacement

end FieldSearch.Text
