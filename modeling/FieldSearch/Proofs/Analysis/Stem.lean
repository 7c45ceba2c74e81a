import FieldSearch.Analysis.Stem

/-!
# What a stem is made of

A stem has the code points of its word, apart from the letter *y* that may stand for an ending, and
it is empty only when the word is. A stem is its own stem.
-/

namespace FieldSearch

/-- The stem of a word read backwards has the code points of the word and perhaps a *y*. -/
theorem mem_or_eq_of_mem_stemBackwards (word : Text) :
    ∀ point ∈ stemBackwards word, point ∈ word ∨ point = .char 'y' := by
  fun_cases stemBackwards word <;> grind

/-- Read backwards, only the empty word has an empty stem. -/
theorem stemBackwards_eq_nil_iff (word : Text) : stemBackwards word = [] ↔ word = [] := by
  fun_cases stemBackwards word <;> simp_all

/-- A stem has the code points of its word and perhaps a *y*. -/
theorem mem_or_eq_of_mem_stemPlural {word : Text} {point : CodePoint}
    (member : point ∈ stemPlural word) : point ∈ word ∨ point = .char 'y' := by
  rw [stemPlural, List.mem_reverse] at member
  simpa only [List.mem_reverse] using mem_or_eq_of_mem_stemBackwards word.reverse point member

/-- Only the empty word has an empty stem. -/
theorem stemPlural_eq_nil_iff {word : Text} : stemPlural word = [] ↔ word = [] := by
  rw [stemPlural, List.reverse_eq_nil_iff, stemBackwards_eq_nil_iff, List.reverse_eq_nil_iff]

/-- A word whose ending is replaced or stripped does not end with an *s* any more. -/
theorem stemBackwards_eq_self_or (word : Text) :
    stemBackwards word = word ∨ (stemBackwards word).head? ≠ some (.char 's') := by
  fun_cases stemBackwards word with
  | case1 => exact .inl rfl
  | case2 => exact .inr (by simp)
  | case3 => exact .inl rfl
  | case4 third fourth tail _ _ _ stripped => exact .inr (by simp [stripped])
  | case5 => exact .inl rfl
  | case6 third _ _ stripped => exact .inr (by simp [stripped])
  | case7 before third rest stripped other =>
    have notS : before ≠ .char 's' := fun same => other (.inr same)
    exact .inr (by simpa [stripped] using notS)
  | case8 => exact .inl rfl

/-- A word that does not end in *s* is kept as it is. -/
theorem stemBackwards_of_head? {word : Text} (other : word.head? ≠ some (.char 's')) :
    stemBackwards word = word := by
  fun_cases stemBackwards word <;> first | rfl | exact absurd rfl other

/-- A stem is its own stem. -/
theorem stemPlural_stemPlural (word : Text) : stemPlural (stemPlural word) = stemPlural word := by
  rw [stemPlural, stemPlural, List.reverse_reverse]
  rcases stemBackwards_eq_self_or word.reverse with same | other
  · rw [same, same]
  · rw [stemBackwards_of_head? other]

end FieldSearch
