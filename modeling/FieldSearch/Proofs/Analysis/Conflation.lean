import FieldSearch.Proofs.Analysis.Stem

/-!
# Words of one stem

A word that does not end with an *s* is its own stem, and its plural in *s* has the same stem, unless
the word ends as few singulars do. A word that ends with a *y* after anything but *a* and *e* has the
same stem as its plural in *ies*.
-/

namespace FieldSearch

/-- The endings after which an *s* is kept. -/
def endingsBeforeKeptS : List Text :=
  ["u", "ie", "ae", "oe", "ee"].map Text.ofString

variable {before third : CodePoint} {word : Text}

/-! ## Words written backwards -/

/-- Four letters before *es* keep the ending. -/
theorem isIn_isKeptBefore_iff :
    third.isIn isKeptBefore ↔
      third = .char 'i' ∨ third = .char 'a' ∨ third = .char 'o' ∨ third = .char 'e' := by
  cases third with
  | char c => simp [CodePoint.isIn, isKeptBefore]
  | surrogate index => simp [CodePoint.isIn]

/-- An *s* is stripped unless it follows one of the two kinds of endings. -/
theorem stemBackwards_s_cons_eq_iff (notS : before ≠ .char 's') (rest : Text) :
    stemBackwards (.char 's' :: before :: third :: rest) = before :: third :: rest ↔
      before ≠ .char 'u' ∧ ¬(before = .char 'e' ∧ third.isIn isKeptBefore) := by
  by_cases u : before = .char 'u'
  · simp [stemBackwards, u]
  by_cases e : before = .char 'e'
  · subst e
    cases rest with
    | nil => by_cases kept : third.isIn isKeptBefore <;> simp [stemBackwards, kept]
    | cons fourth rest =>
      -- The ending *ies* becomes *y* after most letters, and is kept after the others.
      by_cases ies : third = .char 'i' ∧ fourth ≠ .char 'a' ∧ fourth ≠ .char 'e'
      · obtain ⟨rfl, notA, notE⟩ := ies
        have kept : (CodePoint.char 'i').isIn isKeptBefore := by decide
        simp [stemBackwards, notA, notE, kept]
      · by_cases kept : third.isIn isKeptBefore <;> simp [stemBackwards, ies, kept]
  · simp [stemBackwards, u, e, notS]

/-- An ending that keeps its *s*, read backwards, is a *u*, or an *e* after one of the four letters.
-/
theorem reverse_prefix_endingsBeforeKeptS_iff (rest : Text) :
    (∃ ending ∈ endingsBeforeKeptS, ending.reverse <+: before :: third :: rest) ↔
      before = .char 'u' ∨ (before = .char 'e' ∧ third.isIn isKeptBefore) := by
  rw [isIn_isKeptBefore_iff]
  simp only [endingsBeforeKeptS, List.map_cons, List.map_nil, Text.ofString, Text.ofChars,
    String.reduceToList, List.mem_cons, List.not_mem_nil, or_false, exists_eq_or_imp,
    exists_eq_left, List.reverse_cons, List.reverse_nil, List.nil_append, List.cons_append,
    List.cons_prefix_cons, List.nil_prefix, and_true]
  grind

/-- A word ends in the first code point of the word read backwards. -/
theorem suffix_of_reverse_eq_cons {last : CodePoint} {rest : Text}
    (backwards : word.reverse = last :: rest) : [last] <:+ word :=
  List.reverse_prefix.mp (backwards ▸ List.prefix_append [last] rest)

/-! ## Plurals -/

/-- A word that does not end in *s* is its own stem. -/
theorem stemPlural_of_not_suffix (singular : ¬Text.ofString "s" <:+ word) :
    stemPlural word = word := by
  rw [stemPlural, stemBackwards_of_head?, List.reverse_reverse]
  intro ends
  obtain ⟨rest, backwards⟩ := List.head?_eq_some_iff.mp ends
  exact singular (suffix_of_reverse_eq_cons backwards)

/-- An *s* after a word of two letters or more is kept exactly after the listed endings. -/
theorem stemPlural_append_s_eq_iff (long : 2 ≤ word.length)
    (singular : ¬Text.ofString "s" <:+ word) :
    stemPlural (word ++ "s") = word ↔ ∀ ending ∈ endingsBeforeKeptS, ¬ending <:+ word := by
  obtain ⟨before, third, rest, backwards⟩ :
      ∃ before third rest, word.reverse = before :: third :: rest := by
    match back : word.reverse with
    | before :: third :: rest => exact ⟨before, third, rest, rfl⟩
    | [_] | [] =>
      have lengths := congrArg List.length back
      simp only [List.length_reverse, List.length_cons, List.length_nil] at lengths
      omega
  have notS : before ≠ .char 's' := by
    rintro rfl
    exact singular (suffix_of_reverse_eq_cons backwards)
  calc
    stemPlural (word ++ "s") = word
    _ ↔ stemBackwards (.char 's' :: before :: third :: rest) = before :: third :: rest := by
      rw [stemPlural, List.reverse_append, List.reverse_eq_iff, backwards]
      rfl
    _ ↔ ∀ ending ∈ endingsBeforeKeptS, ¬ending <:+ word := by
      have endings := @reverse_prefix_endingsBeforeKeptS_iff before third rest
      rw [← backwards] at endings
      simp only [List.reverse_prefix] at endings
      rw [stemBackwards_s_cons_eq_iff notS]
      grind

/-- After a word that does not end in *a* or *e* the ending *ies* becomes *y*. -/
theorem stemPlural_append_ies (nonempty : word ≠ []) (notA : ¬Text.ofString "a" <:+ word)
    (notE : ¬Text.ofString "e" <:+ word) : stemPlural (word ++ "ies") = word ++ "y" := by
  obtain ⟨last, rest, backwards⟩ :=
    List.exists_cons_of_ne_nil (mt List.reverse_eq_nil_iff.mp nonempty)
  have lastNotA : last ≠ .char 'a' := by
    rintro rfl
    exact notA (suffix_of_reverse_eq_cons backwards)
  have lastNotE : last ≠ .char 'e' := by
    rintro rfl
    exact notE (suffix_of_reverse_eq_cons backwards)
  calc
    stemPlural (word ++ "ies")
    _ = (stemBackwards (.char 's' :: .char 'e' :: .char 'i' :: last :: rest)).reverse := by
      rw [stemPlural, List.reverse_append, backwards]
      rfl
    _ = (.char 'y' :: last :: rest).reverse := by
      simp [stemBackwards, lastNotA, lastNotE]
    _ = word ++ "y" := by
      rw [← backwards, List.reverse_cons, List.reverse_reverse]
      rfl

/-- **Which words have one stem.** A stem is its own stem, and is empty only if the word is. A word
of at least two code points that does not end with an *s* is its own stem, and is that of its plural
in *s* exactly when it has none of the five endings. A word that does not end with *a* or *e* and is
not empty makes a word with *y* that is its own stem and that of the plural in *ies*. -/
theorem stemPlural_conflates :
    (∀ word, stemPlural (stemPlural word) = stemPlural word ∧
      (stemPlural word = [] ↔ word = [])) ∧
    (∀ word : Text, 2 ≤ word.length → ¬Text.ofString "s" <:+ word →
      stemPlural word = word ∧
      (stemPlural (word ++ "s") = word ↔ ∀ ending ∈ endingsBeforeKeptS, ¬ending <:+ word)) ∧
    ∀ word : Text, word ≠ [] → ¬Text.ofString "a" <:+ word → ¬Text.ofString "e" <:+ word →
      stemPlural (word ++ "ies") = word ++ "y" ∧ stemPlural (word ++ "y") = word ++ "y" := by
  refine ⟨fun word => ⟨stemPlural_stemPlural word, stemPlural_eq_nil_iff⟩, ?_, ?_⟩
  · intro word long singular
    exact ⟨stemPlural_of_not_suffix singular, stemPlural_append_s_eq_iff long singular⟩
  · intro word nonempty notA notE
    refine ⟨stemPlural_append_ies nonempty notA notE, stemPlural_of_not_suffix ?_⟩
    intro ends
    have lasts := List.reverse_prefix.mpr ends
    rw [List.reverse_append] at lasts
    exact absurd (List.cons_prefix_cons.mp lasts).1 (by decide)

/-- A word with a kept ending, one without, and one in *y*. -/
theorem stemPlural_conflates_shoe :
    (stemPlural "shoes" ≠ Text.ofString "shoe" ∧ stemPlural "cats" = Text.ofString "cat") ∧
      stemPlural "queries" = Text.ofString "query" ∧
      stemPlural "query" = Text.ofString "query" := by
  obtain ⟨_, plurals, inY⟩ := stemPlural_conflates
  have shoe := (plurals "shoe" (by decide) (by decide)).2
  have cat := (plurals "cat" (by decide) (by decide)).2
  refine ⟨⟨fun same => ?_, cat.mpr (by decide)⟩, inY "quer" (by decide) (by decide) (by decide)⟩
  exact absurd (shoe.mp same) (by decide)

end FieldSearch
