import FieldSearch.Analysis.Analyzer
import FieldSearch.Proofs.Analysis.Stem
import FieldSearch.Proofs.Text.LowercaseWord
import FieldSearch.Proofs.Text.Runs

/-!
# Terms that are words

The simple, the standard and the English analyzer cut a text into words, whatever the stop words
are. Their terms are not empty, and are made of word characters and of the combining dots that come
from dotted capitals. The other analyzers give no empty terms either.
-/

namespace FieldSearch

/-- A word as analyzers leave it. -/
structure IsWordTerm (term : Text) : Prop where
  nonempty : term ≠ []
  points : ∀ point ∈ term, Text.IsLoweredWordPoint point

namespace IsWordTerm

/-- A run of word characters in lower case is a word. -/
theorem lower_run {p : Char → Bool} {text run : Text} (words : ∀ c, p c → Text.isWordChar c)
    (member : run ∈ text.runs (·.isIn p)) : IsWordTerm (Text.lower run) where
  nonempty := Text.lowerAfter_ne_nil (Text.ne_nil_of_mem_runs member) []
  points := by
    have word : ∀ point ∈ run, point.isIn Text.isWordChar := by
      intro point inRun
      have inClass := Text.forall_of_mem_runs member point inRun
      cases point with
      | char c => exact words c inClass
      | surrogate index => cases inClass
    exact fun point => Text.isLoweredWordPoint_of_mem_lowerAfter word

/-- The stem of a word is a word. -/
theorem stemPlural {word : Text} (term : IsWordTerm word) : IsWordTerm (stemPlural word) where
  nonempty := mt stemPlural_eq_nil_iff.mp term.nonempty
  points := by
    intro point member
    rcases mem_or_eq_of_mem_stemPlural member with kept | rfl
    · exact term.points point kept
    · exact .inl (by decide +kernel)

end IsWordTerm

namespace Analyzer

/-- An analyzer that cuts texts into words. -/
inductive OfWords : Analyzer → Prop
  | simple : OfWords .simple
  | standard (stopWords : List Text) : OfWords (.standard stopWords)
  | english (stopWords : List Text) : OfWords (.english stopWords)

/-- What is left of the words of a text without the stop words are words. -/
theorem isWordTerm_of_mem_standardTerms {stopWords : List Text} {text term : Text}
    (member : term ∈ standardTerms stopWords text) : IsWordTerm term := by
  obtain ⟨run, found, rfl⟩ := List.mem_map.mp (List.mem_filter.mp member).1
  exact .lower_run (fun _ => id) found

/-- The terms of an analyzer that cuts texts into words are words. -/
theorem OfWords.isWordTerm {analyzer : Analyzer} (ofWords : analyzer.OfWords) {text term : Text}
    (member : term ∈ analyzer.terms text) : IsWordTerm term := by
  cases ofWords with
  | simple =>
    obtain ⟨run, found, rfl⟩ := List.mem_map.mp member
    refine .lower_run (fun c letter => ?_) found
    rw [Text.isWordLetter, Bool.and_eq_true, Bool.and_eq_true] at letter
    exact letter.1.1
  | standard stopWords => exact isWordTerm_of_mem_standardTerms member
  | english stopWords =>
    obtain ⟨word, found, rfl⟩ := List.mem_map.mp member
    exact (isWordTerm_of_mem_standardTerms found).stemPlural

/-- No analyzer gives an empty term. -/
theorem ne_nil_of_mem_terms {analyzer : Analyzer} {text term : Text}
    (member : term ∈ analyzer.terms text) : term ≠ [] := by
  cases analyzer with
  | keyword =>
    rw [terms] at member
    split at member
    next => cases member
    next notEmpty =>
      cases List.mem_singleton.mp member
      simpa using notEmpty
  | whitespace => exact Text.ne_nil_of_mem_runs member
  | simple => exact (OfWords.simple.isWordTerm member).nonempty
  | standard stopWords => exact ((OfWords.standard stopWords).isWordTerm member).nonempty
  | english stopWords => exact ((OfWords.english stopWords).isWordTerm member).nonempty

/-- The one term of a text is among its terms. -/
theorem mem_terms_of_term? {analyzer : Analyzer} {field text term : Text}
    (found : TextAnalyzer.term? analyzer field text = .ok (some term)) :
    term ∈ analyzer.terms text := by
  rw [term?_eq] at found
  split at found
  · cases found
  next only =>
    cases found
    rw [only]
    exact List.mem_singleton_self _
  · cases found

end Analyzer

end FieldSearch
