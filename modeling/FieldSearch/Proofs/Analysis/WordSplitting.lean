import FieldSearch.Proofs.Analysis.RunTerm
import FieldSearch.Proofs.Text.Splitting

/-!
# Words of a text

The standard analyzer puts the words of a text in lower case, one by one, and leaves the stop words
out. What the words are does not depend on how they are looked for: there is one way to split a text
into words and gaps. Two texts with a gap between them are therefore analyzed each by itself.
-/

namespace FieldSearch.Analyzer

/-- The terms of the standard analyzer are the words of the splitting in lower case, without stop
words. -/
theorem standardTerms_of_alternates (stopWords : List Text) {splitting : Text.Splitting}
    (alternates : splitting.Alternates (·.isIn Text.isWordChar)) :
    (standard stopWords).terms splitting.text =
      (splitting.words.map Text.lower).filter (· ∉ stopWords) := by
  rw [terms, standardTerms, alternates.runs_text]
  simp only [List.contains_eq_mem, decide_not]

/-- **Words are split exactly.** A text has one splitting into words, which are not empty and hold
word characters only, and gaps, which hold none and are not empty between words. The terms of the
standard analyzer are the words of the splitting in lower case, in order, but the stop words. The
terms of the English analyzer are their stems. Neither analyzer looks across a separator that is not
empty and holds no word character. -/
theorem terms_of_splitting (stopWords : List Text) :
    (∀ text : Text, ∃! splitting : Text.Splitting,
      splitting.text = text ∧ splitting.Alternates (·.isIn Text.isWordChar)) ∧
    (∀ splitting : Text.Splitting, splitting.Alternates (·.isIn Text.isWordChar) →
      (standard stopWords).terms splitting.text =
          (splitting.words.map Text.lower).filter (· ∉ stopWords) ∧
        (english stopWords).terms splitting.text =
          ((splitting.words.map Text.lower).filter (· ∉ stopWords)).map stemPlural) ∧
    ∀ first separator second : Text, separator ≠ [] →
      (∀ point ∈ separator, ¬point.isIn Text.isWordChar) →
        (standard stopWords).terms (first ++ separator ++ second) =
            (standard stopWords).terms first ++ (standard stopWords).terms second ∧
          (english stopWords).terms (first ++ separator ++ second) =
            (english stopWords).terms first ++ (english stopWords).terms second := by
  refine ⟨Text.Splitting.existsUnique_alternates _, ?_, ?_⟩
  · intro splitting alternates
    have words := standardTerms_of_alternates stopWords alternates
    exact ⟨words, congrArg (List.map stemPlural) words⟩
  · intro first separator second nonempty outside
    exact ⟨terms_append (standard stopWords) first nonempty outside second,
      terms_append (english stopWords) first nonempty outside second⟩

/-- Two words, each of which ends with a sigma, and the second of which is a stop word. -/
theorem terms_of_splitting_odos :
    Text.Splitting.Alternates (·.isIn Text.isWordChar) ⟨[], [("ΟΔΟΣ", ", "), ("ΑΣ", "!")]⟩ ∧
      (standard ["ας"]).terms "ΟΔΟΣ, ΑΣ!" = [Text.ofString "οδος"] ∧
      (standard ["ας"]).terms "ΟΔΟΣ, ΑΣ!" =
        (standard ["ας"]).terms "ΟΔΟΣ" ++ (standard ["ας"]).terms "ΑΣ!" := by
  have alternates : Text.Splitting.Alternates (·.isIn Text.isWordChar)
      ⟨[], [("ΟΔΟΣ", ", "), ("ΑΣ", "!")]⟩ := by
    constructor <;> decide +kernel
  obtain ⟨_, words, parts⟩ := terms_of_splitting ["ας"]
  refine ⟨alternates, ?_, (parts "ΟΔΟΣ" ", " "ΑΣ!" (by decide) (by decide +kernel)).1⟩
  rw [show Text.ofString "ΟΔΟΣ, ΑΣ!" = Text.Splitting.text ⟨[], [("ΟΔΟΣ", ", "), ("ΑΣ", "!")]⟩
    from by decide, (words _ alternates).1]
  decide +kernel

end FieldSearch.Analyzer
