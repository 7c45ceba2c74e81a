import FieldSearch.Analysis.Analyzer
import FieldSearch.Proofs.Text.Letter
import FieldSearch.Proofs.Text.Splitting

/-!
# Letters of a text

The simple analyzer is meant to put the runs of letters of a text in lower case, one by one. It takes
numbers that are no decimal digits for letters too. Its terms are the runs of letters exactly for
the texts without such a number.
-/

namespace FieldSearch.Analyzer

/-- The terms of the simple analyzer are the words of the splitting at letters and other numbers, in
lower case. -/
theorem simple_terms_of_alternates {splitting : Text.Splitting}
    (alternates : splitting.Alternates
      fun point => point.isIn Text.isLetter || point.isIn Text.isOtherNumber) :
    simple.terms splitting.text = splitting.words.map Text.lower := by
  rw [terms, Text.runs_congr fun point _ => Text.isIn_isWordLetter point, alternates.runs_text]

/-- A number becomes part of a term, and lowering makes a number of it again. -/
theorem exists_term_of_isOtherNumber {text : Text} {point : CodePoint} (member : point ∈ text)
    (number : point.isIn Text.isOtherNumber) :
    ∃ term ∈ simple.terms text, ∃ form ∈ term, form.isIn Text.isOtherNumber := by
  have taken : point.isIn Text.isWordLetter := by
    rw [Text.isIn_isWordLetter, number, Bool.or_true]
  have inRuns : point ∈ (text.runs (·.isIn Text.isWordLetter)).flatten := by
    rw [Text.flatten_runs]
    exact List.mem_filter.mpr ⟨member, taken⟩
  obtain ⟨run, found, inRun⟩ := List.mem_flatten.mp inRuns
  obtain ⟨form, inTerm, lowers⟩ := Text.exists_mem_lowerAfter inRun []
  have undotted : point ≠ .char '\u0130' := by
    rintro rfl
    revert number
    decide +kernel
  refine ⟨Text.lower run, List.mem_map_of_mem found, form, inTerm, ?_⟩
  exact (Text.ignoresCase_isOtherNumber.isIn_eq lowers undotted).trans number

/-- No lowercase form of letters has a number. -/
theorem not_isOtherNumber_of_mem_lower {word : Text}
    (letters : ∀ point ∈ word, point.isIn Text.isLetter) {form : CodePoint}
    (member : form ∈ Text.lower word) : ¬form.isIn Text.isOtherNumber := by
  obtain ⟨source, inWord, lowers⟩ := Text.exists_lowersTo_of_mem_lowerAfter member
  exact Text.not_isOtherNumber_of_lowersTo lowers (letters source inWord)

/-- **Runs of letters, and of numbers that are no decimal digits.** A text has one splitting into
words of a class and gaps. The terms of the simple analyzer are, in order, the words of letters and
such numbers in lower case. They are the words of letters alone exactly when the text has no such
number. -/
theorem simple_terms_of_splitting (text : Text) :
    (∀ p : CodePoint → Bool,
      ∃! splitting : Text.Splitting, splitting.text = text ∧ splitting.Alternates p) ∧
    (∀ splitting : Text.Splitting, splitting.text = text →
      splitting.Alternates
          (fun point => point.isIn Text.isLetter || point.isIn Text.isOtherNumber) →
        simple.terms text = splitting.words.map Text.lower) ∧
    ∀ splitting : Text.Splitting, splitting.text = text →
      splitting.Alternates (·.isIn Text.isLetter) →
        (simple.terms text = splitting.words.map Text.lower ↔
          ∀ point ∈ text, ¬point.isIn Text.isOtherNumber) := by
  refine ⟨fun p => Text.Splitting.existsUnique_alternates p text, ?_, ?_⟩
  · rintro splitting rfl alternates
    exact simple_terms_of_alternates alternates
  rintro splitting rfl alternates
  constructor
  · intro same point member number
    obtain ⟨term, among, form, inTerm, number⟩ := exists_term_of_isOtherNumber member number
    rw [same] at among
    obtain ⟨⟨word, gap⟩, piece, rfl⟩ := List.mem_map.mp (List.map_map ▸ among)
    exact not_isOtherNumber_of_mem_lower (alternates.inside _ piece) inTerm number
  · intro noNumber
    have letters : ∀ point ∈ splitting.text,
        point.isIn Text.isWordLetter = point.isIn Text.isLetter := by
      intro point member
      rw [Text.isIn_isWordLetter, Bool.eq_false_iff.mpr (noNumber point member), Bool.or_false]
    rw [terms, Text.runs_congr letters, alternates.runs_text]

/-- A word that ends with a sigma, a word with a superscript in it and a decimal digit; and a text
without numbers but decimal digits. -/
theorem simple_terms_of_splitting_odos :
    Text.Splitting.Alternates
        (fun point => point.isIn Text.isLetter || point.isIn Text.isOtherNumber)
        ⟨[], [("ΟΔΟΣ", " 2_"), ("m²s", "!")]⟩ ∧
      simple.terms "ΟΔΟΣ 2_m²s!" = ["οδος", "m²s"].map Text.ofString ∧
      Text.Splitting.Alternates (·.isIn Text.isLetter) ⟨[], [("abc", "123"), ("DEF", "_")]⟩ ∧
      simple.terms "abc123DEF_" = ["abc", "def"].map Text.ofString := by
  have runs : Text.Splitting.Alternates
      (fun point => point.isIn Text.isLetter || point.isIn Text.isOtherNumber)
      ⟨[], [("ΟΔΟΣ", " 2_"), ("m²s", "!")]⟩ := by
    constructor <;> decide +kernel
  have letters : Text.Splitting.Alternates (·.isIn Text.isLetter)
      ⟨[], [("abc", "123"), ("DEF", "_")]⟩ := by
    constructor <;> decide +kernel
  obtain ⟨_, terms, _⟩ := simple_terms_of_splitting
    (Text.Splitting.text ⟨[], [("ΟΔΟΣ", " 2_"), ("m²s", "!")]⟩)
  obtain ⟨_, _, onlyLetters⟩ := simple_terms_of_splitting
    (Text.Splitting.text ⟨[], [("abc", "123"), ("DEF", "_")]⟩)
  have odos := terms _ rfl runs
  have abc := (onlyLetters _ rfl letters).mpr (by decide +kernel)
  refine ⟨runs, odos.trans (by decide +kernel), letters, abc.trans (by decide +kernel)⟩

/-- A superscript is no letter, and neither splits a term nor is left out. -/
theorem not_simple_terms_letters_squared :
    Text.Splitting.Alternates (·.isIn Text.isLetter) ⟨[], [("x", "²")]⟩ ∧
      simple.terms (Text.Splitting.text ⟨[], [("x", "²")]⟩) = [Text.ofString "x²"] ∧
      (Text.Splitting.words ⟨[], [("x", "²")]⟩).map Text.lower = [Text.ofString "x"] := by
  refine ⟨by constructor <;> decide +kernel, by decide +kernel, by decide +kernel⟩

end FieldSearch.Analyzer
