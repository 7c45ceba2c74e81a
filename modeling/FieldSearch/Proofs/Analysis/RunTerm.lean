import FieldSearch.Analysis.Analyzer
import FieldSearch.Proofs.Text.Runs
import Mathlib.Data.List.Basic

/-!
# Terms of runs

An analyzer takes the runs of a class of code points and makes at most one term of each run,
whatever the other runs are. A text with a separator outside of the class is therefore analyzed in
its parts, and a term that the analyzer makes of itself is found again, alone or between separators.
-/

namespace FieldSearch.Analyzer

/-- Whether an analyzer takes a code point into a run. A keyword is a single run. -/
def takes : Analyzer → CodePoint → Bool
  | .keyword, _ => true
  | .whitespace, point => !point.isIn Text.isBlankChar
  | .simple, point => point.isIn Text.isWordLetter
  | .standard _, point => point.isIn Text.isWordChar
  | .english _, point => point.isIn Text.isWordChar

/-- The word of a run, unless it is a stop word. -/
def wordOfRun? (stopWords : List Text) (run : Text) : Option Text :=
  (some (Text.lower run)).filter (!stopWords.contains ·)

/-- The term that an analyzer makes of a run, if it makes one. -/
def termOfRun? : Analyzer → Text → Option Text
  | .keyword, run => some run
  | .whitespace, run => some run
  | .simple, run => some (Text.lower run)
  | .standard stopWords, run => wordOfRun? stopWords run
  | .english stopWords, run => (wordOfRun? stopWords run).map stemPlural

variable {analyzer : Analyzer} {text term : Text}

/-- The words of a text come from its runs of word characters, each by itself. -/
theorem standardTerms_eq (stopWords : List Text) (text : Text) :
    standardTerms stopWords text =
      (text.runs (·.isIn Text.isWordChar)).filterMap (wordOfRun? stopWords) := by
  rw [standardTerms, ← List.filterMap_eq_filter, List.filterMap_map]
  rfl

/-- The terms of a text are those of its runs, in order. -/
theorem terms_eq (analyzer : Analyzer) (text : Text) :
    analyzer.terms text = (text.runs analyzer.takes).filterMap analyzer.termOfRun? := by
  cases analyzer with
  | keyword =>
    by_cases empty : text = []
    · subst empty
      rfl
    · have whole : text.runs keyword.takes = [text] := Text.runs_of_forall empty fun _ _ => rfl
      rw [terms, whole, if_neg (by simpa using empty)]
      rfl
  | whitespace => exact List.filterMap_some.symm
  | simple => exact (congrFun List.filterMap_eq_map _).symm
  | standard stopWords => exact standardTerms_eq stopWords text
  | english stopWords =>
    rw [terms, standardTerms_eq, List.map_filterMap]
    rfl

/-- Every term comes from a run. -/
theorem exists_run_of_mem_terms (member : term ∈ analyzer.terms text) :
    ∃ run ∈ text.runs analyzer.takes, analyzer.termOfRun? run = some term := by
  rw [terms_eq] at member
  exact List.mem_filterMap.mp member

/-- The word of a run is the run in lower case, unless that is a stop word. -/
theorem wordOfRun?_eq_some_iff {stopWords : List Text} {run word : Text} :
    wordOfRun? stopWords run = some word ↔ Text.lower run = word ∧ word ∉ stopWords := by
  rw [wordOfRun?, Option.filter_eq_some_iff, Option.some.injEq, List.contains_eq_mem,
    Bool.not_eq_true', decide_eq_false_iff_not]

/-! ## Texts in parts -/

/-- Texts with something between them that no run takes have their terms one after the other. -/
theorem terms_append (analyzer : Analyzer) (first : Text) {separator : Text}
    (nonempty : separator ≠ []) (outside : ∀ point ∈ separator, ¬analyzer.takes point)
    (second : Text) :
    analyzer.terms (first ++ separator ++ second) =
      analyzer.terms first ++ analyzer.terms second := by
  rw [terms_eq, terms_eq, terms_eq, Text.runs_append_separator first nonempty outside,
    List.filterMap_append]

/-- A text that is one run has the term of that run, if there is one. -/
theorem terms_of_forall_takes (nonempty : text ≠ [])
    (inside : ∀ point ∈ text, analyzer.takes point) :
    analyzer.terms text = (analyzer.termOfRun? text).toList := by
  rw [terms_eq, Text.runs_of_forall nonempty inside]
  rfl

/-! ## Terms that are kept -/

/-- A text that is one run of an analyzer and is kept as a term. -/
structure Keeps (analyzer : Analyzer) (term : Text) : Prop where
  nonempty : term ≠ []
  inside : ∀ point ∈ term, analyzer.takes point
  kept : analyzer.termOfRun? term = some term

/-- A term that is kept is its own only term. -/
theorem Keeps.terms_eq (keeps : analyzer.Keeps term) : analyzer.terms term = [term] := by
  rw [terms_of_forall_takes keeps.nonempty keeps.inside, keeps.kept]
  rfl

/-- Terms that are kept are found again in their join. -/
theorem terms_join {terms : List Text} (keeps : ∀ term ∈ terms, analyzer.Keeps term)
    {separator : Text} (nonempty : separator ≠ [])
    (outside : ∀ point ∈ separator, ¬analyzer.takes point) :
    analyzer.terms (Text.join separator terms) = terms := by
  have words : ∀ term ∈ terms, term ≠ [] ∧ ∀ point ∈ term, analyzer.takes point :=
    fun term member => ⟨(keeps term member).nonempty, (keeps term member).inside⟩
  rw [Analyzer.terms_eq, Text.runs_join nonempty outside words,
    List.filterMap_congr fun term member => (keeps term member).kept, List.filterMap_some]

end FieldSearch.Analyzer
