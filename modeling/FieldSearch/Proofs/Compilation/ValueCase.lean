import FieldSearch.Proofs.Analysis.RunTerm
import FieldSearch.Proofs.Analysis.WordTerm
import FieldSearch.Proofs.Compilation.Safety
import FieldSearch.Proofs.Schema.AnalyzerLookup
import Mathlib.Data.List.Forall2

/-!
# The case of values

An analyzer that cuts texts into words finds the same terms in a plain text and in its lowercase
form, although it cuts the text first and lowers the words then: lowering leaves the places of the
cuts as they are. Values that differ in case at most are therefore compiled to the same query, or
refused with the same report, except that a report of several terms shows the value itself.
-/

namespace FieldSearch

open Text (IsPlain)

variable {α : Type} [TextAnalyzer α]

/-- Plain texts that differ in case at most. -/
structure Text.CaseVariants (first second : Text) : Prop where
  firstPlain : IsPlain first
  secondPlain : IsPlain second
  same : Text.lower first = Text.lower second

/-! ## Terms -/

namespace Analyzer.OfWords

variable {analyzer : Analyzer} {text first second : Text}

/-- Lowering a plain text leaves the places of the cuts as they are. -/
theorem runs_lower (ofWords : analyzer.OfWords) (plain : IsPlain text) :
    (Text.lower text).runs analyzer.takes = (text.runs analyzer.takes).map Text.lower := by
  cases ofWords with
  | simple => exact Text.ignoresCase_isWordLetter.runs_lower plain
  | standard stopWords => exact Text.ignoresCase_isWordChar.runs_lower plain
  | english stopWords => exact Text.ignoresCase_isWordChar.runs_lower plain

/-- A run has the term of its lowercase form. -/
theorem termOfRun?_lower (ofWords : analyzer.OfWords) (run : Text) :
    analyzer.termOfRun? (Text.lower run) = analyzer.termOfRun? run := by
  cases ofWords <;> simp only [termOfRun?, wordOfRun?, Text.lower_lower]

/-- A plain text has the terms of its lowercase form. -/
theorem terms_lower (ofWords : analyzer.OfWords) (plain : IsPlain text) :
    analyzer.terms (Text.lower text) = analyzer.terms text := by
  rw [terms_eq, ofWords.runs_lower plain, List.filterMap_map, terms_eq]
  congr 1
  funext run
  exact ofWords.termOfRun?_lower run

/-- Plain texts that differ in case at most have the same terms. -/
theorem terms_of_caseVariants (ofWords : analyzer.OfWords) (variants : first.CaseVariants second) :
    analyzer.terms first = analyzer.terms second := by
  rw [← ofWords.terms_lower variants.firstPlain, variants.same,
    ofWords.terms_lower variants.secondPlain]

end Analyzer.OfWords

/-! ## Outcomes -/

/-- The same outcome, or reports of the same several terms of a field. -/
inductive AlikeOutcome {α : Type} : Except Failure α → Except Failure α → Prop
  | same (ending : Except Failure α) : AlikeOutcome ending ending
  | several (field first second terms : Json) :
    AlikeOutcome (.error (.reported (.analysis field first terms)))
      (.error (.reported (.analysis field second terms)))

namespace AlikeOutcome

variable {α β : Type} {first second : Except Failure α}

/-- Outcomes that are alike stay so when the answers are changed. -/
theorem map (alike : AlikeOutcome first second) (f : α → β) :
    AlikeOutcome (first.map f) (second.map f) := by
  cases alike with
  | same => exact .same (first.map f)
  | several field text other terms => exact .several field text other terms

/-- Steps that are alike, followed by steps that are alike for every value, are alike. -/
theorem bind (alike : AlikeOutcome first second) {next other : α → Except Failure β}
    (later : ∀ value, AlikeOutcome (next value) (other value)) :
    AlikeOutcome (first >>= next) (second >>= other) := by
  cases alike with
  | several field text other terms => exact .several field text other terms
  | same =>
    cases first with
    | error failure => exact .same (.error failure)
    | ok value => exact later value

/-- Requirements are reported whatever the answer would be. -/
theorem outcome (alike : AlikeOutcome first second) (requirements : List Requirement) :
    AlikeOutcome (outcome requirements first) (outcome requirements second) := by
  induction requirements with
  | nil => exact alike
  | cons requirement rest ih =>
    rw [outcome_cons, outcome_cons]
    split
    · exact ih
    · exact .same _

end AlikeOutcome

/-! ## Analysis -/

namespace Schema

variable {schema : Schema α} {field first second : Text}

/-- Plain texts that differ in case at most are analyzed alike. -/
theorem analysis_of_caseVariants (cutsWords : schema.CutsWords field)
    (variants : first.CaseVariants second) :
    AlikeOutcome (schema.analysis field first) (schema.analysis field second) := by
  obtain ⟨analyzer, ofWords, used⟩ := cutsWords
  rw [analysis, analysis, term?, term?, used, TextAnalyzer.term?_ofBuiltIn,
    TextAnalyzer.term?_ofBuiltIn, ofWords.terms_of_caseVariants variants]
  split
  · exact .same _
  · exact .same _
  · exact .several _ _ _ _

end Schema

/-! ## Compilation -/

section Compilation

variable {schema : Schema α} {field : Text}

/-- Values at the same places that differ in case at most are analyzed alike. -/
theorem analyzedFrom_of_caseVariants (cutsWords : schema.CutsWords field)
    {values others : List (Option Text)}
    (variants : List.Forall₂ (Option.Rel Text.CaseVariants) values others) (position : Nat) :
    AlikeOutcome (analyzedFrom (schema.analysis field) position values)
      (analyzedFrom (schema.analysis field) position others) := by
  induction variants generalizing position with
  | nil => exact .same _
  | cons head rest ih =>
    cases head with
    | none =>
      rw [analyzedFrom_cons_none, analyzedFrom_cons_none]
      exact ih (position + 1)
    | some variants =>
      rw [analyzedFrom_cons_some, analyzedFrom_cons_some]
      refine ((Schema.analysis_of_caseVariants cutsWords variants).map _).bind fun term => ?_
      exact (ih (position + 1)).bind fun terms => .same _

/-- Plain texts that differ in case at most are both blank or neither is. -/
theorem present_of_caseVariants {first second : Text} (variants : first.CaseVariants second) :
    Requirement.Present (some first) ↔ Requirement.Present (some second) := by
  rw [Compiler.present_some_iff, Compiler.present_some_iff,
    ← Text.isBlank_lower variants.firstPlain, variants.same,
    Text.isBlank_lower variants.secondPlain]

/-- What a fuzzy condition has to meet depends on its value only in that the value is there. -/
theorem outcome_fuzzy_congr {α : Type} {first second : Option Text}
    (same : Requirement.Present first ↔ Requirement.Present second) (types : Text → FieldType)
    (name : Option Text) (predicate : FuzzyPredicate) (answer : Except Failure α) :
    outcome (Requirement.fuzzy types name { predicate with value := first }) answer =
      outcome (Requirement.fuzzy types name { predicate with value := second }) answer := by
  have value (rest : List Requirement) :
      outcome (.value first :: rest) answer = outcome (.value second :: rest) answer := by
    rw [outcome_cons, outcome_cons]
    exact if_congr same rfl rfl
  change outcome ([.field name] ++ (.value first :: _)) answer =
    outcome ([.field name] ++ (.value second :: _)) answer
  rw [outcome_append, outcome_append, value]
  rfl

/-- Without a field there is one outcome, whatever the answer would be. -/
theorem AlikeOutcome.outcome_field {α : Type} {name : Option Text} {first second : Except Failure α}
    (named : ∀ field, name = some field → AlikeOutcome first second) (rest : List Requirement) :
    AlikeOutcome (FieldSearch.outcome (.field name :: rest) first)
      (FieldSearch.outcome (.field name :: rest) second) := by
  cases name with
  | some field => exact (named field rfl).outcome _
  | none =>
    have absent : ¬(Requirement.field none).met := Compiler.present_none
    rw [outcome_cons, outcome_cons, if_neg absent, if_neg absent]
    exact .same _

end Compilation

namespace Registry

variable {schema : Schema α} {name : Option Text}

/-- Fuzzy conditions on values that differ in case at most are compiled alike. -/
theorem compile_fuzzy_of_caseVariants
    (cutsWords : ∀ field, name = some field → schema.CutsWords field) (boost : Binary64)
    (predicate : FuzzyPredicate) {first second : Text} (variants : first.CaseVariants second) :
    AlikeOutcome
      (default.compile schema.resolver schema.analysis
        ⟨boost, name, .fuzzy { predicate with value := some first }⟩)
      (default.compile schema.resolver schema.analysis
        ⟨boost, name, .fuzzy { predicate with value := some second }⟩) := by
  rw [compile_fuzzy schema.denotes_resolver, compile_fuzzy schema.denotes_resolver,
    outcome_fuzzy_congr (present_of_caseVariants variants)]
  refine AlikeOutcome.outcome_field (fun field named => ?_) _
  subst named
  exact (Schema.analysis_of_caseVariants (cutsWords field rfl) variants).map _

/-- Phrase conditions on values that differ in case at most are compiled alike. -/
theorem compile_phrase_of_caseVariants
    (cutsWords : ∀ field, name = some field → schema.CutsWords field) (boost : Binary64)
    (slop : Int) {values others : List (Option Text)}
    (variants : List.Forall₂ (Option.Rel Text.CaseVariants) values others) :
    AlikeOutcome
      (default.compile schema.resolver schema.analysis
        ⟨boost, name, .phrase ⟨some values, slop⟩⟩)
      (default.compile schema.resolver schema.analysis
        ⟨boost, name, .phrase ⟨some others, slop⟩⟩) := by
  rw [compile_phrase schema.denotes_resolver, compile_phrase schema.denotes_resolver]
  refine AlikeOutcome.outcome_field (fun field named => ?_) _
  subst named
  exact (analyzedFrom_of_caseVariants (cutsWords field rfl) variants 0).map _

/-- **Analysis ignores case.** The simple, the standard and the English analyzer, with any stop
words, find the same terms in a plain text and in its lowercase form, and so in any two plain texts
with the same lowercase form. A field with such an analyzer has the same outcome for both of them,
the same term, no term or a report of the same terms; so have a fuzzy condition on the field with
either text as its value, and a phrase condition with either text at any places. -/
theorem compile_of_caseVariants (schema : Schema α) :
    (∀ analyzer : Analyzer, analyzer.OfWords →
      (∀ text, IsPlain text → analyzer.terms (Text.lower text) = analyzer.terms text) ∧
      ∀ first second, first.CaseVariants second → analyzer.terms first = analyzer.terms second) ∧
    (∀ field, schema.CutsWords field → ∀ first second, first.CaseVariants second →
      AlikeOutcome (schema.analysis field first) (schema.analysis field second)) ∧
    ∀ field : Option Text, (∀ name, field = some name → schema.CutsWords name) →
      ∀ boost : Binary64,
      (∀ (predicate : FuzzyPredicate) (first second : Text), first.CaseVariants second →
        AlikeOutcome
          (default.compile schema.resolver schema.analysis
            ⟨boost, field, .fuzzy { predicate with value := some first }⟩)
          (default.compile schema.resolver schema.analysis
            ⟨boost, field, .fuzzy { predicate with value := some second }⟩)) ∧
      ∀ (slop : Int) (values others : List (Option Text)),
        List.Forall₂ (Option.Rel Text.CaseVariants) values others →
          AlikeOutcome
            (default.compile schema.resolver schema.analysis
              ⟨boost, field, .phrase ⟨some values, slop⟩⟩)
            (default.compile schema.resolver schema.analysis
              ⟨boost, field, .phrase ⟨some others, slop⟩⟩) := by
  refine ⟨?_, ?_, ?_⟩
  · intro analyzer ofWords
    exact ⟨fun _ => ofWords.terms_lower, fun _ _ => ofWords.terms_of_caseVariants⟩
  · intro field cutsWords first second variants
    exact Schema.analysis_of_caseVariants cutsWords variants
  · intro field cutsWords boost
    exact ⟨fun predicate _ _ => compile_fuzzy_of_caseVariants cutsWords boost predicate,
      fun slop _ _ => compile_phrase_of_caseVariants cutsWords boost slop⟩

/-- A value of which one stem is left, and a phrase whose first value has two words. -/
theorem compile_of_caseVariants_the_cities :
    ∃ schema : Schema,
      Schema.ofDeclarations [("title", .given ⟨.text, some "english"⟩)] "standard" [] =
        .ok schema ∧
      schema.analyzerFor "title" = .english englishStopWords ∧
      Text.CaseVariants "The CITIES" "the cities" ∧
      AlikeOutcome
        (default.compile schema.resolver schema.analysis
          ⟨.one, some "title", .fuzzy ⟨some "The CITIES", 1, 0, 50, true⟩⟩)
        (default.compile schema.resolver schema.analysis
          ⟨.one, some "title", .fuzzy ⟨some "the cities", 1, 0, 50, true⟩⟩) ∧
      AlikeOutcome
        (default.compile schema.resolver schema.analysis
          ⟨.one, some "title", .phrase ⟨some [some "Quick FOX", none], 0⟩⟩)
        (default.compile schema.resolver schema.analysis
          ⟨.one, some "title", .phrase ⟨some [some "quick fox", none], 0⟩⟩) := by
  have declared : ((Schema.ofDeclarations [("title", .given ⟨.text, some "english"⟩)] "standard"
      []).toOption.map fun schema => schema.analyzerFor "title") =
        some (.english englishStopWords) := by
    decide +kernel
  obtain ⟨schema, found, analyzer⟩ := Option.map_eq_some_iff.mp declared
  have cities : Text.CaseVariants "The CITIES" "the cities" :=
    ⟨by decide, by decide, by decide +kernel⟩
  have fox : Text.CaseVariants "Quick FOX" "quick fox" := ⟨by decide, by decide, by decide +kernel⟩
  have cutsWords : ∀ name, some (Text.ofString "title") = some name → schema.CutsWords name := by
    rintro name ⟨⟩
    exact ⟨_, .english englishStopWords, analyzer⟩
  obtain ⟨_, _, compiled⟩ := compile_of_caseVariants schema
  obtain ⟨fuzzy, phrase⟩ := compiled _ cutsWords .one
  exact ⟨schema, ok_of_toOption found, analyzer, cities,
    fuzzy ⟨none, 1, 0, 50, true⟩ _ _ cities, phrase 0 _ _ (.cons (.some fox) (.cons .none .nil))⟩

end Registry

end FieldSearch
