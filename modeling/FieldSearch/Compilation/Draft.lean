import FieldSearch.Condition.Basic
import FieldSearch.Query.Basic

/-!
# Drafts

A condition is compiled in two parts. First it is checked, which gives a draft; then the texts of
the draft are analyzed, which gives the query. A draft holds all that the query needs but the terms
of its texts, and the order in which the texts are analyzed can be read off it.
-/

namespace FieldSearch

/-- Turns the text of a field into the text of its term, or into null. -/
abbrev TermAnalysis := (field text : Text) → Except Failure Json

/-- A checked condition. A settled draft needs no analysis. -/
inductive Draft
  | settled (query : Query)
  | fuzzy (field value : Text) (predicate : FuzzyPredicate) (boost : Binary64)
  | phrase (field : Text) (values : List (Option Text)) (slop : Int) (boost : Binary64)

namespace Draft

/-- The texts that a draft has to have analyzed, in order, each with its field. -/
def texts : Draft → List (Text × Text)
  | .settled _ => []
  | .fuzzy field value _ _ => [(field, value)]
  | .phrase field values _ _ => (values.filterMap id).map (field, ·)

/-- The terms of the values of a phrase from the given position on. Every value takes a position,
also an absent one and one that gives no term or an empty one. -/
def phraseTerms (analyze : Text → Except Failure Json) :
    (position : Nat) → List (Option Text) → Except Failure (List PhraseTerm)
  | _, [] => .ok []
  | position, none :: values => phraseTerms analyze (position + 1) values
  | position, some value :: values => do
    let term ← analyze value
    let terms ← phraseTerms analyze (position + 1) values
    return if term.isNothing then terms else ⟨term, .int position⟩ :: terms

/-- The query of a draft. The first text whose analysis fails decides the failure. -/
def finish (analysis : TermAnalysis) : Draft → Except Failure Query
  | .settled query => .ok query
  | .fuzzy field value predicate boost => do
    let text ← analysis field value
    let clause : FuzzyClause :=
      { term := ⟨field, text⟩
        maxEdits := .int predicate.maxEdits
        prefixLength := .int predicate.prefixLength
        maxExpansions := .int predicate.maxExpansions
        transpositions := .bool predicate.transpositions }
    return ⟨.fuzzy clause, .float boost⟩
  | .phrase field values slop boost => do
    let terms ← phraseTerms (analysis field) 0 values
    return ⟨.phrase ⟨field, terms, .int slop⟩, .float boost⟩

end Draft

end FieldSearch
