import FieldSearch.Analysis.Stem
import FieldSearch.Entries
import FieldSearch.Failure
import FieldSearch.Text.Blank
import FieldSearch.Text.Lowercase
import FieldSearch.Text.Runs
import FieldSearch.Text.Word

/-!
# Analyzers

An analyzer turns a text into the terms that an index stores for it. A condition's text goes
through the analyzer of its field, so that it meets the terms of the index; it has to come out as
one term or none. Besides the built-in analyzers there can be analyzers of any make: a schema asks
of an analyzer only for its terms.
-/

namespace FieldSearch

/-- The built-in ways of turning a text into terms. -/
inductive Analyzer
  | keyword
  | whitespace
  | simple
  | standard (stopWords : List Text)
  | english (stopWords : List Text)
deriving DecidableEq, Repr

/-- Frequent English words that carry no meaning in a search, in order. -/
def englishStopWords : List Text :=
  ["a", "an", "and", "are", "as", "at", "be", "but", "by", "for", "if", "in", "into", "is", "it",
   "no", "not", "of", "on", "or", "such", "that", "the", "their", "then", "there", "these", "they",
   "this", "to", "was", "will", "with"].map Text.ofString

namespace Analyzer

/-- The name of an analyzer's way of turning texts into terms. -/
def name : Analyzer → Text
  | .keyword => "keyword"
  | .whitespace => "whitespace"
  | .simple => "simple"
  | .standard _ => "standard"
  | .english _ => "english"

/-- The words of a text in lower case without the stop words. -/
def standardTerms (stopWords : List Text) (text : Text) : List Text :=
  ((text.runs (·.isIn Text.isWordChar)).map Text.lower).filter (!stopWords.contains ·)

/-- The terms of a text, in order. A keyword is the whole text, unless it is empty. Runs without
blanks keep their case; runs of letters and words are put in lower case, each on its own, before
stop words are left out and stems are taken. -/
def terms : Analyzer → Text → List Text
  | .keyword, text => if text.isEmpty then [] else [text]
  | .whitespace, text => text.runs (!·.isIn Text.isBlankChar)
  | .simple, text => (text.runs (·.isIn Text.isWordLetter)).map Text.lower
  | .standard stopWords, text => standardTerms stopWords text
  | .english stopWords, text => (standardTerms stopWords text).map stemPlural

/-- The built-in analyzers under their names. -/
def builtIn : Entries Analyzer :=
  [.standard [], .english englishStopWords, .simple, .whitespace, .keyword].map
    fun analyzer => (analyzer.name, analyzer)

end Analyzer

/-- What schemas ask of analyzers. The built-in ones are among them, with their names and terms. -/
class TextAnalyzer (α : Type) where
  /-- A built-in analyzer. -/
  ofBuiltIn : Analyzer → α
  /-- The name that an analyzer gives itself. -/
  name : α → Text
  /-- The terms of a text, in order, unless the analyzer fails on it. -/
  terms : α → Text → Except Failure (List Text)
  name_ofBuiltIn (analyzer : Analyzer) : name (ofBuiltIn analyzer) = analyzer.name
  terms_ofBuiltIn (analyzer : Analyzer) (text : Text) :
    terms (ofBuiltIn analyzer) text = .ok (analyzer.terms text)

@[default_instance]
instance : TextAnalyzer Analyzer where
  ofBuiltIn := id
  name := Analyzer.name
  terms analyzer text := .ok (analyzer.terms text)
  name_ofBuiltIn _ := rfl
  terms_ofBuiltIn _ _ := rfl

/-- An analyzer of any make: it may have any name and find any terms in a text, or fail. -/
structure CustomAnalyzer where
  name : Text
  terms : Text → Except Failure (List Text)

instance : TextAnalyzer CustomAnalyzer where
  ofBuiltIn analyzer := ⟨analyzer.name, fun text => .ok (analyzer.terms text)⟩
  name := CustomAnalyzer.name
  terms := CustomAnalyzer.terms
  name_ofBuiltIn _ := rfl
  terms_ofBuiltIn _ _ := rfl

namespace TextAnalyzer

variable {α : Type} [TextAnalyzer α]

/-- The analyzers that every schema has, under their names. -/
def builtIn : Entries α :=
  Analyzer.builtIn.map fun (name, analyzer) => (name, ofBuiltIn analyzer)

/-- Where there are no others, they are the built-in ones themselves. -/
theorem builtIn_eq : (builtIn : Entries Analyzer) = Analyzer.builtIn :=
  rfl

/-- Their names are the same among analyzers of any make. -/
theorem names_builtIn : Entries.names (builtIn : Entries α) = Entries.names Analyzer.builtIn :=
  rfl

/-- The one term of a text, or none if it has no terms. Several terms are refused. -/
def term? (analyzer : α) (field text : Text) : Except Failure (Option Text) := do
  match ← terms analyzer text with
  | [] => return none
  | [term] => return some term
  | terms =>
    throw (.reported (.analysis (.str field) (.str text) (.arr (terms.map .str))))

/-- A built-in analyzer fails on no text, so that the number of its terms decides. -/
theorem term?_ofBuiltIn (analyzer : Analyzer) (field text : Text) :
    term? (ofBuiltIn analyzer : α) field text =
      match analyzer.terms text with
      | [] => .ok none
      | [term] => .ok (some term)
      | terms =>
        .error (.reported (.analysis (.str field) (.str text) (.arr (terms.map .str)))) := by
  rw [term?, terms_ofBuiltIn]
  rfl

end TextAnalyzer

/-- The number of its terms decides on the term of a text. -/
theorem Analyzer.term?_eq (analyzer : Analyzer) (field text : Text) :
    TextAnalyzer.term? analyzer field text =
      match analyzer.terms text with
      | [] => .ok none
      | [term] => .ok (some term)
      | terms =>
        .error (.reported (.analysis (.str field) (.str text) (.arr (terms.map .str)))) :=
  TextAnalyzer.term?_ofBuiltIn analyzer field text

end FieldSearch
