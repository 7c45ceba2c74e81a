import FieldSearch.Proofs.Analysis.RunTerm
import FieldSearch.Proofs.Analysis.WordTerm

/-!
# Terms read again

A term of an index may come back as the value of a search. The analyzers that only cut and lower
texts find each of their terms again, and all of them in their join, unless the text has a dotted
capital: its form ends with a combining dot, which belongs to no word. The English analyzer leaves
stop words out before it takes stems, so that a stem may be a stop word itself. Such a term is not
found again.
-/

namespace FieldSearch

open Text (Undotted combiningDot)

namespace Analyzer

variable {text term : Text} {stopWords : List Text}

/-! ## Analyzers that cut and lower -/

/-- An analyzer that takes no stems, with a text that it normalizes in one pass. -/
inductive NormalizesAtOnce : Analyzer → Text → Prop
  | whitespace (text : Text) : NormalizesAtOnce .whitespace text
  | simple {text : Text} (undotted : Undotted text) : NormalizesAtOnce .simple text
  | standard (stopWords : List Text) {text : Text} (undotted : Undotted text) :
    NormalizesAtOnce (.standard stopWords) text

/-- An analyzer that normalizes at once keeps its own terms. -/
theorem NormalizesAtOnce.keeps {analyzer : Analyzer} (normalizes : analyzer.NormalizesAtOnce text)
    (member : term ∈ analyzer.terms text) : analyzer.Keeps term := by
  have nonempty := ne_nil_of_mem_terms member
  obtain ⟨run, found, made⟩ := exists_run_of_mem_terms member
  cases normalizes with
  | whitespace =>
    cases made
    exact ⟨nonempty, Text.forall_of_mem_runs found, rfl⟩
  | simple undotted =>
    cases made
    refine ⟨nonempty, Text.ignoresCase_isWordLetter.forall_mem_lower_run undotted found, ?_⟩
    exact congrArg some (Text.lower_lower run)
  | standard stopWords undotted =>
    obtain ⟨rfl, kept⟩ := wordOfRun?_eq_some_iff.mp made
    refine ⟨nonempty, Text.ignoresCase_isWordChar.forall_mem_lower_run undotted found, ?_⟩
    exact wordOfRun?_eq_some_iff.mpr ⟨Text.lower_lower run, kept⟩

/-- Analyzers that normalize at once take no blanks. -/
theorem NormalizesAtOnce.takes_blank {analyzer : Analyzer}
    (normalizes : analyzer.NormalizesAtOnce text) : analyzer.takes (.char ' ') = false := by
  have blank : (!Text.isBlankChar ' ') = false := by decide +kernel
  have letter : Text.isWordLetter ' ' = false := by decide +kernel
  have word : Text.isWordChar ' ' = false := by decide +kernel
  cases normalizes with
  | whitespace => exact blank
  | simple undotted => exact letter
  | standard stopWords undotted => exact word

/-- **Texts are normalized in one pass.** Let a text be analyzed at blanks, or let a text without
dotted capitals be analyzed into letters or into words without stop words. Its terms are not empty,
each of them is analyzed into itself, and their join with blanks is analyzed into them, in the same
order. -/
theorem terms_of_terms {analyzer : Analyzer} (normalizes : analyzer.NormalizesAtOnce text) :
    (∀ term ∈ analyzer.terms text, term ≠ [] ∧ analyzer.terms term = [term]) ∧
      analyzer.terms (Text.join " " (analyzer.terms text)) = analyzer.terms text := by
  constructor
  · intro term member
    have keeps := normalizes.keeps member
    exact ⟨keeps.nonempty, keeps.terms_eq⟩
  · have outside : ∀ point ∈ Text.ofString " ", ¬analyzer.takes point :=
      List.forall_mem_singleton.mpr (ne_true_of_eq_false normalizes.takes_blank)
    exact terms_join (fun term => normalizes.keeps) (List.cons_ne_nil _ _) outside

/-- Two words that end with a sigma, with a stop word between them. -/
theorem terms_of_terms_odos :
    Undotted "ΟΔΟΣ, and ΝΗΣΟΣ!" ∧
      (standard ["and"]).terms "ΟΔΟΣ, and ΝΗΣΟΣ!" = ["οδος", "νησος"].map Text.ofString ∧
      (standard ["and"]).terms "οδος" = [Text.ofString "οδος"] ∧
      (standard ["and"]).terms "οδος νησος" = ["οδος", "νησος"].map Text.ofString := by
  have undotted : Undotted "ΟΔΟΣ, and ΝΗΣΟΣ!" := by decide
  have terms : (standard ["and"]).terms "ΟΔΟΣ, and ΝΗΣΟΣ!" =
      ["οδος", "νησος"].map Text.ofString := by
    decide +kernel
  have join : Text.join " " (["οδος", "νησος"].map Text.ofString) = Text.ofString "οδος νησος" := by
    decide +kernel
  obtain ⟨each, joined⟩ := terms_of_terms (.standard ["and"] undotted)
  rw [terms] at each joined
  rw [join] at joined
  exact ⟨undotted, terms, (each "οδος" (by simp)).2, joined⟩

/-! ## Stems -/

/-- A term of the English analyzer is the stem of a run of word characters in lower case. -/
theorem exists_run_of_mem_english (member : term ∈ (english stopWords).terms text) :
    ∃ run ∈ text.runs (·.isIn Text.isWordChar), stemPlural (Text.lower run) = term := by
  obtain ⟨run, found, made⟩ := exists_run_of_mem_terms member
  obtain ⟨word, ofRun, rfl⟩ := Option.map_eq_some_iff.mp made
  exact ⟨run, found, congrArg stemPlural (wordOfRun?_eq_some_iff.mp ofRun).1⟩

/-- A stem is lowercase, as its word is. -/
theorem lower_of_mem_english (member : term ∈ (english stopWords).terms text) :
    Text.lower term = term := by
  obtain ⟨run, _, rfl⟩ := exists_run_of_mem_english member
  apply Text.lowerAfter_eq_self
  intro point inStem
  rcases mem_or_eq_of_mem_stemPlural inStem with inWord | rfl
  · exact Text.isLower_of_mem_lowerAfter inWord
  · exact ⟨by decide, by decide +kernel⟩

/-- A term of the English analyzer is its own stem. -/
theorem stemPlural_of_mem_english (member : term ∈ (english stopWords).terms text) :
    stemPlural term = term := by
  obtain ⟨run, _, rfl⟩ := exists_run_of_mem_english member
  exact stemPlural_stemPlural (Text.lower run)

/-- Without dotted capitals a stem is made of word characters, as its word is. -/
theorem forall_isWordChar_of_mem_english (undotted : Undotted text)
    (member : term ∈ (english stopWords).terms text) :
    ∀ point ∈ term, point.isIn Text.isWordChar := by
  obtain ⟨run, found, rfl⟩ := exists_run_of_mem_english member
  intro point inStem
  rcases mem_or_eq_of_mem_stemPlural inStem with inWord | rfl
  · exact Text.ignoresCase_isWordChar.forall_mem_lower_run undotted found point inWord
  · decide +kernel

/-- Without dotted capitals in the text no combining dot gets into a term. -/
theorem combiningDot_notMem_of_mem_english (undotted : Undotted text)
    (member : term ∈ (english stopWords).terms text) : .char combiningDot ∉ term := by
  intro dotted
  have word := forall_isWordChar_of_mem_english undotted member _ dotted
  exact absurd word (by decide +kernel)

/-- What becomes of a stem without combining dots: it is a word, which is kept unless it is a stop
word. -/
theorem terms_of_mem_english (member : term ∈ (english stopWords).terms text)
    (undotted : .char combiningDot ∉ term) :
    (english stopWords).terms term = if term ∈ stopWords then [] else [term] := by
  have inside : ∀ point ∈ term, (english stopWords).takes point := by
    intro point inTerm
    rcases (OfWords.english stopWords).isWordTerm member |>.points point inTerm with word | rfl
    · exact word
    · exact absurd inTerm undotted
  rw [terms_of_forall_takes (ne_nil_of_mem_terms member) inside, termOfRun?]
  split
  next stopped =>
    have none : wordOfRun? stopWords term = none := by
      apply Option.eq_none_iff_forall_ne_some.mpr
      intro word made
      obtain ⟨rfl, kept⟩ := wordOfRun?_eq_some_iff.mp made
      rw [lower_of_mem_english member] at kept
      exact kept stopped
    rw [none]
    rfl
  next kept =>
    rw [wordOfRun?_eq_some_iff.mpr ⟨lower_of_mem_english member, kept⟩, Option.map_some,
      stemPlural_of_mem_english member]
    rfl

/-- **When a stem is found again.** A term of the English analyzer, with any stop words, is analyzed
into itself exactly when it is no stop word and has no combining dot. A stop word without a
combining dot has no terms. A text without dotted capitals has no term with a combining dot. -/
theorem english_terms_self_iff (member : term ∈ (english stopWords).terms text) :
    ((english stopWords).terms term = [term] ↔
      term ∉ stopWords ∧ .char combiningDot ∉ term) ∧
    (term ∈ stopWords → .char combiningDot ∉ term → (english stopWords).terms term = []) ∧
    (Undotted text → .char combiningDot ∉ term) := by
  refine ⟨⟨?_, ?_⟩, ?_, fun undotted => combiningDot_notMem_of_mem_english undotted member⟩
  · intro same
    have again : term ∈ (english stopWords).terms term := same ▸ List.mem_singleton_self term
    have undotted : Undotted term := lower_of_mem_english member ▸ Text.undotted_lower term
    have noDot := combiningDot_notMem_of_mem_english undotted again
    rw [terms_of_mem_english member noDot] at same
    exact ⟨fun stopped => by simp [stopped] at same, noDot⟩
  · rintro ⟨kept, noDot⟩
    rw [terms_of_mem_english member noDot, if_neg kept]
  · intro stopped noDot
    rw [terms_of_mem_english member noDot, if_pos stopped]

/-- A stem that is found again. -/
theorem english_terms_self_query :
    Text.ofString "query" ∈ (english englishStopWords).terms "The Queries of Cats" ∧
      (english englishStopWords).terms "query" = [Text.ofString "query"] := by
  have member : Text.ofString "query" ∈
      (english englishStopWords).terms "The Queries of Cats" := by
    decide +kernel
  refine ⟨member, (english_terms_self_iff member).1.mpr ⟨by decide, by decide⟩⟩

/-- A stem that is a stop word, and a word with a dotted capital: neither is found again. -/
theorem not_english_terms_self_its :
    (Text.ofString "it" ∈ (english englishStopWords).terms "its" ∧
      Text.ofString "it" ∈ englishStopWords ∧ (english englishStopWords).terms "it" = []) ∧
    Text.ofString "i\u0307zmir" ∈ (english englishStopWords).terms "\u0130zmir" ∧
      (english englishStopWords).terms "i\u0307zmir" = ["i", "zmir"].map Text.ofString := by
  decide +kernel

end Analyzer

end FieldSearch
