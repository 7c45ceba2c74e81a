import FieldSearch.Proofs.Analysis.WordTerm
import FieldSearch.Proofs.Compilation.Safety

/-!
# One value, fuzzy or as a phrase

A fuzzy condition and a phrase condition on one value of a field put the same value to the same
analyzer. Null says to the one that the value has no term, and an empty term would say the same to
the other, but no analyzer gives an empty term. The two are refused alike, or compiled with the same
term or without one.
-/

namespace FieldSearch

/-- The numbers of a fuzzy predicate are in their ranges. -/
structure FuzzyPredicate.InRange (predicate : FuzzyPredicate) : Prop where
  maxEdits : 0 ≤ predicate.maxEdits ∧ predicate.maxEdits ≤ 2
  prefixLength : 0 ≤ predicate.prefixLength
  maxExpansions : 0 ≤ predicate.maxExpansions

/-! ## What is left to require -/

section Requirements

variable {α : Type} {types : Text → FieldType} {name : Option Text} {value : Text}
  {answer : Except Failure α}

/-- The field of a condition and its type. -/
def Requirement.fieldOf (kind : Kind) (types : Text → FieldType) (name : Option Text) :
    List Requirement :=
  [field name, characters kind (name.getD []) (types (name.getD []))]

/-- Requirements that are met decide nothing. -/
theorem outcome_of_met {requirements : List Requirement}
    (met : ∀ requirement ∈ requirements, requirement.met) :
    outcome requirements answer = answer := by
  induction requirements with
  | nil => rfl
  | cons requirement rest ih =>
    obtain ⟨own, others⟩ := List.forall_mem_cons.mp met
    rw [outcome_cons, if_pos own, ih others]

/-- Requirements that are met can be left out. -/
theorem outcome_middle_of_met (first last : List Requirement) {middle : List Requirement}
    (met : ∀ requirement ∈ middle, requirement.met) :
    outcome (first ++ (middle ++ last)) answer = outcome (first ++ last) answer := by
  rw [outcome_append, outcome_append, outcome_of_met met, ← outcome_append]

/-- With a value and numbers in their ranges only the field is left to decide. -/
theorem outcome_fuzzy {predicate : FuzzyPredicate} (inRange : predicate.InRange)
    (valued : predicate.value = some value) (given : Text.isBlank value = false) :
    outcome (Requirement.fuzzy types name predicate) answer =
      outcome (Requirement.fieldOf .fuzzy types name) answer := by
  have present : Requirement.Present predicate.value :=
    valued ▸ (Compiler.present_some_iff value).mpr given
  have met : ∀ requirement ∈ Requirement.value predicate.value :: Requirement.numbers predicate,
      requirement.met := by
    simp only [Requirement.numbers, List.forall_mem_cons]
    exact ⟨present, inRange.maxEdits, inRange.prefixLength, inRange.maxExpansions,
      List.forall_mem_nil _⟩
  exact outcome_middle_of_met [.field name] [.characters .fuzzy _ _] met

/-- A phrase with a slop in its range only has to meet the requirements of its field. -/
theorem outcome_phrase {values : List (Option Text)} {slop : Int} (inRange : 0 ≤ slop) :
    outcome (Requirement.phrase types name ⟨some values, slop⟩) answer =
      outcome (Requirement.fieldOf .phrase types name) answer := by
  have met : ∀ requirement ∈ [Requirement.values (some values), .slop slop], requirement.met := by
    simp only [List.forall_mem_cons]
    exact ⟨rfl, inRange, List.forall_mem_nil _⟩
  exact outcome_middle_of_met [.field name] [.characters .phrase _ _] met

/-- A missing field is reported before its type. -/
theorem outcome_fieldOf_of_absent {kind : Kind} (absent : ¬Requirement.Present name) :
    outcome (Requirement.fieldOf kind types name) answer =
      .error (.reported (.missingField (.str "Field name required"))) := by
  rw [Requirement.fieldOf, outcome_cons]
  exact if_neg absent

/-- The type of a field that is there decides. -/
theorem outcome_fieldOf_of_present {kind : Kind} {field : Text}
    (present : Requirement.Present (some field)) :
    outcome (Requirement.fieldOf kind types (some field)) answer =
      if (types field).isCharSequence then answer
      else .error (.reported (.unsupportedFieldType
        (.str (Compiler.unsupported kind field (types field))) (.str field)
        (.str (types field).name) (.str kind.name))) := by
  have met : (Requirement.field (some field)).met := present
  rw [Requirement.fieldOf, outcome_cons, if_pos met, outcome_cons, outcome_nil]
  simp only [Compiler.isCharSequence_iff]
  rfl

/-- A phrase of one value has the term of the value at its first position. -/
theorem analyzedFrom_singleton (analyze : Text → Except Failure Json) (value : Text) :
    analyzedFrom analyze 0 [some value] = (analyze value).map fun term => [⟨term, .int 0⟩] := by
  rw [analyzedFrom_cons_some]
  cases analyze value <;> rfl

end Requirements

/-! ## Agreement -/

/-- How a fuzzy and a phrase condition on one value of a field come out. -/
inductive Schema.AgreeOn (schema : Schema) (name : Option Text) (value : Text) :
    Except Failure Query → Except Failure Query → Prop
  | missingField (message : Json) (absent : ¬Requirement.Present name) :
    AgreeOn schema name value (.error (.reported (.missingField message)))
      (.error (.reported (.missingField message)))
  | unsupported {field : Text} (named : name = some field) {fieldType : FieldType}
    (typed : schema.fieldType? field = some fieldType) (unfit : fieldType.isCharSequence = false)
    (message other : Json) :
    AgreeOn schema name value
      (.error (.reported (.unsupportedFieldType message (.str field) (.str fieldType.name)
        (.str Kind.fuzzy.name))))
      (.error (.reported (.unsupportedFieldType other (.str field) (.str fieldType.name)
        (.str Kind.phrase.name))))
  | several {field : Text} (named : name = some field) {terms : List Text}
    (found : (schema.analyzerFor field).terms value = terms) (many : 2 ≤ terms.length) :
    AgreeOn schema name value
      (.error (.reported (.analysis (.str field) (.str value) (.arr (terms.map .str)))))
      (.error (.reported (.analysis (.str field) (.str value) (.arr (terms.map .str)))))
  | term {field term : Text} (named : name = some field)
    (found : (schema.analyzerFor field).terms value = [term]) (nonempty : term ≠ [])
    {fuzzy : FuzzyClause} {phrase : PhraseClause} (sought : fuzzy.term = ⟨field, .str term⟩)
    (field_eq : phrase.field = field) (placed : phrase.terms = [⟨.str term, .int 0⟩])
    (boost other : Json) :
    AgreeOn schema name value (.ok ⟨.fuzzy fuzzy, boost⟩) (.ok ⟨.phrase phrase, other⟩)
  | none {field : Text} (named : name = some field)
    (found : (schema.analyzerFor field).terms value = [])
    {fuzzy : FuzzyClause} {phrase : PhraseClause} (sought : fuzzy.term = ⟨field, .null⟩)
    (field_eq : phrase.field = field) (placed : phrase.terms = []) (boost other : Json) :
    AgreeOn schema name value (.ok ⟨.fuzzy fuzzy, boost⟩) (.ok ⟨.phrase phrase, other⟩)

namespace Schema

variable {schema : Schema} {field value : Text}

/-- A type that is not of characters is a declared one. -/
theorem fieldType?_of_unfit (unfit : (schema.typeOf field).isCharSequence = false) :
    schema.fieldType? field = some (schema.typeOf field) := by
  rw [typeOf] at unfit ⊢
  cases typed : schema.fieldType? field with
  | none =>
    rw [typed] at unfit
    cases unfit
  | some fieldType => rfl

/-- Compiled for a field of characters, a value comes out as its terms do. -/
theorem agreeOn_of_terms (schema : Schema) (field value : Text) (boost other : Binary64)
    (predicate : FuzzyPredicate) (slop : Int) :
    schema.AgreeOn (some field) value
      ((schema.analysis field value).map (fuzzyQuery boost field predicate))
      ((analyzedFrom (schema.analysis field) 0 [some value]).map
        (phraseQuery other field slop)) := by
  rw [analyzedFrom_singleton, analysis, term?, Analyzer.term?_eq]
  split
  next found => exact .none rfl found rfl rfl rfl _ _
  next term found =>
    have nonempty : term ≠ [] :=
      Analyzer.ne_nil_of_mem_terms (found ▸ List.mem_singleton_self term)
    have something : (!(Json.ofText? (some term)).isNothing) = true := by
      simpa [Json.ofText?, Json.isNothing] using nonempty
    refine .term rfl found nonempty rfl rfl ?_ _ _
    exact List.filter_eq_self.mpr (List.forall_mem_singleton.mpr something)
  next terms notNone notOne =>
    refine .several rfl rfl ?_
    cases found : (schema.analyzerFor field).terms value with
    | nil => exact absurd found notNone
    | cons term rest =>
      cases rest with
      | nil => exact absurd found (notOne term)
      | cons second others => exact Nat.le_add_left 2 others.length

/-- **One value comes out alike, fuzzy or as a phrase.** A fuzzy condition and a phrase condition on
one value that is not blank, with their numbers in their ranges, are compiled against a schema for
one field. Both report a missing field, both report the type of the field, or both report the same
terms of the value when there are several. Otherwise the fuzzy query has the one term of the value,
which is not empty, and the phrase has this term at its first position and no other; or the fuzzy
query has no term, and nor has the phrase. -/
theorem compile_agreeOn (schema : Schema) (field : Option Text) (given : Text.isBlank value = false)
    {predicate : FuzzyPredicate} (valued : predicate.value = some value)
    (inRange : predicate.InRange) {slop : Int} (slopInRange : 0 ≤ slop) (boost other : Binary64) :
    schema.AgreeOn (field.map Text.lower) value
      (Registry.default.compile schema.resolver schema.analysis
        ⟨boost, field.map Text.lower, .fuzzy predicate⟩)
      (Registry.default.compile schema.resolver schema.analysis
        ⟨other, field.map Text.lower, .phrase ⟨some [some value], slop⟩⟩) := by
  rw [Registry.compile_fuzzy schema.denotes_resolver,
    Registry.compile_phrase schema.denotes_resolver, outcome_fuzzy inRange valued given,
    outcome_phrase slopInRange, valued]
  generalize field.map Text.lower = name
  by_cases present : Requirement.Present name
  · obtain ⟨field, ⟨⟩, _⟩ := id present
    rw [outcome_fieldOf_of_present present, outcome_fieldOf_of_present present]
    cases fits : (schema.typeOf field).isCharSequence with
    | true =>
      rw [if_pos rfl, if_pos rfl]
      exact schema.agreeOn_of_terms field value boost other predicate slop
    | false => exact .unsupported rfl (fieldType?_of_unfit fits) fits _ _
  · rw [outcome_fieldOf_of_absent present, outcome_fieldOf_of_absent present]
    exact .missingField _ present

/-- A value of which the English analyzer leaves one word, as a stem. -/
theorem compile_agreeOn_the_cities :
    ∃ schema : Schema,
      ofDeclarations [("Title", .given ⟨.text, some "english"⟩)] "standard" [] = .ok schema ∧
      (schema.analyzerFor (Text.lower "TITLE")).terms "The Cities" = [Text.ofString "city"] ∧
      schema.AgreeOn (some (Text.lower "TITLE")) "The Cities"
        (Registry.default.compile schema.resolver schema.analysis
          ⟨.one, some (Text.lower "TITLE"), .fuzzy ⟨some "The Cities", 1, 0, 50, true⟩⟩)
        (Registry.default.compile schema.resolver schema.analysis
          ⟨.one, some (Text.lower "TITLE"), .phrase ⟨some [some "The Cities"], 0⟩⟩) := by
  have declared : ((ofDeclarations [("Title", .given ⟨.text, some "english"⟩)] "standard"
      []).toOption.map fun schema =>
        (schema.analyzerFor (Text.lower "TITLE")).terms "The Cities") =
          some [Text.ofString "city"] := by
    decide +kernel
  obtain ⟨schema, found, terms⟩ := Option.map_eq_some_iff.mp declared
  have inRange : FuzzyPredicate.InRange ⟨some "The Cities", 1, 0, 50, true⟩ :=
    ⟨by decide, by decide, by decide⟩
  exact ⟨schema, ok_of_toOption found, terms,
    schema.compile_agreeOn (some "TITLE") (by decide) rfl inRange (by decide) .one .one⟩

end Schema

end FieldSearch
