import FieldSearch.Proofs.Compilation.Outcome
import FieldSearch.Proofs.Condition.Reading
import FieldSearch.Proofs.Failure
import FieldSearch.Proofs.Schema.Construction

/-!
# Compilation ends in order

A condition that a document describes, compiled against a schema, gives a query of the condition's
kind or one of five reports. Nothing else can go wrong: the type tag names the kind of the
condition, so that its own compiler is chosen, the schema answers with types of fields only, and
every analyzer that it looks up is there.
-/

namespace FieldSearch

/-- The kind of a clause. -/
def Clause.kind : Clause → Kind
  | .fuzzy _ => .fuzzy
  | .regexp _ => .regexp
  | .phrase _ => .phrase

/-- The reports that a compilation can end with. -/
inductive SearchError.OfCompilation : SearchError → Prop
  | missingField (message : Json) : OfCompilation (.missingField message)
  | missingValue (message parameter : Json) : OfCompilation (.missingValue message parameter)
  | outOfRange (message parameter value constraint : Json) :
    OfCompilation (.outOfRange message parameter value constraint)
  | unsupportedFieldType (message field fieldType queryKind : Json) :
    OfCompilation (.unsupportedFieldType message field fieldType queryKind)
  | analysis (field text terms : Json) : OfCompilation (.analysis field text terms)

/-- Requirements that are reported by reports of compilation keep a computation in order. -/
theorem EndsInOrder.outcome {α : Type} {holds : α → Prop} {answer : Except Failure α}
    {requirements : List Requirement}
    (known : ∀ requirement ∈ requirements, requirement.report.OfCompilation)
    (ends : EndsInOrder SearchError.OfCompilation holds answer) :
    EndsInOrder SearchError.OfCompilation holds (outcome requirements answer) := by
  rcases outcome_eq requirements answer with same | ⟨unmet, member, failed⟩
  · rw [same]
    exact ends
  · rw [failed]
    exact .report unmet.report (known unmet member)

/-! ## Reports of requirements -/

namespace Requirement

variable (types : Text → FieldType) (name : Option Text)

/-- What a fuzzy condition has to meet is reported by reports of compilation. -/
theorem ofCompilation_fuzzy (predicate : FuzzyPredicate) :
    ∀ requirement ∈ fuzzy types name predicate, requirement.report.OfCompilation := by
  simp only [fuzzy, numbers, List.cons_append, List.nil_append, List.forall_mem_cons]
  exact ⟨.missingField _, .missingValue _ _, .outOfRange _ _ _ _, .outOfRange _ _ _ _,
    .outOfRange _ _ _ _, .unsupportedFieldType _ _ _ _, List.forall_mem_nil _⟩

/-- What a condition with a pattern has to meet is reported by reports of compilation. -/
theorem ofCompilation_regexp (pattern : Option Text) :
    ∀ requirement ∈ regexp types name pattern, requirement.report.OfCompilation := by
  simp only [regexp, List.forall_mem_cons]
  exact ⟨.missingField _, .missingValue _ _, .unsupportedFieldType _ _ _ _, List.forall_mem_nil _⟩

/-- What a phrase condition has to meet is reported by reports of compilation. -/
theorem ofCompilation_phrase (predicate : PhrasePredicate) :
    ∀ requirement ∈ phrase types name predicate, requirement.report.OfCompilation := by
  simp only [phrase, List.forall_mem_cons]
  exact ⟨.missingField _, .missingValue _ _, .outOfRange _ _ _ _, .unsupportedFieldType _ _ _ _,
    List.forall_mem_nil _⟩

end Requirement

/-! ## Schemas -/

/-- A built-in analyzer gives one term or none, or reports that it finds several. -/
theorem Analyzer.endsInOrder_term? (analyzer : Analyzer) (field text : Text) :
    EndsInOrder SearchError.OfCompilation (fun _ => True)
      (TextAnalyzer.term? analyzer field text) := by
  rw [term?_eq]
  split
  · exact .answer none trivial
  · exact .answer (some _) trivial
  · exact .report _ (.analysis _ _ _)

/-- A schema with built-in analyzers analyzes texts in order. -/
theorem Schema.endsInOrder_analysis (schema : Schema) (field text : Text) :
    EndsInOrder SearchError.OfCompilation (fun _ => True) (schema.analysis field text) :=
  .map ((schema.analyzerFor field).endsInOrder_term? field text)

/-- The type of a field in a schema; a field that it does not declare is a text. -/
def Schema.typeOf {α : Type} (schema : Schema α) (field : Text) : FieldType :=
  (schema.fieldType? field).getD .text

/-- A schema answers with the type of the field. -/
theorem Schema.denotes_resolver {α : Type} (schema : Schema α) (field : Text) :
    (schema.resolver field).Denotes (schema.typeOf field) := by
  rw [resolver, typeOf]
  cases schema.fieldType? field with
  | none => exact .unknown
  | some fieldType => exact .declared fieldType

/-! ## Compilation -/

namespace Registry

variable {resolver : TypeResolver} {types : Text → FieldType} {analysis : TermAnalysis}

/-- Compilation is as orderly as the analysis of terms. -/
theorem endsInOrder_compile (denotes : ∀ field, (resolver field).Denotes (types field))
    (analyzed : ∀ field text,
      EndsInOrder SearchError.OfCompilation (fun _ => True) (analysis field text))
    {condition : Condition} {kind : Kind} (kinded : condition.predicate.kind? = some kind) :
    EndsInOrder SearchError.OfCompilation (·.clause.kind = kind)
      (default.compile resolver analysis condition) := by
  obtain ⟨boost, field, predicate⟩ := condition
  cases predicate with
  | plain tag => cases kinded
  | fuzzy predicate =>
    cases kinded
    rw [compile_fuzzy denotes]
    refine .outcome (Requirement.ofCompilation_fuzzy types field predicate) (.map ?_)
    exact (analyzed _ _).mono fun _ _ => rfl
  | regexp pattern =>
    cases kinded
    rw [compile_regexp denotes]
    exact .outcome (Requirement.ofCompilation_regexp types field pattern) (.answer _ rfl)
  | phrase predicate =>
    cases kinded
    rw [compile_phrase denotes]
    refine .outcome (Requirement.ofCompilation_phrase types field predicate) (.map ?_)
    have terms : EndsInOrder SearchError.OfCompilation (fun _ => True)
        (analyzedFrom (analysis (field.getD [])) 0 (predicate.values.getD [])) :=
      .mapM fun entry _ => .map (analyzed _ entry.1)
    exact terms.mono fun _ _ => rfl

/-- **Only a query of the condition's kind or a report of compilation.** Take any condition that a
document describes and any schema that can be built. The condition has a kind, and the compiler of
that kind is chosen for it. Compiled against the schema it gives a query of its kind or one of the
five reports. The schema gives every field a type, and under the name of the analyzer that it looks
up it has one. -/
theorem compile_endsInOrder {custom : List (Text × Analyzer)} {schema : Schema}
    (built : schema.Built custom) {document : Json} {condition : Condition}
    (read : Condition.ofDocument document = .ok condition) :
    (∃ kind, condition.predicate.kind? = some kind ∧
      default.compilerFor condition = .ok (.builtIn kind) ∧
      EndsInOrder SearchError.OfCompilation (·.clause.kind = kind)
        (default.compile schema.resolver schema.analysis condition)) ∧
    ∀ field, (∃ fieldType, (schema.resolver field).Denotes fieldType) ∧
      (Analyzer.builtIn.putAll custom).find? (schema.analyzerName field) =
        some (schema.analyzerFor field) := by
  obtain ⟨⟨kind, kinded⟩, _⟩ := Condition.isNormal_of_ofDocument read
  refine ⟨⟨kind, kinded, compilerFor_default kinded, ?_⟩, fun field => ⟨?_, ?_⟩⟩
  · exact endsInOrder_compile schema.denotes_resolver schema.endsInOrder_analysis kinded
  · exact ⟨schema.typeOf field, schema.denotes_resolver field⟩
  · rw [← TextAnalyzer.builtIn_eq, ← built.analyzers_eq]
    exact schema.find?_analyzerName field

/-- A fuzzy condition on two words, against a schema whose default analyzer is a custom one. -/
theorem compile_endsInOrder_two_words :
    ∃ schema : Schema, schema.Built [("bare", .whitespace)] ∧
      EndsInOrder SearchError.OfCompilation (·.clause.kind = .fuzzy)
        (default.compile schema.resolver schema.analysis
          ⟨.one, some "name", .fuzzy ⟨some "a b", 2, 0, 50, true⟩⟩) := by
  have described : (Schema.ofDocument
      (.obj [("default_analyzer", .str "bare")]) [("bare", .whitespace)]).toOption.isSome := by
    decide +kernel
  obtain ⟨schema, found⟩ := Option.isSome_iff_exists.mp described
  have built : schema.Built [("bare", .whitespace)] := .described _ (ok_of_toOption found)
  have read : (Condition.ofDocument (.obj [("type", .str "Fuzzy"), ("field", .str "Name"),
      ("value", .str "a b")])).toOption =
        some ⟨.one, some "name", .fuzzy ⟨some "a b", 2, 0, 50, true⟩⟩ := by
    decide +kernel
  obtain ⟨⟨kind, kinded, _, ends⟩, _⟩ := compile_endsInOrder built (ok_of_toOption read)
  cases kinded
  exact ⟨schema, built, ends⟩

end Registry

end FieldSearch
