import FieldSearch.Proofs.Compilation.Locality
import FieldSearch.Proofs.Condition.FieldName
import FieldSearch.Proofs.Schema.AnalyzerLookup
import FieldSearch.Proofs.Schema.Declared
import FieldSearch.Proofs.Text.Order

/-!
# The case of field names

A schema knows a field by its last declaration, whatever the case of the names there. A condition is
compiled with that declaration only: the type of the field and the analyzer of its texts are those
of the declared mapping.
-/

namespace FieldSearch

open Condition (DescribedBy withField)

/-- What is answered about the type of a field that may have a mapping. -/
def TypeAnswer.ofMapping? : Option FieldMapping → TypeAnswer
  | some mapping => .declared mapping.fieldType
  | none => .unknown

/-- The name of the analyzer of a field that may have a mapping: the one that the mapping gives, or
the default if it gives none or an empty one. -/
def FieldMapping.analyzerNameOf (defaultAnalyzer : Text) (mapping : Option FieldMapping) : Text :=
  ((mapping.bind (·.analyzer)).filter (· ≠ [])).getD defaultAnalyzer

variable {α : Type}

/-- The analysis of all fields by one analyzer. -/
def TextAnalyzer.analysis [TextAnalyzer α] (analyzer : α) : TermAnalysis := fun field text =>
  (term? analyzer field text).map Json.ofText?

namespace Schema

/-- The mapping that the last declaration of a field stands for. -/
def lastMapping? (declarations : List (Text × Declaration)) (field : Text) : Option FieldMapping :=
  (lastDeclared? declarations field).bind Declaration.mapping?

variable {declarations : List (Text × Declaration)} {defaultAnalyzer : Text}
  {custom : List (Text × α)} {schema : Schema α}

/-! ## Look-up -/

/-- A schema answers with the type of the mapping of a field. -/
theorem resolver_eq (schema : Schema α) (field : Text) :
    schema.resolver field = .ofMapping? (schema.mapping? field) := by
  rw [resolver, fieldType?]
  cases schema.mapping? field <;> rfl

/-- The name that is looked up depends on the mapping of the field and the default only. -/
theorem analyzerName_eq (schema : Schema α) (field : Text) :
    schema.analyzerName field =
      FieldMapping.analyzerNameOf schema.defaultAnalyzer (schema.mapping? field) := by
  rw [analyzerName, FieldMapping.analyzerNameOf]
  cases (schema.mapping? field).bind (·.analyzer) with
  | none => rfl
  | some name => cases name <;> rfl

/-- A field has the mapping of its name in lower case. -/
theorem mapping?_lower (schema : Schema α) (field : Text) :
    schema.mapping? (Text.lower field) = schema.mapping? field := by
  rw [mapping?, mapping?, Text.lower_lower]

/-! ## Declarations -/

section Declared

variable [TextAnalyzer α] (built : ofDeclarations declarations defaultAnalyzer custom = .ok schema)

include built

/-- The fields of a schema are the mappings of its declarations. -/
theorem fields_of_ofDeclarations :
    (∀ entry ∈ declarations, entry.2.mapping?.isSome) ∧ schema.defaultAnalyzer = defaultAnalyzer ∧
      schema.fields = Entries.ofList (mappings declarations) := by
  obtain ⟨fields, collected, built⟩ := ofDeclarations_eq_ok_iff.mp built
  obtain ⟨total, rfl⟩ := collectFields_eq_ok_iff.mp collected
  exact ⟨total, (parts_of_ofFields built).2⟩

/-- A field has the mapping of its last declaration. -/
theorem mapping?_eq_lastMapping? (field : Text) :
    schema.mapping? field = lastMapping? declarations field := by
  obtain ⟨total, _, fields⟩ := fields_of_ofDeclarations built
  rw [mapping?, fields, find?_ofList_mappings total, lastMapping?]

/-- A declared field has a mapping. -/
theorem lastMapping?_eq_none_iff (field : Text) :
    lastMapping? declarations field = none ↔
      ∀ entry ∈ declarations, Text.lower entry.1 ≠ Text.lower field := by
  obtain ⟨total, _, fields⟩ := fields_of_ofDeclarations built
  rw [← mapping?_eq_lastMapping? built, mapping?, fields, Entries.find?_eq_none_iff,
    Entries.mem_names_ofList, names_mappings total]
  simp [Entries.names, lowered]

/-- The names of the fields are the declared ones in lower case. -/
theorem mem_fieldNames_iff {name : Text} :
    name ∈ schema.fieldNames ↔ ∃ entry ∈ declarations, Text.lower entry.1 = name := by
  obtain ⟨total, _, fields⟩ := fields_of_ofDeclarations built
  rw [fieldNames, List.mem_mergeSort, fields, Entries.mem_names_ofList, names_mappings total]
  simp [Entries.names, lowered]

/-- The names of the fields are in strictly increasing order. -/
theorem pairwise_fieldNames :
    schema.fieldNames.Pairwise fun first second => first.codes < second.codes := by
  obtain ⟨_, _, fields⟩ := fields_of_ofDeclarations built
  rw [fieldNames, fields]
  exact Text.pairwise_mergeSort_notAfter (Entries.nodup_names_ofList _)

/-- The analyzer of a field is registered under the name that its last declaration gives. -/
theorem registered?_of_ofDeclarations (field : Text) :
    registered? custom
        (FieldMapping.analyzerNameOf defaultAnalyzer (lastMapping? declarations field)) =
      some (schema.analyzerFor field) := by
  obtain ⟨_, rfl, _⟩ := fields_of_ofDeclarations built
  have found := (Built.declared declarations _ built).registered?_analyzerName field
  rwa [analyzerName_eq, mapping?_eq_lastMapping? built] at found

/-- A condition that names a field is compiled with the last declaration of the field. -/
theorem compile_eq_of_describedBy {members : Entries Json} {field : Text} {condition : Condition}
    (described : DescribedBy (withField members field) condition) (registry : Registry) :
    registry.compile schema.resolver schema.analysis condition =
      registry.compile (fun _ => .ofMapping? (lastMapping? declarations field))
        (TextAnalyzer.analysis (schema.analyzerFor field)) condition := by
  have own {name : Text} (named : condition.field = some name) :
      schema.mapping? name = schema.mapping? field := by
    cases described.field_eq.symm.trans named
    exact schema.mapping?_lower field
  apply registry.compile_congr
  · intro name named
    rw [resolver_eq, own named, mapping?_eq_lastMapping? built]
  · intro name named text
    rw [analysis, term?, analyzerFor_congr rfl rfl (own named), TextAnalyzer.analysis]

/-- **The last declaration of a field counts, whatever the case of its name.** In a schema built
from declarations, the type of a field is that of the last declaration under a name with the same
lower case, if there is one. The names of its fields are the lower cases of the declared ones in
strictly increasing order. A condition whose document names a field is on that field in lower case,
and is compiled with the type and the analyzer of the last declaration. Documents that differ in the
case of the field's name only give conditions with equal outcomes. -/
theorem compile_with_lastMapping :
    (∀ field,
      schema.fieldType? field = (lastMapping? declarations field).map (·.fieldType) ∧
      (lastMapping? declarations field = none ↔
        ∀ entry ∈ declarations, Text.lower entry.1 ≠ Text.lower field)) ∧
    (schema.fieldNames.Pairwise (fun first second => first.codes < second.codes) ∧
      ∀ name, name ∈ schema.fieldNames ↔ ∃ entry ∈ declarations, Text.lower entry.1 = name) ∧
    (∀ members field condition, DescribedBy (withField members field) condition →
      condition.field = some (Text.lower field) ∧
      ∃ analyzer,
        registered? custom (FieldMapping.analyzerNameOf defaultAnalyzer
          (lastMapping? declarations field)) = some analyzer ∧
        ∀ registry : Registry, registry.compile schema.resolver schema.analysis condition =
          registry.compile (fun _ => .ofMapping? (lastMapping? declarations field))
            (TextAnalyzer.analysis analyzer) condition) ∧
    ∀ (members : Entries Json) (first second : Text) (registry : Registry),
      Text.lower first = Text.lower second →
        (Condition.ofDocument (withField members first)).map
            (registry.compile schema.resolver schema.analysis) =
          (Condition.ofDocument (withField members second)).map
            (registry.compile schema.resolver schema.analysis) ∧
        ∀ kind, registry.compile schema.resolver schema.analysis <$>
              Condition.readClass kind (withField members first) =
            registry.compile schema.resolver schema.analysis <$>
              Condition.readClass kind (withField members second) := by
  refine ⟨fun field => ⟨?_, lastMapping?_eq_none_iff built field⟩,
    ⟨pairwise_fieldNames built, fun name => mem_fieldNames_iff built⟩, ?_, ?_⟩
  · rw [fieldType?, mapping?_eq_lastMapping? built]
  · intro members field condition described
    exact ⟨described.field_eq, _, registered?_of_ofDeclarations built field,
      compile_eq_of_describedBy built described⟩
  · intro members first second registry same
    refine ⟨?_, fun kind => ?_⟩
    · rw [Condition.ofDocument_withField_congr same]
    · rw [Condition.readClass_withField_congr same]

end Declared

/-- A field that is declared as an integer and again as a text of keywords, named in a third way by
a condition. -/
theorem compile_with_lastMapping_nAME :
    ∃ schema : Schema,
      ofDeclarations [("NAME", .named (.str "integer")), ("Name", .given ⟨.text, some "keyword"⟩)]
        "standard" [] = .ok schema ∧
      schema.fieldType? "nAME" = some .text ∧
      ∃ condition, Condition.ofDocument (withField [("type", .str "fuzzy"), ("value", .str "a b")]
          "nAME") = .ok condition ∧
        Registry.default.compile schema.resolver schema.analysis condition =
          Registry.default.compile (fun _ => .declared .text)
            (TextAnalyzer.analysis Analyzer.keyword) condition := by
  have declared : (ofDeclarations
      [("NAME", .named (.str "integer")), ("Name", .given ⟨.text, some "keyword"⟩)]
      "standard" []).toOption.isSome := by
    decide +kernel
  obtain ⟨schema, found⟩ := Option.isSome_iff_exists.mp declared
  have built := ok_of_toOption found
  have described : (Condition.ofDocument (withField
      [("type", .str "fuzzy"), ("value", .str "a b")] "nAME")).toOption.isSome := by
    decide +kernel
  obtain ⟨condition, found⟩ := Option.isSome_iff_exists.mp described
  have read := ok_of_toOption found
  have last : lastMapping?
      [("NAME", .named (.str "integer")), ("Name", .given ⟨.text, some "keyword"⟩)] "nAME" =
        some ⟨.text, some "keyword"⟩ := by
    decide +kernel
  obtain ⟨types, _, compiled, _⟩ := compile_with_lastMapping built
  refine ⟨schema, built, ?_, condition, read, ?_⟩
  · rw [(types "nAME").1, last]
    rfl
  · obtain ⟨_, analyzer, registered, outcome⟩ := compiled _ "nAME" condition (.tagged read)
    rw [last] at registered outcome
    cases registered
    exact outcome Registry.default

end Schema

end FieldSearch
