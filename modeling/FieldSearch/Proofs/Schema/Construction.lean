import FieldSearch.Proofs.Failure
import FieldSearch.Schema.Document

/-!
# How schemas are built

A schema is built from declared fields or from a document. Either way it has the built-in analyzers
and the custom ones put over them, and the name under which it looks up the analyzer of a field is
one of theirs.
-/

namespace FieldSearch

/-- The reports of documents and declarations that give no schema. -/
inductive SearchError.OfSchema : SearchError → Prop
  | schema (values : List Json) : OfSchema (.schema values)
  | schemaDocument (problems : List Wire.Problem) : OfSchema (.schemaDocument problems)

namespace Schema

variable {α : Type}

/-- The parts of a schema that is built from its fields. -/
theorem parts_of_ofFields {analyzers : Entries α} {defaultAnalyzer : Text}
    {fields : Entries FieldMapping} {schema : Schema α}
    (built : ofFields analyzers defaultAnalyzer fields = .ok schema) :
    schema.analyzers = analyzers ∧ schema.defaultAnalyzer = defaultAnalyzer ∧
      schema.fields = fields := by
  unfold ofFields at built
  split at built
  · split at built
    · cases built
    · cases built
      exact ⟨rfl, rfl, rfl⟩
  · cases built

/-- Declared fields build a schema when they can be collected and all analyzers are there. -/
theorem ofDeclarations_eq_ok_iff [TextAnalyzer α] {declarations : List (Text × Declaration)}
    {defaultAnalyzer : Text} {custom : List (Text × α)} {schema : Schema α} :
    ofDeclarations declarations defaultAnalyzer custom = .ok schema ↔
      ∃ fields, collectFields declarations = .ok fields ∧
        ofFields (TextAnalyzer.builtIn.putAll custom) defaultAnalyzer fields = .ok schema := by
  rw [ofDeclarations]
  cases collectFields declarations <;> simp [bind, Except.bind]

/-- The schemas that can be built with some custom analyzers. -/
inductive Built [TextAnalyzer α] (custom : List (Text × α)) (schema : Schema α) : Prop
  | declared (declarations : List (Text × Declaration)) (defaultAnalyzer : Text)
      (built : ofDeclarations declarations defaultAnalyzer custom = .ok schema)
  | described (document : Json) (built : ofDocument document custom = .ok schema)

/-- A schema has the built-in analyzers and the custom ones put over them. -/
theorem analyzers_of_ofDeclarations [TextAnalyzer α] {declarations : List (Text × Declaration)}
    {defaultAnalyzer : Text} {custom : List (Text × α)} {schema : Schema α}
    (built : ofDeclarations declarations defaultAnalyzer custom = .ok schema) :
    schema.analyzers = TextAnalyzer.builtIn.putAll custom := by
  obtain ⟨fields, _, built⟩ := ofDeclarations_eq_ok_iff.mp built
  exact (parts_of_ofFields built).1

/-- A schema that can be built is built from declarations: a document declares its mappings. -/
theorem Built.exists_ofDeclarations [TextAnalyzer α] {custom : List (Text × α)} {schema : Schema α}
    (built : schema.Built custom) :
    ∃ declarations defaultAnalyzer,
      ofDeclarations declarations defaultAnalyzer custom = .ok schema := by
  cases built with
  | declared declarations defaultAnalyzer built => exact ⟨declarations, defaultAnalyzer, built⟩
  | described document built =>
    unfold ofDocument at built
    split at built
    · exact ⟨_, _, built⟩
    · cases built

/-- However it is built, a schema has the built-in analyzers and the custom ones put over them. -/
theorem Built.analyzers_eq [TextAnalyzer α] {custom : List (Text × α)} {schema : Schema α}
    (built : schema.Built custom) : schema.analyzers = TextAnalyzer.builtIn.putAll custom := by
  obtain ⟨_, _, built⟩ := built.exists_ofDeclarations
  exact analyzers_of_ofDeclarations built

/-- The analyzer of a field is the one found under the name that is looked up. -/
theorem find?_analyzerName (schema : Schema α) (field : Text) :
    schema.analyzers.find? (schema.analyzerName field) = some (schema.analyzerFor field) :=
  (Option.some_get _).symm

/-! ## Reports -/

/-- A declaration of an unknown type is reported as a fault of the schema. -/
theorem ofSchema_of_toMapping {declaration : Declaration} {name : Text} {report : SearchError}
    (failed : declaration.toMapping name = .error report) : report.OfSchema := by
  unfold Declaration.toMapping at failed
  split at failed
  · cases failed
  · dsimp only at failed
    split at failed
    · split at failed
      · cases failed
      · cases failed
        exact .schema _
    · cases failed
      exact .schema _

/-- Fields that cannot be collected are reported as a fault of the schema. -/
theorem ofSchema_of_collectFields {declarations : List (Text × Declaration)} {report : SearchError}
    (failed : collectFields declarations = .error report) : report.OfSchema := by
  obtain ⟨_, ⟨name, declaration⟩, _, fields, _, _, failed⟩ := foldlM_eq_error_iff.mp failed
  dsimp only at failed
  cases mapped : declaration.toMapping name with
  | ok mapping =>
    rw [mapped] at failed
    cases failed
  | error unknown =>
    rw [mapped] at failed
    cases failed
    exact ofSchema_of_toMapping mapped

/-- Fields that give no schema name an analyzer that is not there. -/
theorem exists_unknownAnalyzer_of_ofFields {analyzers : Entries α} {defaultAnalyzer : Text}
    {fields : Entries FieldMapping} {report : SearchError}
    (failed : ofFields analyzers defaultAnalyzer fields = .error report) :
    ∃ name field, report = unknownAnalyzer analyzers name field := by
  unfold ofFields at failed
  split at failed
  · split at failed
    · cases failed
      exact ⟨_, _, rfl⟩
    · cases failed
  · cases failed
    exact ⟨_, _, rfl⟩

/-- A missing analyzer is reported as a fault of the schema. -/
theorem ofSchema_of_ofFields {analyzers : Entries α} {defaultAnalyzer : Text}
    {fields : Entries FieldMapping} {report : SearchError}
    (failed : ofFields analyzers defaultAnalyzer fields = .error report) : report.OfSchema := by
  obtain ⟨_, _, rfl⟩ := exists_unknownAnalyzer_of_ofFields failed
  exact .schema _

/-- Declarations that give no schema are refused with a report of a schema. -/
theorem ofSchema_of_ofDeclarations [TextAnalyzer α] {declarations : List (Text × Declaration)}
    {defaultAnalyzer : Text} {custom : List (Text × α)} {report : SearchError}
    (failed : ofDeclarations declarations defaultAnalyzer custom = .error report) :
    report.OfSchema := by
  rw [ofDeclarations] at failed
  cases collected : collectFields declarations with
  | ok fields =>
    rw [collected] at failed
    exact ofSchema_of_ofFields failed
  | error unknown =>
    rw [collected] at failed
    cases failed
    exact ofSchema_of_collectFields collected

/-- A document that gives no schema is refused with a report of a schema. -/
theorem ofSchema_of_ofDocument [TextAnalyzer α] {document : Json} {custom : List (Text × α)}
    {report : SearchError} (failed : ofDocument document custom = .error report) :
    report.OfSchema := by
  unfold ofDocument at failed
  split at failed
  · exact ofSchema_of_ofDeclarations failed
  · cases failed
    exact .schemaDocument _

end Schema

end FieldSearch
