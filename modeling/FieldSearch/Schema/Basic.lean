import FieldSearch.Analysis.Analyzer
import FieldSearch.Compilation.Compiler
import FieldSearch.Schema.Mapping

/-!
# Schemas

A schema maps the names of fields, in lower case, to their types and analyzers. It has the built-in
analyzers and custom ones, which go before built-in ones of the same name and can be of any make.
Every analyzer that a schema names is one that it has, so that the analyzer of a field is always
found.
-/

namespace FieldSearch

/-- Field mappings and analyzers. The default analyzer and the analyzers of all mappings are
there. -/
structure Schema (α : Type := Analyzer) where
  analyzers : Entries α
  defaultAnalyzer : Text
  fields : Entries FieldMapping
  default_known : (analyzers.find? defaultAnalyzer).isSome
  fields_known : ∀ entry ∈ fields, ∀ name, entry.2.analyzer = some name →
    (analyzers.find? name).isSome

namespace Schema

variable {α : Type}

/-- The analyzer of a schema that names no default. -/
def standardAnalyzer : Text := "standard"

/-! ## Construction -/

/-- The report of an analyzer that is not there. -/
def unknownAnalyzer (analyzers : Entries α) (name field : Text) : SearchError :=
  .schema [.str ("Unknown analyzer '" ++ name ++ "' for field '" ++ field ++
    "'. Available analyzers: " ++ Text.join ", " (analyzers.names.mergeSort Text.notAfter))]

/-- The mappings of declared fields under their names in lower case. Of several declarations of one
name, the last gives the mapping. -/
def collectFields (declarations : List (Text × Declaration)) :
    Except SearchError (Entries FieldMapping) :=
  declarations.foldlM
    (fun fields (name, declaration) => do
      let mapping ← declaration.toMapping name
      return fields.put (Text.lower name) mapping)
    []

/-- The analyzer that a mapping names, if the schema would not have it. -/
def missingAnalyzer? (analyzers : Entries α) (mapping : FieldMapping) : Option Text :=
  mapping.analyzer.filter fun name => (analyzers.find? name).isNone

/-- The schema with the given fields, if all analyzers are there. The default analyzer is looked
for first, then the analyzers of the fields in their order. -/
def ofFields (analyzers : Entries α) (defaultAnalyzer : Text)
    (fields : Entries FieldMapping) : Except SearchError (Schema α) :=
  if default_known : (analyzers.find? defaultAnalyzer).isSome then
    match found : fields.findSome? fun entry =>
        (missingAnalyzer? analyzers entry.2).map (entry.1, ·) with
    | some (field, name) => .error (unknownAnalyzer analyzers name field)
    | none =>
      .ok
        { analyzers, defaultAnalyzer, fields, default_known
          fields_known := by
            intro entry member name named
            have absent := List.findSome?_eq_none_iff.mp found entry member
            rw [Option.isSome_iff_ne_none]
            simpa [missingAnalyzer?, named, Option.filter] using absent }
  else .error (unknownAnalyzer analyzers defaultAnalyzer "<default>")

/-- The schema with the declared fields and the custom analyzers. -/
def ofDeclarations [TextAnalyzer α] (declarations : List (Text × Declaration))
    (defaultAnalyzer : Text) (custom : List (Text × α)) : Except SearchError (Schema α) := do
  let fields ← collectFields declarations
  ofFields (TextAnalyzer.builtIn.putAll custom) defaultAnalyzer fields

/-- The schema with another default analyzer; the same schema if it does not have that one. -/
def withDefaultAnalyzer (schema : Schema α) (name : Text) : Schema α :=
  if default_known : (schema.analyzers.find? name).isSome then
    { schema with defaultAnalyzer := name, default_known }
  else schema

/-! ## Look-up -/

/-- The names of the fields in the order of their code points. -/
def fieldNames (schema : Schema α) : List Text :=
  schema.fields.names.mergeSort Text.notAfter

/-- The mapping of a field, whatever the case of its name. -/
def mapping? (schema : Schema α) (field : Text) : Option FieldMapping :=
  schema.fields.find? (Text.lower field)

/-- The declared type of a field. -/
def fieldType? (schema : Schema α) (field : Text) : Option FieldType :=
  (schema.mapping? field).map (·.fieldType)

/-- The name under which the analyzer of a field is looked up: that of its mapping, if there is
one and it is not empty, and otherwise that of the default. -/
def analyzerName (schema : Schema α) (field : Text) : Text :=
  match (schema.mapping? field).bind (·.analyzer) with
  | some name => if name.isEmpty then schema.defaultAnalyzer else name
  | none => schema.defaultAnalyzer

/-- The analyzer of a field is one that the schema has. -/
theorem analyzerName_known (schema : Schema α) (field : Text) :
    (schema.analyzers.find? (schema.analyzerName field)).isSome := by
  unfold analyzerName
  split
  next name named =>
    split
    · exact schema.default_known
    · obtain ⟨mapping, found, named⟩ := Option.bind_eq_some_iff.mp named
      exact schema.fields_known _ (Entries.mem_of_find? found) name named
  next => exact schema.default_known

/-- The analyzer of a field. -/
def analyzerFor (schema : Schema α) (field : Text) : α :=
  (schema.analyzers.find? (schema.analyzerName field)).get (schema.analyzerName_known field)

/-- The term of a text of a field. -/
def term? [TextAnalyzer α] (schema : Schema α) (field text : Text) :
    Except Failure (Option Text) :=
  TextAnalyzer.term? (schema.analyzerFor field) field text

/-- Answers the type of a field for compilation. -/
def resolver (schema : Schema α) : TypeResolver := fun field =>
  match schema.fieldType? field with
  | some fieldType => .declared fieldType
  | none => .unknown

/-- Analyzes the texts of conditions. -/
def analysis [TextAnalyzer α] (schema : Schema α) : TermAnalysis := fun field text =>
  (schema.term? field text).map Json.ofText?

end Schema

end FieldSearch
