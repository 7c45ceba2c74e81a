import FieldSearch.Json.Reader
import FieldSearch.Schema.Basic

/-!
# Schemas and their documents

A schema document names the default analyzer and gives a mapping document for each field. Its
other members are ignored. All problems of a document are reported together. A schema is written as
such a document, where the names of its fields are mended.
-/

namespace FieldSearch

open Wire (Checked Parameter Problem acceptText)

namespace Schema

variable {α : Type}

/-- The parameter of the default analyzer. -/
def defaultAnalyzerParameter : Parameter := .plain "default_analyzer"

/-- The parameter of the fields. -/
def fieldsParameter : Parameter := .plain "fields"

/-- Accepts an object whose members are mapping documents. -/
def acceptFields : Json → Checked (Entries FieldMapping)
  | .obj members =>
    Checked.collect <| members.map fun (name, document) =>
      (name, ·) <$> (FieldMapping.read document).under (.member name)
  | _ => .refuse .notDictionary

/-- What a schema document says: the default analyzer and the mappings under the names of their
fields. -/
structure Config where
  defaultAnalyzer : Text
  fields : Entries FieldMapping

/-- The configuration of fields under names in any case. The names are put in lower case; of
several fields of one name, the last gives the mapping. -/
def Config.ofFields (defaultAnalyzer : Text) (fields : List (Text × FieldMapping)) : Config :=
  ⟨defaultAnalyzer, Entries.ofList (fields.map fun (name, mapping) => (Text.lower name, mapping))⟩

/-- Reads a schema document. -/
def Config.read : Json → Checked Config
  | .obj members =>
    Config.ofFields <$> defaultAnalyzerParameter.read members standardAnalyzer acceptText
      <*> fieldsParameter.read members [] acceptFields
  | _ => .refuse (.notInstance "SchemaConfig")

/-- A configuration as a document. -/
def Config.toJson (config : Config) : Json :=
  .obj [(defaultAnalyzerParameter.name, .str config.defaultAnalyzer),
    (fieldsParameter.name,
      .obj (config.fields.map fun (name, mapping) => (name, mapping.toJson)))]

/-- A configuration whose names of fields can be written: they are mended, and of several fields
whose names become one, the last gives the mapping. -/
def Config.mended (config : Config) : Config :=
  { config with
    fields := Entries.ofList (config.fields.map fun (name, mapping) => (name.mended, mapping)) }

/-- The schema that a document describes. -/
def ofDocument [TextAnalyzer α] (document : Json) (custom : List (Text × α)) :
    Except SearchError (Schema α) :=
  match Config.read document with
  | .accepted config =>
    ofDeclarations (config.fields.map fun (name, mapping) => (name, .given mapping))
      config.defaultAnalyzer custom
  | .rejected problems => .error (.schemaDocument problems)

/-- The schema that a document in JSON text describes. -/
def ofText [TextAnalyzer α] (text : Text) (custom : List (Text × α)) :
    Except Failure (Schema α) :=
  match Json.read text with
  | .ok (.obj members) => (ofDocument (.obj members) custom).mapError .reported
  | .ok _ => .error (.reported (.schema [.str "Top-level JSON value must be an object"]))
  | .error (.malformed fault place) =>
    .error (.reported (.schema [.str ("Invalid JSON: " ++ fault.describe text place)]))
  | .error (.longInteger digits) => .error (.longInteger digits)

/-- A schema as a document: that of its configuration, made of its fields as if they were given
anew, with the names of the fields mended. -/
def toJson (schema : Schema α) : Json :=
  (Config.ofFields schema.defaultAnalyzer schema.fields).mended.toJson

/-- The schema after an assignment to one of its attributes. The default analyzer is the only one
that a text can change, and the names of the fields cannot be assigned. -/
def assign (schema : Schema α) (member : Text) (value : Json) : Except Failure (Schema α) :=
  if member = Text.ofString "field_names" then .error (.noSetter "Schema" member)
  else
    match value with
    | .str name =>
      .ok (if member = defaultAnalyzerParameter.name then schema.withDefaultAnalyzer name
        else schema)
    | _ => .ok schema

/-- A schema as a line of text. -/
def text (schema : Schema α) : Text :=
  "Schema(fields=" ++ toString schema.fields.length ++ ", default_analyzer=" ++
    Text.quoted schema.defaultAnalyzer ++ ")"

end Schema

end FieldSearch
