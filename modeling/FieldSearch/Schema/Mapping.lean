import FieldSearch.Failure
import FieldSearch.Wire.Parameter
import FieldSearch.Wire.Scalar

/-!
# Field mappings

A mapping declares the type of a field and may name the analyzer for its texts. A mapping document
has members for these two only, and no others are permitted.
-/

namespace FieldSearch

open Wire (Checked Parameter Problem acceptDenoted acceptOptionalText)

/-- The declared type of a field, and the name of its analyzer if it has one of its own. -/
structure FieldMapping where
  fieldType : FieldType
  analyzer : Option Text
deriving DecidableEq, Repr

namespace FieldMapping

/-- The parameter of the type. -/
def typeParameter : Parameter := .plain "type"

/-- The parameter of the analyzer. -/
def analyzerParameter : Parameter := .plain "analyzer"

/-- Accepts the names of field types. -/
def acceptFieldType (value : Json) : Checked FieldType :=
  match value with
  | .str name =>
    acceptDenoted name fun name =>
      match FieldType.ofName? name with
      | some fieldType => .accepted fieldType
      | none => .refuse (.notOneOf FieldType.names)
  | _ => .refuse (.notOneOf FieldType.names)

/-- The problems of the members that a mapping document may not have, in their order. -/
def extraMembers (members : Entries Json) : List Problem :=
  (members.names.filter fun name => name ≠ typeParameter.name ∧ name ≠ analyzerParameter.name).map
    fun name => ⟨[.member name], .extra⟩

/-- Reads the members of a mapping document. -/
def readMembers (members : Entries Json) : Checked FieldMapping :=
  let extra : Checked Unit :=
    match extraMembers members with
    | [] => .accepted ()
    | problems => .rejected problems
  (fun fieldType analyzer _ => ⟨fieldType, analyzer⟩) <$>
    typeParameter.read members .text acceptFieldType
    <*> analyzerParameter.read members none acceptOptionalText
    <*> extra

/-- Reads a mapping document. A member whose name is not well-formed keeps the others from being
looked at. -/
def read : Json → Checked FieldMapping
  | .obj members =>
    if (Entries.names members).all Text.isWellFormed then readMembers members
    else .refuse .notUnicode
  | _ => .refuse (.notInstance "FieldMapping")

/-- A mapping as a document. -/
def toJson (mapping : FieldMapping) : Json :=
  .obj [(typeParameter.name, .str mapping.fieldType.name),
    (analyzerParameter.name, Json.ofText? mapping.analyzer)]

end FieldMapping

/-- How a field is declared to a schema: by a mapping, or by a value that should name its type. -/
inductive Declaration
  | given (mapping : FieldMapping)
  | named (value : Json)

/-- The mapping that a declaration of a field stands for. -/
def Declaration.toMapping (declaration : Declaration) (name : Text) :
    Except SearchError FieldMapping :=
  match declaration with
  | .given mapping => .ok mapping
  | .named value =>
    let unknown : SearchError :=
      .schema [.str ("Unknown field type " ++ value.display ++ " for field '" ++ name ++ "'")]
    match value with
    | .str typeName =>
      match FieldType.ofName? typeName with
      | some fieldType => .ok ⟨fieldType, none⟩
      | none => .error unknown
    | _ => .error unknown

end FieldSearch
