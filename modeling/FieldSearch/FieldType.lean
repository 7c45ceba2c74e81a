import FieldSearch.Text.Basic

/-!
# Field types

The declared kind of data of an index field. Only strings and texts are sequences of characters
that can be matched character by character.
-/

namespace FieldSearch

/-- The declared kind of data of an index field. -/
inductive FieldType
  | string
  | text
  | integer
  | bigint
  | float
  | double
  | decimal
  | boolean
  | date
  | uuid
  | timeuuid
  | object
  | map
deriving DecidableEq, Repr

namespace FieldType

/-- All field types, in the order in which messages list them. -/
def all : List FieldType :=
  [.string, .text, .integer, .bigint, .float, .double, .decimal, .boolean, .date, .uuid, .timeuuid,
   .object, .map]

/-- The name of a field type in documents and messages. -/
def name : FieldType → Text
  | .string => "string"
  | .text => "text"
  | .integer => "integer"
  | .bigint => "bigint"
  | .float => "float"
  | .double => "double"
  | .decimal => "decimal"
  | .boolean => "boolean"
  | .date => "date"
  | .uuid => "uuid"
  | .timeuuid => "timeuuid"
  | .object => "object"
  | .map => "map"

/-- The field type of exactly this name. -/
def ofName? (name : Text) : Option FieldType :=
  all.find? (·.name = name)

/-- The names of all field types. -/
def names : List Text :=
  all.map name

/-- Whether values of the type are sequences of characters. -/
def isCharSequence : FieldType → Bool
  | .string => true
  | .text => true
  | _ => false

/-- Every field type is found under its name. -/
theorem ofName?_name (fieldType : FieldType) : ofName? fieldType.name = some fieldType := by
  cases fieldType <;> decide

end FieldType

end FieldSearch
