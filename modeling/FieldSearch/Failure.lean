import FieldSearch.FieldType
import FieldSearch.Json.Basic
import FieldSearch.Kind
import FieldSearch.Number.Value
import FieldSearch.Text.Similarity
import FieldSearch.Wire.Problem

/-!
# Failures

A `SearchError` reports what is wrong with a condition, a document or a schema, in words and as a
document. A `Failure` is anything that an operation ends with instead of an answer: a search error,
or a misuse of an operation that no document can lead to by itself.
-/

namespace FieldSearch

open Wire (Problem)

/-- An error report, made of the values it is given. Every report has a message; the other data
depend on what went wrong. -/
inductive SearchError
  | general (values : List Json)
  | validation (message path : Json)
  | missingField (message : Json)
  | missingValue (message parameter : Json)
  | outOfRange (message parameter value constraint : Json)
  | malformed (message path : Json) (suggestions : List Text)
  | unsupportedFieldType (message field fieldType queryKind : Json)
  | analysis (field text terms : Json)
  | schema (values : List Json)
  | schemaDocument (problems : List Problem)

namespace SearchError

/-- The report of a malformed document. When a name was given that is none of the known ones, the
known names close to it are suggested. -/
def malformedWith (message path : Json) (given : Option Text) (known : List Text) : SearchError :=
  let suggestions :=
    match given with
    | some name => if name.isEmpty then [] else Text.closeMatches name known
    | none => []
  let message :=
    if suggestions.isEmpty then message
    else .str (message.plain ++ " Did you mean: " ++ Text.join ", " suggestions ++ "?")
  .malformed message path suggestions

/-- The message that values give: that of a single one is its plain text, several are displayed
together. -/
def messageOf : List Json → Text
  | [] => ""
  | [value] => value.plain
  | values => "(" ++ Text.join ", " (Json.displayItems values) ++ ")"

/-- The message of a report as text. -/
def message : SearchError → Text
  | .general values => messageOf values
  | .validation message _ => message.plain
  | .missingField message => message.plain
  | .missingValue message _ => message.plain
  | .outOfRange message _ _ _ => message.plain
  | .malformed message _ _ => message.plain
  | .unsupportedFieldType message _ _ _ => message.plain
  | .analysis field text terms =>
    "Analyzer returned too many terms for '" ++ field.plain ++ "': " ++ text.display ++ " -> " ++
      terms.plain
  | .schema values => messageOf values
  | .schemaDocument _ => "Invalid schema configuration: <details>"

/-- The path to the place in question, in the reports that have one; it may be unknown. -/
def path? : SearchError → Option Json
  | .validation _ path => some path
  | .missingField _ => some (.str "field")
  | .missingValue _ parameter => some parameter
  | .outOfRange _ parameter _ _ => some parameter
  | .malformed _ path _ => some path
  | _ => none

/-- A report as a document. -/
def toJson (error : SearchError) : Json :=
  let report (code : Text) (message : Json) (more : List (Text × Json)) : Json :=
    .obj (("error", .str code) :: ("message", message) :: more)
  let text : Json := .str error.message
  match error with
  | .general _ => report "ConditionError" text []
  | .validation message path => report "VALIDATION_ERROR" message [("path", path)]
  | .missingField message => report "MISSING_FIELD" message []
  | .missingValue message parameter =>
    report "MISSING_VALUE" message [("parameter", parameter)]
  | .outOfRange message parameter value constraint =>
    report "OUT_OF_RANGE_PARAMETER" message
      [("parameter", parameter), ("value", value), ("constraint", constraint)]
  | .malformed message path suggestions =>
    report "CONDITION_PARSE_ERROR" message
      [("path", path), ("suggestions", .arr (suggestions.map .str))]
  | .unsupportedFieldType _ field fieldType queryKind =>
    report "UNSUPPORTED_FIELD_TYPE" text
      [("field", field), ("field_type", .str fieldType.plain), ("query_kind", queryKind)]
  | .analysis field _ terms =>
    report "ANALYSIS_ERROR" text [("field", field), ("terms", terms)]
  | .schema _ => report "SCHEMA_ERROR" text []
  | .schemaDocument _ => report "SCHEMA_ERROR" text []

end SearchError

/-- What an operation can end with instead of an answer. -/
inductive Failure
  | reported (error : SearchError)
  | rejected (problems : List Problem)
  | notFieldType (value : Json)
  | notKind (value : Json)
  | noCompiler (kind : Kind)
  | noAttribute (owner name : Text)
  | noSlot (position : Int)
  | tooManySlots
  | outOfMemory
  | notPosition (value : Json) (slots : Nat)
  | notSlotText (index : Nat) (value : Json)
  | frozenQuery (name : Text)
  | noSetter (owner name : Text)
  | longInteger (digits : Nat)

namespace Failure

/-- How a failure is described; a rejection by its problems has no message of its own. -/
def message? : Failure → Option Text
  | .reported error => some error.message
  | .rejected _ => none
  | .notFieldType value => some (value.display ++ " is not a valid FieldType")
  | .notKind value => some (value.display ++ " is not a valid ConditionType")
  | .noCompiler kind => some ("No compiler registered for condition type: " ++ kind.name)
  | .noAttribute owner name =>
    some ("'" ++ owner ++ "' object has no attribute '" ++ name ++ "'")
  | .noSlot position =>
    some (if position < -0x8000000000000000 then "cannot fit 'int' into an index-sized integer"
      else "list index out of range")
  | .tooManySlots => some "cannot fit 'int' into an index-sized integer"
  | .outOfMemory => some ""
  | .notPosition (.float x) slots =>
    some (if x.isAtLeast slots then "can't multiply sequence by non-int of type 'float'"
      else "list indices must be integers or slices, not float")
  | .notPosition value _ =>
    some ("'>=' not supported between instances of '" ++ value.kindName ++ "' and 'int'")
  | .notSlotText index value =>
    some ("sequence item " ++ toString index ++ ": expected str instance, " ++ value.kindName ++
      " found")
  | .frozenQuery name => some ("cannot assign to field " ++ name.quoted)
  | .noSetter owner name =>
    some ("property " ++ name.quoted ++ " of " ++ owner.quoted ++ " object has no setter")
  | .longInteger digits =>
    some ("Exceeds the limit (4300 digits) for integer string conversion: value has " ++
      toString digits ++ " digits; use sys.set_int_max_str_digits() to increase the limit")

end Failure

end FieldSearch
