import FieldSearch.Condition.Basic
import FieldSearch.Json.Reader
import FieldSearch.Text.Lowercase
import FieldSearch.Wire.Scalar

/-!
# Conditions from documents

The type tag of a document selects the kind of condition; its case does not matter. The other
members give the parameters, null for a parameter with a default means the default, and members
that are no parameters are ignored. The name of the field is put in lower case. When parameters
have the wrong type, all of them are reported in order of declaration.
-/

namespace FieldSearch

open Wire (Checked Parameter Problem acceptBoolean acceptInteger acceptLiteral acceptNumber
  acceptOptionalText acceptOptionalTexts acceptText nullMeansDefault)

namespace Condition

/-! ## Parameters -/

/-- Reads the boost. -/
def readBoost (members : Entries Json) : Checked Binary64 :=
  boostParameter.read members defaultBoost (nullMeansDefault defaultBoost acceptNumber)

/-- Reads the name of the field, in lower case. -/
def readField (members : Entries Json) : Checked (Option Text) :=
  Option.map Text.lower <$> fieldParameter.read members none acceptOptionalText

/-- Reads the value of a fuzzy or pattern predicate. -/
def readValue (members : Entries Json) : Checked (Option Text) :=
  valueParameter.read members none acceptOptionalText

/-- Reads an integer with a default. -/
def readInteger (parameter : Parameter) (members : Entries Json) (default : Int) : Checked Int :=
  parameter.read members default (nullMeansDefault default acceptInteger)

/-- Reads a fuzzy predicate. -/
def readFuzzy (members : Entries Json) : Checked FuzzyPredicate :=
  FuzzyPredicate.mk <$> readValue members
    <*> readInteger maxEditsParameter members defaultFuzzy.maxEdits
    <*> readInteger prefixLengthParameter members defaultFuzzy.prefixLength
    <*> readInteger maxExpansionsParameter members defaultFuzzy.maxExpansions
    <*> transpositionsParameter.read members defaultFuzzy.transpositions
      (nullMeansDefault defaultFuzzy.transpositions acceptBoolean)

/-- Reads a phrase predicate. -/
def readPhrase (members : Entries Json) : Checked PhrasePredicate :=
  PhrasePredicate.mk <$> valuesParameter.read members defaultPhrase.values acceptOptionalTexts
    <*> readInteger slopParameter members defaultPhrase.slop

/-- Reads the predicate of a condition of the given kind. -/
def readPredicate (kind : Kind) (members : Entries Json) : Checked Predicate :=
  match kind with
  | .fuzzy => .fuzzy <$> readFuzzy members
  | .regexp => .regexp <$> readValue members
  | .phrase => .phrase <$> readPhrase members

/-- Reads a condition of the given kind, whatever its type tag. -/
def readOfKind (kind : Kind) (members : Entries Json) : Checked Condition :=
  Condition.mk <$> readBoost members <*> readField members <*> readPredicate kind members

/-! ## Classes -/

/-- Reads a condition of the given kind, whose type tag has to be the kind's name if it is
given. -/
def readTagged (kind : Kind) (members : Entries Json) : Checked Condition :=
  (fun _ condition => condition) <$>
    typeParameter.read members kind.name (acceptLiteral kind.name) <*> readOfKind kind members

/-- Reads a plain condition, whose type tag may be any text and has to be given. -/
def readPlain (members : Entries Json) : Checked Condition :=
  (fun tag boost field => ⟨boost, field, .plain tag⟩) <$>
    typeParameter.require members acceptText <*> readBoost members <*> readField members

/-- Reads a document as a condition of a given kind, or as a plain condition. -/
def readClass (kind : Option Kind) (document : Json) : Checked Condition :=
  match document, kind with
  | .obj members, some kind => readTagged kind members
  | .obj members, none => readPlain members
  | _, kind => .refuse (.notInstance (classNameOf kind))

/-! ## Documents -/

/-- The path of a document as a whole. -/
def rootPath : Text := "<root>"

/-- The path of a problem. -/
def problemPath (problem : Problem) : Text :=
  if problem.location.isEmpty then rootPath else problem.location.text

/-- A problem with its path. -/
def describe (problem : Problem) : Text :=
  problemPath problem ++ ": " ++ problem.mismatch.text

/-- The report that parameters of a document have the wrong type. -/
def invalid (kind : Kind) (problems : List Problem) : SearchError :=
  .malformed
    (.str ("Invalid '" ++ kind.name ++ "' condition: " ++ Text.join "; " (problems.map describe)))
    (.str ((problems.head?.map problemPath).getD rootPath)) []

/-- The type tag of a document in lower case. -/
def documentTag (members : Entries Json) : Except SearchError Text :=
  match members.find? typeParameter.spelling with
  | some (.str tag) => if tag.isEmpty then .error missing else .ok (Text.lower tag)
  | _ => .error missing
where
  missing : SearchError := .malformed (.str "Missing or empty 'type' key") (.str "type") []

/-- The kind that a document's type tag names. -/
def documentKind (members : Entries Json) : Except SearchError Kind := do
  let tag ← documentTag members
  match Kind.ofName? tag with
  | some kind => .ok kind
  | none =>
    .error (.malformedWith (.str ("Unknown condition type: '" ++ tag ++ "'.")) (.str "type")
      (some tag) Kind.names)

/-- The condition that a document describes. -/
def ofDocument (document : Json) : Except SearchError Condition :=
  match document with
  | .obj members => do
    let kind ← documentKind members
    match readOfKind kind members with
    | .accepted condition => .ok condition
    | .rejected problems => .error (invalid kind problems)
  | _ =>
    .error (.malformed (.str ("Expected a JSON object, got " ++ document.kindName))
      (.str rootPath) [])

/-- The condition that a document in JSON text describes. -/
def ofText (text : Text) : Except Failure Condition :=
  match Json.read text with
  | .ok document => (ofDocument document).mapError .reported
  | .error (.malformed fault place) =>
    let message := "Invalid JSON: " ++ fault.describe text place
    .error (.reported (.malformed (.str message) (.str rootPath) []))
  | .error (.longInteger digits) => .error (.longInteger digits)

/-- What is wrong with a document: nothing if it describes a condition. -/
def problems (document : Json) : List Text :=
  match ofDocument document with
  | .ok _ => []
  | .error error => [(error.path?.elim rootPath Json.plain) ++ ": " ++ error.message]

end Condition

end FieldSearch
