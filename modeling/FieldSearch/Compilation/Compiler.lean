import FieldSearch.Compilation.Draft
import FieldSearch.Text.Blank

/-!
# Compilers

A compiler checks a condition and makes a draft of it. The checks come in a fixed order and the
first that fails decides the failure: the field, then the value or values, then the ranges of the
numbers, then the type of the field. A compiler reads from a condition what it needs and does not
ask for its kind, so that it may be registered for another kind than its own.
-/

namespace FieldSearch

/-- What is known of the type of a field: nothing, a type, or a value that should name one. -/
inductive TypeAnswer
  | unknown
  | declared (fieldType : FieldType)
  | named (value : Json)

/-- Answers what the type of a field is. -/
abbrev TypeResolver := (field : Text) → TypeAnswer

/-- The type of a field: a text if nothing is known of it. -/
def TypeAnswer.fieldType : TypeAnswer → Except Failure FieldType
  | .unknown => .ok .text
  | .declared fieldType => .ok fieldType
  | .named (.str name) =>
    match FieldType.ofName? name with
    | some fieldType => .ok fieldType
    | none => .error (.notFieldType (.str name))
  | .named value => .error (.notFieldType value)

/-! ## What compilers read from a condition -/

namespace Condition

/-- The failure to read something that a condition of this class does not have. -/
def lacks {α : Type} (condition : Condition) (parameter : Wire.Parameter) : Except Failure α :=
  .error (.noAttribute condition.className parameter.name)

/-- The value of a condition that has one, which may be absent. -/
def value (condition : Condition) : Except Failure (Option Text) :=
  match condition.predicate with
  | .fuzzy predicate => .ok predicate.value
  | .regexp value => .ok value
  | _ => condition.lacks valueParameter

/-- The parameters of a fuzzy condition. The edit distance is the first of them to be asked for. -/
def fuzzyPredicate (condition : Condition) : Except Failure FuzzyPredicate :=
  match condition.predicate with
  | .fuzzy predicate => .ok predicate
  | _ => condition.lacks maxEditsParameter

/-- The parameters of a phrase condition. The values are the first of them to be asked for. -/
def phrasePredicate (condition : Condition) : Except Failure PhrasePredicate :=
  match condition.predicate with
  | .phrase predicate => .ok predicate
  | _ => condition.lacks valuesParameter

end Condition

/-! ## Checks -/

namespace Compiler

/-- The failure of a number to lie in its range. -/
def outOfRange {α : Type} (message : Text) (parameter : Wire.Parameter) (value : Int)
    (constraint : Text) : Except Failure α :=
  .error (.reported
    (.outOfRange (.str message) (.str parameter.name) (.int value) (.str constraint)))

/-- The field, if it is there and not blank. -/
def requireField : Option Text → Except Failure Text
  | some field => if Text.isBlank field then .error missing else .ok field
  | none => .error missing
where
  missing : Failure := .reported (.missingField (.str "Field name required"))

/-- The value, if it is there and not blank. -/
def requireValue : Option Text → Except Failure Text
  | some value => if Text.isBlank value then .error missing else .ok value
  | none => .error missing
where
  missing : Failure :=
    .reported
      (.missingValue (.str "Field value required") (.str Condition.valueParameter.name))

/-- The values, if they are there. -/
def requireValues : Option (List (Option Text)) → Except Failure (List (Option Text))
  | some values => .ok values
  | none =>
    .error (.reported
      (.missingValue (.str "Field values required") (.str Condition.valuesParameter.name)))

/-- Checks that the edit distance is at most the supported one, and then that the prefix length and
the number of expansions are not negative. -/
def checkFuzzy (predicate : FuzzyPredicate) : Except Failure Unit :=
  if predicate.maxEdits < 0 ∨ Condition.maxDistance < predicate.maxEdits then
    outOfRange ("max_edits must be between 0 and " ++ toString Condition.maxDistance)
      Condition.maxEditsParameter predicate.maxEdits
      ("0 <= max_edits <= " ++ toString Condition.maxDistance)
  else if predicate.prefixLength < 0 then
    outOfRange "prefix_length must be positive." Condition.prefixLengthParameter
      predicate.prefixLength "prefix_length >= 0"
  else if predicate.maxExpansions < 0 then
    outOfRange "max_expansions must be positive." Condition.maxExpansionsParameter
      predicate.maxExpansions "max_expansions >= 0"
  else .ok ()

/-- Checks that the slop is not negative. -/
def checkSlop (slop : Int) : Except Failure Unit :=
  if slop < 0 then
    outOfRange "Slop must be positive" Condition.slopParameter slop "slop >= 0"
  else .ok ()

/-- Why a field of some type cannot be matched in the way of a kind. -/
def unsupported (kind : Kind) (field : Text) (fieldType : FieldType) : Text :=
  match kind with
  | .fuzzy => "Fuzzy queries cannot be supported for field type " ++ fieldType.name
  | .regexp => "Regexp queries are not supported by " ++ fieldType.name ++ " mapper"
  | .phrase =>
    "Phrase queries cannot be supported until mapping is defined (field '" ++ field ++
      "' is mapped as " ++ fieldType.name ++ ")"

/-- Checks that a field can be matched in the way of the kind `kind`: only sequences of characters
can. The report names the kind that the compiler is registered for. -/
def checkFieldType (kind registered : Kind) (resolver : TypeResolver) (field : Text) :
    Except Failure Unit := do
  let fieldType ← (resolver field).fieldType
  if fieldType.isCharSequence then return ()
  else
    throw (.reported (.unsupportedFieldType (.str (unsupported kind field fieldType)) (.str field)
      (.str fieldType.name) (.str registered.name)))

/-! ## Drafts by kind -/

/-- Checks a condition for an approximate match. -/
def draftFuzzy (registered : Kind) (resolver : TypeResolver) (condition : Condition) :
    Except Failure Draft := do
  let field ← requireField condition.field
  let value ← requireValue (← condition.value)
  let predicate ← condition.fuzzyPredicate
  checkFuzzy predicate
  checkFieldType .fuzzy registered resolver field
  return .fuzzy field value predicate condition.boost

/-- Checks a condition for a match by a pattern. The pattern is taken as it is. -/
def draftRegexp (registered : Kind) (resolver : TypeResolver) (condition : Condition) :
    Except Failure Draft := do
  let field ← requireField condition.field
  let value ← requireValue (← condition.value)
  checkFieldType .regexp registered resolver field
  return .settled ⟨.regexp ⟨field, .str value⟩, .float condition.boost⟩

/-- Checks a condition for a match by a phrase. -/
def draftPhrase (registered : Kind) (resolver : TypeResolver) (condition : Condition) :
    Except Failure Draft := do
  let field ← requireField condition.field
  let predicate ← condition.phrasePredicate
  let values ← requireValues predicate.values
  checkSlop predicate.slop
  checkFieldType .phrase registered resolver field
  return .phrase field values predicate.slop condition.boost

end Compiler

/-- How a compiler makes drafts: in the way of the kind it is registered for, in the way of a given
kind, or by giving the same query for all conditions. -/
inductive Procedure
  | own
  | like (kind : Kind)
  | constant (query : Query)

/-- A compiler and the kind that it is registered for. -/
structure Compiler where
  registered : Kind
  procedure : Procedure

namespace Compiler

/-- The compiler that a kind has by itself. -/
def builtIn (kind : Kind) : Compiler :=
  ⟨kind, .own⟩

/-- Checks a condition in the way of a kind. -/
def draftLike (kind registered : Kind) (resolver : TypeResolver) (condition : Condition) :
    Except Failure Draft :=
  match kind with
  | .fuzzy => draftFuzzy registered resolver condition
  | .regexp => draftRegexp registered resolver condition
  | .phrase => draftPhrase registered resolver condition

/-- Checks a condition and makes a draft of it. -/
def draft (compiler : Compiler) (resolver : TypeResolver) (condition : Condition) :
    Except Failure Draft :=
  match compiler.procedure with
  | .own => draftLike compiler.registered compiler.registered resolver condition
  | .like kind => draftLike kind compiler.registered resolver condition
  | .constant query => .ok (.settled query)

end Compiler

end FieldSearch
