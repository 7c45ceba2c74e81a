import FieldSearch.Failure
import FieldSearch.Number.Value
import FieldSearch.Wire.Parameter

/-!
# Conditions

A condition is a predicate on a single field of the index, together with a boost. The predicate
says how it matches; a plain predicate has a type tag only and matches nothing by itself. Any
values can be put into a condition: what is missing or out of range is found when the condition is
compiled.
-/

namespace FieldSearch

open Wire (Parameter)

/-- An approximate match on one term. -/
structure FuzzyPredicate where
  value : Option Text
  maxEdits : Int
  prefixLength : Int
  maxExpansions : Int
  transpositions : Bool
deriving DecidableEq, Repr

/-- A match of terms in order within `slop` moves of each other. An absent value takes a
position. -/
structure PhrasePredicate where
  values : Option (List (Option Text))
  slop : Int
deriving DecidableEq, Repr

/-- How a condition matches. The value of a `regexp` predicate is its pattern. -/
inductive Predicate
  | plain (tag : Text)
  | fuzzy (predicate : FuzzyPredicate)
  | regexp (value : Option Text)
  | phrase (predicate : PhrasePredicate)
deriving DecidableEq, Repr

/-- The kind of a predicate that matches by itself. -/
def Predicate.kind? : Predicate → Option Kind
  | .plain _ => none
  | .fuzzy _ => some .fuzzy
  | .regexp _ => some .regexp
  | .phrase _ => some .phrase

/-- The type tag of a predicate: the name of its kind, or any text if it is plain. -/
def Predicate.tag : Predicate → Text
  | .plain tag => tag
  | .fuzzy _ => Kind.fuzzy.name
  | .regexp _ => Kind.regexp.name
  | .phrase _ => Kind.phrase.name

/-- The tag of a predicate that matches by itself is the name of its kind. -/
theorem Predicate.tag_of_kind? {predicate : Predicate} {kind : Kind}
    (kinded : predicate.kind? = some kind) : predicate.tag = kind.name := by
  cases predicate <;> cases kinded <;> rfl

/-- A predicate on a field with a boost. -/
structure Condition where
  boost : Binary64
  field : Option Text
  predicate : Predicate
deriving DecidableEq, Repr

namespace Condition

/-- Whether two conditions agree in everything, the boosts by value. -/
def same (first second : Condition) : Bool :=
  first.boost.same second.boost && first.field = second.field &&
    first.predicate = second.predicate

/-- The condition as one of several readings makes it. A boost that a text gave and that is not a
number belongs to its reading, so that two readings do not make the same condition. -/
def inReading (condition : Condition) (reading : Nat) : Condition :=
  match condition.boost with
  | .nan (_ + 1) => { condition with boost := .nan (reading + 1) }
  | _ => condition

/-- The boost of a condition that gives none. -/
def defaultBoost : Binary64 := .one

/-- The largest edit distance that the engine supports, and the one of a condition that gives
none. -/
def maxDistance : Int := 2

/-- The parameters of a fuzzy predicate that gives none. -/
def defaultFuzzy : FuzzyPredicate :=
  ⟨none, maxDistance, 0, 50, true⟩

/-- The parameters of a phrase predicate that gives none. -/
def defaultPhrase : PhrasePredicate :=
  ⟨none, 0⟩

/-- The name of the class of conditions of a kind, or of plain conditions. -/
def classNameOf : Option Kind → Text
  | none => "Condition"
  | some .fuzzy => "FuzzyCondition"
  | some .regexp => "RegexpCondition"
  | some .phrase => "PhraseCondition"

/-- The name of a condition's class. -/
def className (condition : Condition) : Text :=
  classNameOf condition.predicate.kind?

/-- The type tag of a condition. -/
def tag (condition : Condition) : Text :=
  condition.predicate.tag

/-- The kind that a condition's type tag names. -/
def kind (condition : Condition) : Except Failure Kind :=
  match Kind.ofName? condition.tag with
  | some kind => .ok kind
  | none => .error (.notKind (.str condition.tag))

/-- A type tag that is the name of a kind names the kind. -/
theorem kind_of_name {condition : Condition} {kind : Kind} (named : kind.name = condition.tag) :
    condition.kind = .ok kind := by
  rw [Condition.kind, ← named, Kind.ofName?_name]

/-- The type tag of a condition that matches by itself names its kind. -/
theorem kind_of_kind? {condition : Condition} {kind : Kind}
    (kinded : condition.predicate.kind? = some kind) : condition.kind = .ok kind :=
  kind_of_name (Predicate.tag_of_kind? kinded).symm

/-- The parameter of the boost. -/
def boostParameter : Parameter := .plain "boost"

/-- The parameter of the field. -/
def fieldParameter : Parameter := .plain "field"

/-- The parameter of the type tag. -/
def typeParameter : Parameter := .plain "type"

/-- The parameter of the value of a fuzzy or pattern predicate. -/
def valueParameter : Parameter := .plain "value"

/-- The parameter of the values of a phrase predicate. -/
def valuesParameter : Parameter := .plain "values"

/-- The parameter of the slop of a phrase predicate. -/
def slopParameter : Parameter := .plain "slop"

/-- The parameter of the greatest edit distance. -/
def maxEditsParameter : Parameter := ⟨"max_edits", "maxEdits"⟩

/-- The parameter of the number of leading characters that have to be equal. -/
def prefixLengthParameter : Parameter := ⟨"prefix_length", "prefixLength"⟩

/-- The parameter of the greatest number of terms to consider. -/
def maxExpansionsParameter : Parameter := ⟨"max_expansions", "maxExpansions"⟩

/-- The parameter that says whether an adjacent swap is one edit. -/
def transpositionsParameter : Parameter := .plain "transpositions"

/-- The parameters of a predicate with their values, in order of declaration. -/
def predicateParameters : Predicate → List (Parameter × Json)
  | .plain _ => []
  | .fuzzy predicate =>
    [(valueParameter, Json.ofText? predicate.value),
     (maxEditsParameter, .int predicate.maxEdits),
     (prefixLengthParameter, .int predicate.prefixLength),
     (maxExpansionsParameter, .int predicate.maxExpansions),
     (transpositionsParameter, .bool predicate.transpositions)]
  | .regexp value => [(valueParameter, Json.ofText? value)]
  | .phrase predicate =>
    [(valuesParameter,
      match predicate.values with
      | some values => .arr (values.map Json.ofText?)
      | none => .null),
     (slopParameter, .int predicate.slop)]

/-- The parameters of a condition with their values, in order of declaration. -/
def parameters (condition : Condition) : List (Parameter × Json) :=
  (boostParameter, .float condition.boost) ::
    (fieldParameter, Json.ofText? condition.field) ::
    predicateParameters condition.predicate

/-- Assigning to a condition is refused, except under a private name, which begins with a low line
and belongs to no parameter. -/
def assign (name : Text) : Except Failure Unit :=
  if name.head? = some (.char '_') then .ok ()
  else .error (.rejected [⟨[.member name], .frozen⟩])

/-- A condition as a document: its tag and all its parameters. -/
def toJson (condition : Condition) : Json :=
  .obj ((typeParameter.spelling, .str condition.tag) ::
    condition.parameters.map fun (parameter, value) => (parameter.spelling, value))

/-- A condition as a line of text. -/
def text (condition : Condition) : Text :=
  let shown := condition.parameters.map fun (parameter, value) =>
    parameter.name ++ "=" ++ value.plain
  condition.className ++ " [" ++ Text.join ", " shown ++ "]"

end Condition

end FieldSearch
