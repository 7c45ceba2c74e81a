import FieldSearch.Condition.Document
import FieldSearch.Proofs.Wire.Flaw

/-!
# Declared parameters

The parameters that a document of each kind of condition is read for, with the types of their
values, in order of declaration. No key belongs to two of them, and what is wrong with a document is
what is wrong with the values that it gives for them.
-/

namespace FieldSearch

open Wire (Checked Parameter Problem ValueType acceptOptionalText acceptOptionalTexts check
  nullMeansDefault)

/-- A key under which a document may give a parameter. -/
def Wire.Parameter.IsKey (parameter : Parameter) (key : Text) : Prop :=
  key = parameter.spelling ∨ key = parameter.name

instance (parameter : Parameter) (key : Text) : Decidable (parameter.IsKey key) :=
  inferInstanceAs (Decidable (key = parameter.spelling ∨ key = parameter.name))

/-- A parameter is found under one of its keys. -/
theorem Wire.Parameter.isKey_of_find? {parameter : Parameter} {members : Entries Json} {key : Text}
    {value : Json} (found : parameter.find? members = some (key, value)) :
    parameter.IsKey key ∧ (key, value) ∈ members := by
  unfold Parameter.find? at found
  split at found
  next spelled =>
    cases found
    exact ⟨.inl rfl, Entries.mem_of_find? spelled⟩
  next =>
    obtain ⟨_, named, ⟨⟩⟩ := Option.map_eq_some_iff.mp found
    exact ⟨.inr rfl, Entries.mem_of_find? named⟩

namespace Condition

/-- The parameters of conditions of all kinds. -/
def commonParameters : List (Parameter × ValueType) :=
  [(boostParameter, .number), (fieldParameter, .text)]

/-- The parameters of conditions of a kind, with the types of their values, in order of
declaration. -/
def declared : Kind → List (Parameter × ValueType)
  | .fuzzy =>
    commonParameters ++
      [(valueParameter, .text), (maxEditsParameter, .integer), (prefixLengthParameter, .integer),
       (maxExpansionsParameter, .integer), (transpositionsParameter, .boolean)]
  | .regexp => commonParameters ++ [(valueParameter, .text)]
  | .phrase => commonParameters ++ [(valuesParameter, .texts), (slopParameter, .integer)]

/-- The parameters that a document of a kind is read for, its type tag among them. -/
def recognized (kind : Kind) : List Parameter :=
  typeParameter :: (declared kind).map Prod.fst

/-- No parameter of a kind is listed twice. -/
theorem nodup_recognized (kind : Kind) : (recognized kind).Nodup := by
  cases kind <;> decide

/-- A key belongs to one parameter only. -/
theorem eq_of_isKey {kind : Kind} {first second : Parameter} {key : Text}
    (recognizedFirst : first ∈ recognized kind) (recognizedSecond : second ∈ recognized kind)
    (own : first.IsKey key) (ownToo : second.IsKey key) : first = second := by
  have table : ∀ first ∈ recognized kind, ∀ second ∈ recognized kind,
      ∀ key ∈ [first.spelling, first.name], key ∈ [second.spelling, second.name] →
        first = second := by
    cases kind <;> decide
  refine table first recognizedFirst second recognizedSecond key ?_ ?_
  · simpa [Parameter.IsKey] using own
  · simpa [Parameter.IsKey] using ownToo

/-! ## Problems -/

/-- The problems of the value that a document gives for a parameter. -/
def givenProblems (members : Entries Json) (entry : Parameter × ValueType) : List Problem :=
  match entry.1.find? members with
  | some (key, value) => (entry.2.flaws value).map (Problem.under (.member key))
  | none => []

section Reading

variable {α : Type} {parameter : Parameter} {members : Entries Json} {default : α}
  {accept : Json → Checked α}

/-- The problems of a parameter are the flaws of what is given for it. -/
theorem problems_read {type : ValueType} (typed : type.verdict = check accept) :
    (parameter.read members default (nullMeansDefault default accept)).problems =
      givenProblems members (parameter, type) := by
  rw [Parameter.read, givenProblems]
  cases parameter.find? members with
  | none => rfl
  | some given => rw [Checked.problems_under, Wire.problems_nullMeansDefault typed]

/-- The problems of an integer parameter are the flaws of what is given for it. -/
theorem problems_readInteger (default : Int) :
    (readInteger parameter members default).problems =
      givenProblems members (parameter, .integer) :=
  problems_read rfl

/-- The problems of a text parameter are the flaws of what is given for it. -/
theorem problems_readText :
    (parameter.read members none acceptOptionalText).problems =
      givenProblems members (parameter, .text) := by
  rw [← Wire.nullMeansDefault_acceptOptionalText]
  exact problems_read rfl

/-- The problems of a parameter for texts are the flaws of what is given for it. -/
theorem problems_readTexts :
    (parameter.read members none acceptOptionalTexts).problems =
      givenProblems members (parameter, .texts) := by
  rw [← Wire.nullMeansDefault_acceptOptionalTexts]
  exact problems_read rfl

/-- A parameter without problems is accepted, if all values are then. -/
theorem reasoned_read (reasoned : ∀ value, (accept value).Reasoned) :
    (parameter.read members default accept).Reasoned := by
  rw [Parameter.read]
  split
  · exact Checked.reasoned_under (reasoned _)
  · exact fun _ => ⟨default, rfl⟩

end Reading

section Document

variable (members : Entries Json)

/-- The problems of the boost are the flaws of what is given for it. -/
theorem problems_readBoost :
    (readBoost members).problems = givenProblems members (boostParameter, .number) :=
  problems_read rfl

/-- The problems of the field are the flaws of what is given for it. -/
theorem problems_readField :
    (readField members).problems = givenProblems members (fieldParameter, .text) := by
  rw [readField, Checked.problems_map, problems_readText]

/-- The problems of the value are the flaws of what is given for it. -/
theorem problems_readValue :
    (readValue members).problems = givenProblems members (valueParameter, .text) :=
  problems_readText

/-- The problems of fuzzy parameters are those of each, in the declared order. -/
theorem problems_readFuzzy :
    (readFuzzy members).problems =
      [(valueParameter, ValueType.text), (maxEditsParameter, .integer),
        (prefixLengthParameter, .integer), (maxExpansionsParameter, .integer),
        (transpositionsParameter, .boolean)].flatMap (givenProblems members) := by
  have transpositions : (transpositionsParameter.read members defaultFuzzy.transpositions
      (nullMeansDefault defaultFuzzy.transpositions Wire.acceptBoolean)).problems =
        givenProblems members (transpositionsParameter, .boolean) :=
    problems_read rfl
  simp only [readFuzzy, Checked.problems_seq, Checked.problems_map, problems_readValue,
    problems_readInteger, transpositions, List.flatMap_cons, List.flatMap_nil, List.append_nil,
    List.append_assoc]

/-- The problems of phrase parameters are those of each, in the declared order. -/
theorem problems_readPhrase :
    (readPhrase members).problems =
      [(valuesParameter, ValueType.texts), (slopParameter, .integer)].flatMap
        (givenProblems members) := by
  have values : (valuesParameter.read members defaultPhrase.values acceptOptionalTexts).problems =
      givenProblems members (valuesParameter, .texts) :=
    problems_readTexts
  simp only [readPhrase, Checked.problems_seq, Checked.problems_map, values, problems_readInteger,
    List.flatMap_cons, List.flatMap_nil, List.append_nil]

/-- The problems of a document are those of the values of its parameters, in order of
declaration. -/
theorem problems_readOfKind (kind : Kind) :
    (readOfKind kind members).problems = (declared kind).flatMap (givenProblems members) := by
  have common : commonParameters.flatMap (givenProblems members) =
      (readBoost members).problems ++ (readField members).problems := by
    rw [problems_readBoost, problems_readField, commonParameters, List.flatMap_cons,
      List.flatMap_singleton]
  rw [readOfKind, Checked.problems_seq, Checked.problems_seq, Checked.problems_map, ← common]
  cases kind with
  | fuzzy =>
    rw [readPredicate, Checked.problems_map, problems_readFuzzy, ← List.flatMap_append]
    rfl
  | regexp =>
    rw [readPredicate, Checked.problems_map, problems_readValue, declared, List.flatMap_append,
      List.flatMap_singleton]
  | phrase =>
    rw [readPredicate, Checked.problems_map, problems_readPhrase, ← List.flatMap_append]
    rfl

end Document

end Condition

end FieldSearch
