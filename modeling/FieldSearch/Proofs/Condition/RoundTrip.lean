import FieldSearch.Proofs.Condition.Reading
import FieldSearch.Proofs.Wire.Scalar

/-!
# Conditions and their documents

The document of a condition that was itself read from a document describes the same condition. It
is read back parameter by parameter, each under the spelling under which it was written.
-/

namespace FieldSearch.Condition

open Wire (Checked Parameter acceptBoolean acceptInteger acceptNumber acceptOptionalText
  acceptOptionalText_ofText? acceptOptionalTexts acceptOptionalTexts_map nullMeansDefault)

/-! ## What is written -/

/-- The members of a condition's document. -/
def members (condition : Condition) : Entries Json :=
  (typeParameter.spelling, .str condition.tag) ::
    condition.parameters.map fun (parameter, value) => (parameter.spelling, value)

/-- No two members of a condition's document have one name. -/
theorem nodup_names_members (condition : Condition) :
    (Entries.names condition.members).Nodup := by
  obtain ⟨boost, field, predicate⟩ := condition
  cases predicate <;>
    · simp only [Entries.names, members, parameters, predicateParameters, List.map_cons,
        List.map_nil]
      decide

/-- Every parameter is found in the document under its spelling, with its value. -/
theorem find?_members {condition : Condition} {parameter : Parameter} {value : Json}
    (given : (parameter, value) ∈ condition.parameters) :
    parameter.find? condition.members = some (parameter.spelling, value) := by
  have member : (parameter.spelling, value) ∈ condition.members :=
    List.mem_cons_of_mem _ (List.mem_map.mpr ⟨(parameter, value), given, rfl⟩)
  rw [Parameter.find?, Entries.find?_of_mem condition.nodup_names_members member]

/-- A parameter is read from the document as its value is accepted. -/
theorem read_members {α : Type} {condition : Condition} {parameter : Parameter} {value : Json}
    {default result : α} {accept : Json → Checked α}
    (given : (parameter, value) ∈ condition.parameters)
    (accepted : accept value = .accepted result) :
    parameter.read condition.members default accept = .accepted result := by
  rw [Parameter.read, find?_members given]
  exact Checked.under_eq_accepted_iff.mpr accepted

/-! ## What is read back -/

/-- An integer parameter is read back from the members of a condition. -/
theorem readInteger_members {condition : Condition} {parameter : Parameter} {n : Int}
    (given : (parameter, .int n) ∈ condition.parameters) (default : Int) :
    readInteger parameter condition.members default = .accepted n :=
  read_members given rfl

/-- The names of kinds are in lower case. -/
theorem lower_kind_name (kind : Kind) : Text.lower kind.name = kind.name := by
  cases kind <;> decide +kernel

/-- The kind of a condition is read back from its members. -/
theorem documentKind_members {condition : Condition} {kind : Kind}
    (kinded : condition.predicate.kind? = some kind) :
    documentKind condition.members = .ok kind := by
  have named : condition.members.find? typeParameter.spelling = some (.str kind.name) := by
    rw [members, Entries.find?, if_pos rfl, tag, Predicate.tag_of_kind? kinded]
  have nonempty : kind.name.isEmpty = false := by
    cases kind <;> decide
  have tagged : documentTag condition.members = .ok kind.name := by
    simp only [documentTag, named, nonempty, lower_kind_name, Bool.false_eq_true, ↓reduceIte]
  simp only [documentKind, tagged, bind, Except.bind, Kind.ofName?_name]

/-- The parameters of a predicate are among those of the condition. -/
theorem mem_parameters_of_predicate {condition : Condition} {entry : Parameter × Json}
    (given : entry ∈ predicateParameters condition.predicate) : entry ∈ condition.parameters :=
  List.mem_cons_of_mem _ (List.mem_cons_of_mem _ given)

/-- The parameters of a fuzzy condition are read back. -/
theorem readFuzzy_members {condition : Condition} {predicate : FuzzyPredicate}
    (fuzzy : condition.predicate = .fuzzy predicate) :
    readFuzzy condition.members = .accepted predicate := by
  have given : ∀ entry ∈ predicateParameters (.fuzzy predicate), entry ∈ condition.parameters := by
    rw [← fuzzy]
    exact fun entry => mem_parameters_of_predicate
  have value : readValue condition.members = .accepted predicate.value :=
    read_members (given _ (by simp [predicateParameters])) (acceptOptionalText_ofText? _)
  have maxEdits := readInteger_members (given (maxEditsParameter, .int predicate.maxEdits)
    (by simp [predicateParameters])) defaultFuzzy.maxEdits
  have prefixLength := readInteger_members (given (prefixLengthParameter,
    .int predicate.prefixLength) (by simp [predicateParameters])) defaultFuzzy.prefixLength
  have maxExpansions := readInteger_members (given (maxExpansionsParameter,
    .int predicate.maxExpansions) (by simp [predicateParameters])) defaultFuzzy.maxExpansions
  have transpositions : transpositionsParameter.read condition.members
      defaultFuzzy.transpositions (nullMeansDefault defaultFuzzy.transpositions acceptBoolean) =
        .accepted predicate.transpositions :=
    read_members (given (transpositionsParameter, .bool predicate.transpositions)
      (by simp [predicateParameters])) rfl
  rw [readFuzzy, value, maxEdits, prefixLength, maxExpansions, transpositions]
  rfl

/-- The parameters of a phrase condition are read back. -/
theorem readPhrase_members {condition : Condition} {predicate : PhrasePredicate}
    (phrase : condition.predicate = .phrase predicate) :
    readPhrase condition.members = .accepted predicate := by
  have given : ∀ entry ∈ predicateParameters (.phrase predicate), entry ∈ condition.parameters := by
    rw [← phrase]
    exact fun entry => mem_parameters_of_predicate
  have values : valuesParameter.read condition.members defaultPhrase.values acceptOptionalTexts =
      .accepted predicate.values := by
    apply read_members (given _ List.mem_cons_self)
    cases predicate.values with
    | none => rfl
    | some values => exact acceptOptionalTexts_map values
  have slop := readInteger_members (given (slopParameter, .int predicate.slop)
    (by simp [predicateParameters])) defaultPhrase.slop
  rw [readPhrase, values, slop]
  rfl

/-- The parameters of a condition of some kind are read back from its document. -/
theorem readPredicate_members {condition : Condition} {kind : Kind}
    (kinded : condition.predicate.kind? = some kind) :
    readPredicate kind condition.members = .accepted condition.predicate := by
  cases shape : condition.predicate with
  | plain tag =>
    rw [shape] at kinded
    cases kinded
  | fuzzy predicate =>
    rw [shape] at kinded
    cases kinded
    rw [readPredicate, readFuzzy_members shape, Checked.map_accepted]
  | regexp value =>
    rw [shape] at kinded
    cases kinded
    have read : readValue condition.members = .accepted value :=
      read_members (mem_parameters_of_predicate (by rw [shape]; exact List.mem_cons_self))
        (acceptOptionalText_ofText? value)
    rw [readPredicate, read, Checked.map_accepted]
  | phrase predicate =>
    rw [shape] at kinded
    cases kinded
    rw [readPredicate, readPhrase_members shape, Checked.map_accepted]

/-- A condition with a kind and its field in lower case is read back from its document. -/
theorem ofDocument_toJson {condition : Condition} (normal : condition.IsNormal) :
    ofDocument condition.toJson = .ok condition := by
  obtain ⟨⟨kind, kinded⟩, lowered⟩ := normal
  refine ofDocument_eq_ok_iff.mpr ⟨condition.members, kind, rfl, documentKind_members kinded, ?_⟩
  refine readOfKind_eq_accepted_iff.mpr ⟨?_, ?_, readPredicate_members kinded⟩
  · exact read_members List.mem_cons_self rfl
  · have read : fieldParameter.read condition.members none acceptOptionalText =
        .accepted condition.field :=
      read_members (List.mem_cons_of_mem _ List.mem_cons_self)
        (acceptOptionalText_ofText? condition.field)
    rw [readField, read, Checked.map_accepted, lowered]

/-- **Conditions survive their documents.** A condition that a document describes is written as a
document that describes the same condition, of the same kind and with the same boost, field and
parameters. Every parameter is found there, with its value, under the spelling under which it is
read, and the field is not changed by being put in lower case once more. -/
theorem ofDocument_toJson_of_ofDocument {document : Json} {condition : Condition}
    (read : ofDocument document = .ok condition) :
    ofDocument condition.toJson = .ok condition ∧
      (∃ members, condition.toJson = .obj members ∧
        ∀ entry ∈ condition.parameters, entry.1.find? members = some (entry.1.spelling, entry.2)) ∧
      condition.field.map Text.lower = condition.field := by
  have normal := isNormal_of_ofDocument read
  refine ⟨ofDocument_toJson normal, ⟨condition.members, rfl, ?_⟩, normal.lowered⟩
  exact fun entry given => find?_members given

/-- A phrase on a field that ends in a sigma, with an absent value among its values. -/
theorem ofDocument_toJson_of_ofDocument_phrase :
    ofDocument (Condition.toJson ⟨.infinite true, some "οδος",
        .phrase ⟨some [some "quick", none, some "fox"], 10⟩⟩) =
      .ok ⟨.infinite true, some "οδος", .phrase ⟨some [some "quick", none, some "fox"], 10⟩⟩ := by
  have read : (ofDocument (.obj [("type", .str "Phrase"), ("field", .str "ΟΔΟΣ"),
      ("values", .arr [.str "quick", .null, .str "fox"]), ("slop", .str "+1_0"),
      ("boost", .float (.infinite true))])).toOption =
        some ⟨.infinite true, some "οδος",
          .phrase ⟨some [some "quick", none, some "fox"], 10⟩⟩ := by
    decide +kernel
  exact (ofDocument_toJson_of_ofDocument (ok_of_toOption read)).1

end FieldSearch.Condition
