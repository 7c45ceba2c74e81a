import FieldSearch.Proofs.Json.Same
import FieldSearch.Query.Basic

/-!
# What the document of a query tells

Two queries have the same document exactly when they are the same: the kind, the field, each
parameter, each term with its position, the order of the terms and the boost can be told from it.
When the parameters are texts, integers and truth values, as they should be, the documents are the
same only if all of these are equal and the boosts have one value.
-/

namespace FieldSearch

/-! ## Terms -/

/-- Terms of phrases are the same when their documents are. -/
theorem PhraseTerm.same_toJson (first second : PhraseTerm) :
    first.toJson.same second.toJson = first.same second := by
  have names : Entries.names [("text", first.text), ("position", first.position)] =
      Entries.names [("text", second.text), ("position", second.position)] := rfl
  have distinct : [("text" : Text), "position"].Nodup := by decide
  rw [toJson, toJson, Json.same_obj_of_names names distinct]
  simp [List.isEqv, PhraseTerm.same]

/-! ## Settings -/

namespace Clause

/-- What stands under the field in the document of a query: the parameters of its clause and its
boost. -/
def settings (clause : Clause) (boost : Json) : List (Text × Json) :=
  clause.body.2.concat ("boost", boost)

/-- The names of the settings. -/
def settingNames : Clause → List Text
  | .fuzzy _ =>
    ["value", "fuzziness", "prefix_length", "max_expansions", "transpositions", "boost"]
  | .regexp _ => ["value", "boost"]
  | .phrase _ => ["terms", "slop", "boost"]

/-- The settings of a clause are under the names for its kind. -/
theorem names_settings (clause : Clause) (boost : Json) :
    Entries.names (clause.settings boost) = clause.settingNames := by
  cases clause <;> rfl

/-- The names of the settings are distinct. -/
theorem nodup_settingNames (clause : Clause) : clause.settingNames.Nodup := by
  cases clause <;> exact of_decide_eq_true rfl

/-- Settings of one kind of query are the same when their values are the same one by one. -/
theorem same_settings {first second : Clause} (named : first.settingNames = second.settingNames)
    (boost other : Json) :
    (Json.obj (first.settings boost)).same (.obj (second.settings other)) =
      ((first.settings boost).map Prod.snd).isEqv ((second.settings other).map Prod.snd)
        Json.same := by
  apply Json.same_obj_of_names
  · rw [names_settings, names_settings, named]
  · rw [names_settings]
    exact nodup_settingNames first

end Clause

/-! ## Queries -/

/-- Queries have the same document exactly when they are the same, whatever their parameters. -/
theorem Query.same_toJson (first second : Query) :
    first.toJson.same second.toJson = first.same second := by
  obtain ⟨first, boost⟩ := first
  obtain ⟨second, other⟩ := second
  change (Json.obj [(first.body.1, .obj [(first.field, .obj (first.settings boost))])]).same
      (.obj [(second.body.1, .obj [(second.field, .obj (second.settings other))])]) =
    (first.same second && boost.same other)
  rw [Json.same_obj_singleton, Json.same_obj_singleton]
  -- Queries of two kinds differ in the name of the one member.
  cases first with
  | fuzzy first =>
    cases second with
    | fuzzy second =>
      have named : (Clause.fuzzy first).settingNames = (Clause.fuzzy second).settingNames := rfl
      rw [Clause.same_settings named, Bool.eq_iff_iff]
      simp only [Bool.and_eq_true, decide_eq_true_eq]
      simp [Clause.settings, Clause.body, List.isEqv, Clause.same, Term.same, Clause.field,
        and_assoc]
    | _ => rfl
  | regexp first =>
    cases second with
    | regexp second =>
      have named : (Clause.regexp first).settingNames = (Clause.regexp second).settingNames := rfl
      rw [Clause.same_settings named, Bool.eq_iff_iff]
      simp only [Bool.and_eq_true, decide_eq_true_eq]
      simp [Clause.settings, Clause.body, List.isEqv, Clause.same, Term.same, Clause.field,
        and_assoc]
    | _ => rfl
  | phrase first =>
    cases second with
    | phrase second =>
      have named : (Clause.phrase first).settingNames = (Clause.phrase second).settingNames := rfl
      rw [Clause.same_settings named, Bool.eq_iff_iff]
      simp only [Bool.and_eq_true, decide_eq_true_eq]
      simp [Clause.settings, Clause.body, List.isEqv, Clause.same, Clause.field, and_assoc,
        Json.same_arr_map PhraseTerm.same_toJson]
    | _ => rfl

/-! ## Parameters of proper types -/

/-- A clause whose parameters have their proper types. Any text may be missing, and the positions of
a phrase may be any integers in any order. -/
inductive TypedClause
  | fuzzy (field : Text) (text : Option Text) (maxEdits prefixLength maxExpansions : Int)
    (transpositions : Bool)
  | regexp (field : Text) (text : Option Text)
  | phrase (field : Text) (terms : List (Option Text × Int)) (slop : Int)

namespace TypedClause

/-- The terms of a phrase with these texts at these positions. -/
def phraseTerms (terms : List (Option Text × Int)) : List PhraseTerm :=
  terms.map fun (text, position) => ⟨.ofText? text, .int position⟩

/-- The clause with these parameters. -/
def clause : TypedClause → Clause
  | .fuzzy field text maxEdits prefixLength maxExpansions transpositions =>
    .fuzzy
      { term := ⟨field, .ofText? text⟩
        maxEdits := .int maxEdits
        prefixLength := .int prefixLength
        maxExpansions := .int maxExpansions
        transpositions := .bool transpositions }
  | .regexp field text => .regexp ⟨field, .ofText? text⟩
  | .phrase field terms slop => .phrase ⟨field, phraseTerms terms, .int slop⟩

/-- Typed terms of phrases are the same only if they are equal. -/
theorem isEqv_phraseTerms_iff {first second : List (Option Text × Int)} :
    (phraseTerms first).isEqv (phraseTerms second) PhraseTerm.same ↔ first = second := by
  induction first generalizing second with
  | nil => cases second <;> simp [phraseTerms]
  | cons term rest ih =>
    cases second with
    | nil => simp [phraseTerms]
    | cons other others =>
      have later := @ih others
      simp only [phraseTerms] at later
      simp [phraseTerms, List.isEqv, PhraseTerm.same, Json.same_ofText?_iff, Json.same_int_iff,
        later, Prod.ext_iff]

/-- Typed clauses are the same only if they are equal. -/
theorem same_clause_iff {first second : TypedClause} :
    first.clause.same second.clause ↔ first = second := by
  cases first <;> cases second <;>
    simp [clause, Clause.same, Term.same, Json.same_ofText?_iff, Json.same_int_iff,
      Json.same_bool_iff, isEqv_phraseTerms_iff, and_assoc]

end TypedClause

/-- **The document of a query tells the query.** Two queries of any kinds have the same document
exactly when they are the same, whatever values their parameters and positions are. When these are
texts, integers and truth values, and the boosts are numbers, the documents are the same exactly
when all parameters, all terms in their order and all positions are equal and the boosts have one
value. -/
theorem Query.same_toJson_iff_same :
    (∀ first second : Query, first.toJson.same second.toJson ↔ first.same second) ∧
    ∀ (first second : TypedClause) (boost other : Binary64),
      (Query.toJson ⟨first.clause, .float boost⟩).same (Query.toJson ⟨second.clause, .float other⟩) ↔
        first = second ∧ boost.same other := by
  refine ⟨fun first second => ?_, fun first second boost other => ?_⟩
  · rw [same_toJson]
  · rw [same_toJson, Query.same, Bool.and_eq_true, TypedClause.same_clause_iff]
    rfl

end FieldSearch
