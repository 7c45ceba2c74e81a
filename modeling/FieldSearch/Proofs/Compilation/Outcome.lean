import FieldSearch.Proofs.Compilation.Requirement

/-!
# What compilation gives

A condition of one of the three kinds is compiled by the compiler of its kind. What this gives is
the outcome of the requirements of the kind, in their order, over the query that is made when all
are met. The requirements speak of the condition and of the type of its field only, so that no
analysis has a part in which of them is reported.
-/

namespace FieldSearch

/-! ## Terms of a phrase -/

/-- The values that are there, each with its position, counted from `first`. -/
def placedFrom (first : Nat) (values : List (Option Text)) : List (Text × Nat) :=
  (values.zipIdx first).filterMap fun (value, position) => value.map (·, position)

/-- The analyses of the values that are there, in order. The first that fails decides the
failure. -/
def analyzedFrom (analyze : Text → Except Failure Json) (first : Nat)
    (values : List (Option Text)) : Except Failure (List PhraseTerm) :=
  (placedFrom first values).mapM fun (value, position) =>
    (analyze value).map (⟨·, .int position⟩)

/-- What is not there is not analyzed. -/
theorem analyzedFrom_cons_none (analyze : Text → Except Failure Json) (first : Nat)
    (rest : List (Option Text)) :
    analyzedFrom analyze first (none :: rest) = analyzedFrom analyze (first + 1) rest :=
  rfl

/-- The first value of a phrase is analyzed before the others. -/
theorem analyzedFrom_cons_some (analyze : Text → Except Failure Json) (first : Nat) (value : Text)
    (rest : List (Option Text)) :
    analyzedFrom analyze first (some value :: rest) = do
      let term ← (analyze value).map (⟨·, .int first⟩)
      let terms ← analyzedFrom analyze (first + 1) rest
      return term :: terms := by
  simp only [analyzedFrom, placedFrom, List.zipIdx_cons, List.filterMap_cons, Option.map_some,
    List.mapM_cons]

/-- The terms of a phrase are the analyses of its values but those that are nothing. -/
theorem phraseTerms_eq (analyze : Text → Except Failure Json) (first : Nat)
    (values : List (Option Text)) :
    Draft.phraseTerms analyze first values =
      (analyzedFrom analyze first values).map (·.filter (!·.text.isNothing)) := by
  induction values generalizing first with
  | nil => rfl
  | cons value rest ih =>
    cases value with
    | none => exact ih (first + 1)
    | some text =>
      rw [Draft.phraseTerms, ih, analyzedFrom_cons_some]
      cases analyze text with
      | error failure => rfl
      | ok term =>
        cases analyzedFrom analyze (first + 1) rest with
        | error failure => rfl
        | ok terms =>
          cases nothing : term.isNothing <;>
            simp [Except.map, bind, Except.bind, pure, Except.pure, nothing]

/-! ## Queries of the kinds -/

/-- The query of a fuzzy condition whose value has the given term. -/
def fuzzyQuery (boost : Binary64) (name : Text) (predicate : FuzzyPredicate) (term : Json) :
    Query where
  clause := .fuzzy
    { term := ⟨name, term⟩
      maxEdits := .int predicate.maxEdits
      prefixLength := .int predicate.prefixLength
      maxExpansions := .int predicate.maxExpansions
      transpositions := .bool predicate.transpositions }
  boost := .float boost

/-- The query of a condition with a pattern. -/
def regexpQuery (boost : Binary64) (name pattern : Text) : Query where
  clause := .regexp ⟨name, .str pattern⟩
  boost := .float boost

/-- The query of a phrase condition whose values have the given terms. A term that is nothing
leaves its position empty. -/
def phraseQuery (boost : Binary64) (name : Text) (slop : Int) (terms : List PhraseTerm) :
    Query where
  clause := .phrase ⟨name, terms.filter (!·.text.isNothing), .int slop⟩
  boost := .float boost

/-! ## Requirements of the kinds -/

namespace Requirement

/-- What a fuzzy condition has to meet. -/
def fuzzy (types : Text → FieldType) (name : Option Text) (predicate : FuzzyPredicate) :
    List Requirement :=
  [field name, value predicate.value] ++ numbers predicate ++
    [characters .fuzzy (name.getD []) (types (name.getD []))]

/-- What a condition with a pattern has to meet. -/
def regexp (types : Text → FieldType) (name pattern : Option Text) : List Requirement :=
  [field name, value pattern, characters .regexp (name.getD []) (types (name.getD []))]

/-- What a phrase condition has to meet. -/
def phrase (types : Text → FieldType) (name : Option Text) (predicate : PhrasePredicate) :
    List Requirement :=
  [field name, values predicate.values, slop predicate.slop,
    characters .phrase (name.getD []) (types (name.getD []))]

end Requirement

/-! ## Drafts by kind -/

namespace Compiler

variable {resolver : TypeResolver} {types : Text → FieldType}

/-- The checks of a fuzzy condition are its requirements, in their order. -/
theorem draftFuzzy_eq (denotes : ∀ field, (resolver field).Denotes (types field))
    (boost : Binary64) (field : Option Text) (predicate : FuzzyPredicate) :
    draftFuzzy .fuzzy resolver ⟨boost, field, .fuzzy predicate⟩ =
      outcome (Requirement.fuzzy types field predicate)
        (.ok (.fuzzy (field.getD []) (predicate.value.getD []) predicate boost)) := by
  rw [draftFuzzy, requireField_eq, outcome_ok_bind]
  change outcome _ (requireValue predicate.value >>= fun value =>
    checkFuzzy predicate >>= fun _ => _) = _
  rw [requireValue_eq, outcome_ok_bind, checkFuzzy_eq, outcome_ok_bind,
    checkFieldType_eq (denotes _), outcome_ok_bind, ← outcome_append, ← outcome_append,
    ← outcome_append]
  rfl

/-- The checks of a condition with a pattern are its requirements, in their order. -/
theorem draftRegexp_eq (denotes : ∀ field, (resolver field).Denotes (types field))
    (boost : Binary64) (field pattern : Option Text) :
    draftRegexp .regexp resolver ⟨boost, field, .regexp pattern⟩ =
      outcome (Requirement.regexp types field pattern)
        (.ok (.settled ⟨.regexp ⟨field.getD [], .str (pattern.getD [])⟩, .float boost⟩)) := by
  rw [draftRegexp, requireField_eq, outcome_ok_bind]
  change outcome _ (requireValue pattern >>= fun _ => _) = _
  rw [requireValue_eq, outcome_ok_bind, checkFieldType_eq (denotes _), outcome_ok_bind,
    ← outcome_append, ← outcome_append]
  rfl

/-- The checks of a phrase condition are its requirements, in their order. -/
theorem draftPhrase_eq (denotes : ∀ field, (resolver field).Denotes (types field))
    (boost : Binary64) (field : Option Text) (predicate : PhrasePredicate) :
    draftPhrase .phrase resolver ⟨boost, field, .phrase predicate⟩ =
      outcome (Requirement.phrase types field predicate)
        (.ok (.phrase (field.getD []) (predicate.values.getD []) predicate.slop boost)) := by
  rw [draftPhrase, requireField_eq, outcome_ok_bind]
  change outcome _ (requireValues predicate.values >>= fun values =>
    checkSlop predicate.slop >>= fun _ => _) = _
  rw [requireValues_eq, outcome_ok_bind, checkSlop_eq, outcome_ok_bind,
    checkFieldType_eq (denotes _), outcome_ok_bind, ← outcome_append, ← outcome_append,
    ← outcome_append]
  rfl

end Compiler

/-! ## Compilation by kind -/

namespace Registry

/-- A condition that matches by itself is compiled by the compiler of its kind. -/
theorem compilerFor_default {condition : Condition} {kind : Kind}
    (kinded : condition.predicate.kind? = some kind) :
    default.compilerFor condition = .ok (.builtIn kind) := by
  have registered : default.compiler? kind = some (.builtIn kind) := by
    cases kind <;> rfl
  simp only [compilerFor, Condition.kind_of_kind? kinded, bind, Except.bind, registered]
  rfl

/-- A condition with a kind is compiled by the procedure of that kind. -/
theorem compile_default {condition : Condition} (kind : Kind)
    (kinded : condition.predicate.kind? = some kind) (resolver : TypeResolver)
    (analysis : TermAnalysis) :
    default.compile resolver analysis condition =
      Compiler.draftLike kind kind resolver condition >>= (·.finish analysis) := by
  simp only [compile_eq, draft, compilerFor_default kinded]
  rfl

variable {resolver : TypeResolver} {types : Text → FieldType}

/-- A fuzzy condition that meets its requirements gives the query with the term of its value. -/
theorem compile_fuzzy (denotes : ∀ field, (resolver field).Denotes (types field))
    (analysis : TermAnalysis) (boost : Binary64) (field : Option Text)
    (predicate : FuzzyPredicate) :
    default.compile resolver analysis ⟨boost, field, .fuzzy predicate⟩ =
      outcome (Requirement.fuzzy types field predicate)
        ((analysis (field.getD []) (predicate.value.getD [])).map
          (fuzzyQuery boost (field.getD []) predicate)) := by
  rw [compile_default .fuzzy rfl, Compiler.draftLike, Compiler.draftFuzzy_eq denotes,
    outcome_ok_bind, Draft.finish]
  cases analysis (field.getD []) (predicate.value.getD []) <;> rfl

/-- A condition with a pattern that meets its requirements gives the query with the pattern. -/
theorem compile_regexp (denotes : ∀ field, (resolver field).Denotes (types field))
    (analysis : TermAnalysis) (boost : Binary64) (field pattern : Option Text) :
    default.compile resolver analysis ⟨boost, field, .regexp pattern⟩ =
      outcome (Requirement.regexp types field pattern)
        (.ok (regexpQuery boost (field.getD []) (pattern.getD []))) := by
  rw [compile_default .regexp rfl, Compiler.draftLike, Compiler.draftRegexp_eq denotes,
    outcome_ok_bind, Draft.finish, regexpQuery]

/-- A phrase condition that meets its requirements gives the phrase with the terms of its values. -/
theorem compile_phrase (denotes : ∀ field, (resolver field).Denotes (types field))
    (analysis : TermAnalysis) (boost : Binary64) (field : Option Text)
    (predicate : PhrasePredicate) :
    default.compile resolver analysis ⟨boost, field, .phrase predicate⟩ =
      outcome (Requirement.phrase types field predicate)
        ((analyzedFrom (analysis (field.getD [])) 0 (predicate.values.getD [])).map
          (phraseQuery boost (field.getD []) predicate.slop)) := by
  rw [compile_default .phrase rfl, Compiler.draftLike, Compiler.draftPhrase_eq denotes,
    outcome_ok_bind, Draft.finish, phraseTerms_eq]
  cases analyzedFrom (analysis (field.getD [])) 0 (predicate.values.getD []) <;> rfl

/-- **The first requirement that is not met decides.** With the built-in compilers a condition of
each kind is refused for the first requirement of its kind that it does not meet, whatever else is
wrong with it, and when it meets all of them it is compiled: a failure of the analysis is passed on,
and every parameter of the condition goes into the query as it is. -/
theorem compile_eq_outcome (denotes : ∀ field, (resolver field).Denotes (types field))
    (analysis : TermAnalysis) (boost : Binary64) (field : Option Text) :
    (∀ predicate : FuzzyPredicate,
      default.compile resolver analysis ⟨boost, field, .fuzzy predicate⟩ =
        outcome (Requirement.fuzzy types field predicate)
          ((analysis (field.getD []) (predicate.value.getD [])).map
            (fuzzyQuery boost (field.getD []) predicate))) ∧
    (∀ pattern : Option Text,
      default.compile resolver analysis ⟨boost, field, .regexp pattern⟩ =
        outcome (Requirement.regexp types field pattern)
          (.ok (regexpQuery boost (field.getD []) (pattern.getD [])))) ∧
    ∀ predicate : PhrasePredicate,
      default.compile resolver analysis ⟨boost, field, .phrase predicate⟩ =
        outcome (Requirement.phrase types field predicate)
          ((analyzedFrom (analysis (field.getD [])) 0 (predicate.values.getD [])).map
            (phraseQuery boost (field.getD []) predicate.slop)) :=
  ⟨compile_fuzzy denotes analysis boost field, compile_regexp denotes analysis boost field,
    compile_phrase denotes analysis boost field⟩

/-- Too many edits are reported before a negative prefix and before a field of integers. -/
theorem compile_eq_outcome_three_faults :
    (TypeAnswer.named (.str "integer")).Denotes .integer ∧
    default.compile (fun _ => .named (.str "integer")) (fun _ text => .ok (.str text))
        ⟨.one, some "age", .fuzzy ⟨some "jon", 3, -1, 50, true⟩⟩ =
      .error (.reported (.outOfRange (.str "max_edits must be between 0 and 2") (.str "max_edits")
        (.int 3) (.str "0 <= max_edits <= 2"))) := by
  have denotes : (TypeAnswer.named (.str "integer")).Denotes .integer := .named .integer
  refine ⟨denotes, ?_⟩
  rw [(compile_eq_outcome (fun _ => denotes) _ .one (some "age")).1 ⟨some "jon", 3, -1, 50, true⟩]
  rfl

end Registry

end FieldSearch
