import FieldSearch.Compilation.Registry
import FieldSearch.Proofs.Failure
import FieldSearch.Query.Render

/-!
# Boosts

The boost of a condition goes into its query and plays no other part: no check and no analysis
depends on it. A condition with another boost is refused for the same failure, or is compiled to the
query with the other boost. The texts of the two queries differ in what is written for the boosts
only.
-/

namespace FieldSearch

/-- The same condition with another boost. -/
def Condition.withBoost (condition : Condition) (boost : Binary64) : Condition :=
  { condition with boost }

/-! ## Boosts as text -/

/-- What is written for a boost: nothing for one. -/
def boostSuffix (boost : Binary64) : Text :=
  if boost.same .one then [] else "^" ++ Text.ofString boost.text

/-- Only a boost of one is left out. -/
theorem boostSuffix_eq_nil_iff (boost : Binary64) : boostSuffix boost = [] ↔ boost.same .one := by
  rw [boostSuffix]
  split
  next one => exact iff_of_true rfl one
  next other => exact iff_of_false (List.cons_ne_nil _ _) other

/-- A boost that is a number is written as its suffix. -/
theorem renderBoost_float (boost : Binary64) : renderBoost (.float boost) = boostSuffix boost := by
  have one : Binary64.one.value = NumericValue.ofInt 1 := by decide +kernel
  have same : (Json.float boost).isOne = boost.same .one := by
    rw [Binary64.same, one]
    rfl
  rw [renderBoost, boostSuffix, same]
  rfl

/-- With another boost only the suffix of the text changes. -/
theorem Query.render_withBoost (query : Query) (boost : Binary64) :
    (query.withBoost (.float boost)).render = query.clause.render.map (· ++ boostSuffix boost) := by
  rw [render, withBoost, renderBoost_float]

/-! ## Drafts with another boost -/

namespace Draft

/-- The same draft with another boost. -/
def withBoost (boost : Binary64) : Draft → Draft
  | .settled query => .settled (query.withBoost (.float boost))
  | .fuzzy field value predicate _ => .fuzzy field value predicate boost
  | .phrase field values slop _ => .phrase field values slop boost

/-- A draft with another boost gives the same query with that boost. -/
theorem finish_withBoost (analysis : TermAnalysis) (boost : Binary64) (draft : Draft) :
    (draft.withBoost boost).finish analysis =
      (draft.finish analysis).map (·.withBoost (.float boost)) := by
  cases draft with
  | settled query => rfl
  | fuzzy field value predicate other =>
    rw [withBoost, finish, finish]
    cases analysis field value <;> rfl
  | phrase field values slop other =>
    rw [withBoost, finish, finish]
    cases phraseTerms (analysis field) 0 values <;> rfl

end Draft

namespace Compiler

variable (registered : Kind) (resolver : TypeResolver) (condition : Condition) (boost : Binary64)

/-- The boost of a fuzzy condition only gets into the boost of its draft. -/
theorem draftFuzzy_withBoost :
    draftFuzzy registered resolver (condition.withBoost boost) =
      (draftFuzzy registered resolver condition).map (·.withBoost boost) := by
  refine bind_eq_map_bind fun field => ?_
  refine bind_eq_map_bind fun given => ?_
  refine bind_eq_map_bind fun value => ?_
  refine bind_eq_map_bind fun predicate => ?_
  refine bind_eq_map_bind fun _ => ?_
  refine bind_eq_map_bind fun _ => ?_
  rfl

/-- The boost of a condition with a pattern only gets into the boost of its draft. -/
theorem draftRegexp_withBoost :
    draftRegexp registered resolver (condition.withBoost boost) =
      (draftRegexp registered resolver condition).map (·.withBoost boost) := by
  refine bind_eq_map_bind fun field => ?_
  refine bind_eq_map_bind fun given => ?_
  refine bind_eq_map_bind fun value => ?_
  refine bind_eq_map_bind fun _ => ?_
  rfl

/-- The boost of a phrase condition only gets into the boost of its draft. -/
theorem draftPhrase_withBoost :
    draftPhrase registered resolver (condition.withBoost boost) =
      (draftPhrase registered resolver condition).map (·.withBoost boost) := by
  refine bind_eq_map_bind fun field => ?_
  refine bind_eq_map_bind fun predicate => ?_
  refine bind_eq_map_bind fun values => ?_
  refine bind_eq_map_bind fun _ => ?_
  refine bind_eq_map_bind fun _ => ?_
  rfl

/-- Whatever the procedure, the boost of a condition only gets into the boost of its draft. -/
theorem draftLike_withBoost (kind : Kind) :
    draftLike kind registered resolver (condition.withBoost boost) =
      (draftLike kind registered resolver condition).map (·.withBoost boost) := by
  cases kind with
  | fuzzy => exact draftFuzzy_withBoost registered resolver condition boost
  | regexp => exact draftRegexp_withBoost registered resolver condition boost
  | phrase => exact draftPhrase_withBoost registered resolver condition boost

end Compiler

namespace Registry

variable (resolver : TypeResolver) (analysis : TermAnalysis) (condition : Condition)
  (boost : Binary64)

/-- The compiler of a kind drafts in the way of the kind. -/
theorem draft_default :
    default.draft resolver condition =
      condition.kind >>= fun kind => Compiler.draftLike kind kind resolver condition := by
  rw [draft, compilerFor]
  cases condition.kind with
  | error failure => rfl
  | ok kind => cases kind <;> rfl

/-- A condition with another boost is compiled to the query with the other boost, or fails alike. -/
theorem compile_default_withBoost :
    default.compile resolver analysis (condition.withBoost boost) =
      (default.compile resolver analysis condition).map (·.withBoost (.float boost)) := by
  rw [compile_eq, compile_eq, draft_default, draft_default]
  change (condition.kind >>= _) >>= _ = _
  cases condition.kind with
  | error failure => rfl
  | ok kind =>
    change Compiler.draftLike kind kind resolver (condition.withBoost boost) >>= _ = _
    rw [Compiler.draftLike_withBoost]
    change _ = (Compiler.draftLike kind kind resolver condition >>= _).map _
    cases Compiler.draftLike kind kind resolver condition with
    | error failure => rfl
    | ok draft => exact draft.finish_withBoost analysis boost

variable {resolver analysis condition} in
/-- A query has the boost of its condition. -/
theorem withBoost_of_compile {query : Query}
    (compiled : default.compile resolver analysis condition = .ok query) :
    query.withBoost (.float condition.boost) = query := by
  have same := compile_default_withBoost resolver analysis condition condition.boost
  change default.compile resolver analysis condition = _ at same
  rw [compiled] at same
  exact (Except.ok.inj same).symm

/-- **A boost is passed on and plays no other part.** With the built-in compilers a condition with
another boost fails exactly as the condition does, and otherwise gives the same query with the other
boost, whose clause is the same. Both queries are written or neither is, and their texts are that of
the clause and what is written for the boosts, which is nothing exactly for one. -/
theorem compile_withBoost :
    (∀ failure, default.compile resolver analysis (condition.withBoost boost) = .error failure ↔
      default.compile resolver analysis condition = .error failure) ∧
    (∀ query, default.compile resolver analysis condition = .ok query →
      default.compile resolver analysis (condition.withBoost boost) =
          .ok (query.withBoost (.float boost)) ∧
        query.withBoost (.float boost) = ⟨query.clause, .float boost⟩ ∧
        ∃ clause : Except Failure Text,
          query.render = clause.map (· ++ boostSuffix condition.boost) ∧
          (query.withBoost (.float boost)).render = clause.map (· ++ boostSuffix boost)) ∧
    (boostSuffix boost = [] ↔ boost.same .one) := by
  refine ⟨?_, ?_, boostSuffix_eq_nil_iff boost⟩
  · intro failure
    rw [compile_default_withBoost]
    cases default.compile resolver analysis condition with
    | error other => rfl
    | ok query => exact iff_of_false nofun nofun
  · intro query compiled
    refine ⟨?_, rfl, query.clause.render, ?_, query.render_withBoost boost⟩
    · rw [compile_default_withBoost, compiled]
      rfl
    · rw [← query.render_withBoost condition.boost, withBoost_of_compile compiled]

/-- A phrase with an infinite boost is given the boost one. -/
theorem compile_withBoost_quick_fox :
    ∃ query, default.compile (fun _ => .unknown) (fun _ text => .ok (.str text))
        ⟨.infinite false, some "title", .phrase ⟨some [some "quick", none, some "fox"], 1⟩⟩ =
          .ok query ∧
      query.render = .ok (Text.ofString "title:\"quick ? fox\"~1^inf") ∧
      default.compile (fun _ => .unknown) (fun _ text => .ok (.str text))
        ⟨.one, some "title", .phrase ⟨some [some "quick", none, some "fox"], 1⟩⟩ =
          .ok (query.withBoost (.float .one)) ∧
      (query.withBoost (.float .one)).render = .ok (Text.ofString "title:\"quick ? fox\"~1") := by
  have compiled : default.compile (fun _ => .unknown) (fun _ text => .ok (.str text))
      ⟨.infinite false, some "title", .phrase ⟨some [some "quick", none, some "fox"], 1⟩⟩ =
        .ok ⟨.phrase ⟨"title", [⟨.str "quick", .int 0⟩, ⟨.str "fox", .int 2⟩], .int 1⟩,
          .float (.infinite false)⟩ := by
    rfl
  obtain ⟨_, changed, _⟩ := compile_withBoost (fun _ => .unknown) (fun _ text => .ok (.str text))
    ⟨.infinite false, some "title", .phrase ⟨some [some "quick", none, some "fox"], 1⟩⟩ .one
  exact ⟨_, compiled, rfl, (changed _ compiled).1, rfl⟩

end Registry

end FieldSearch
