import FieldSearch.Proofs.Compilation.FieldCase
import FieldSearch.Proofs.Compilation.Outcome
import FieldSearch.Proofs.Schema.Acceptance
import Mathlib.Logic.Relation

/-!
# Declarations of other fields

What a condition is compiled to depends on the declarations of its own field only. Declarations of
other fields may come and go anywhere between them. A condition with a pattern depends on the type
of its field alone, whatever analyzers there are.
-/

namespace FieldSearch

namespace Schema

/-- One change of declarations that leaves those of a field alone. A declaration that is changed or
moved is removed and added again. -/
inductive ChangedElsewhere (field : Text) :
    List (Text × Declaration) → List (Text × Declaration) → Prop
  | added (earlier later : List (Text × Declaration)) {entry : Text × Declaration}
    (elsewhere : Text.lower entry.1 ≠ Text.lower field) :
    ChangedElsewhere field (earlier ++ later) (earlier ++ entry :: later)
  | removed (earlier later : List (Text × Declaration)) {entry : Text × Declaration}
    (elsewhere : Text.lower entry.1 ≠ Text.lower field) :
    ChangedElsewhere field (earlier ++ entry :: later) (earlier ++ later)

variable {α : Type} [TextAnalyzer α]

/-- A schema is made of custom analyzers, the name of a default and declarations. The last two may
be written as a document, also in JSON text. -/
inductive MadeOf (schema : Schema α) (custom : List (Text × α)) (defaultAnalyzer : Text) :
    List (Text × Declaration) → Prop
  | declared {declarations : List (Text × Declaration)}
    (built : ofDeclarations declarations defaultAnalyzer custom = .ok schema) :
    MadeOf schema custom defaultAnalyzer declarations
  | described {document : Json} {fields : List (Text × FieldMapping)}
    (describes : Describes document defaultAnalyzer fields)
    (built : ofDocument document custom = .ok schema) :
    MadeOf schema custom defaultAnalyzer (given fields)
  | written {text : Text} {document : Json} {fields : List (Text × FieldMapping)}
    (read : Json.read text = .ok document) (describes : Describes document defaultAnalyzer fields)
    (built : ofText text custom = .ok schema) :
    MadeOf schema custom defaultAnalyzer (given fields)

/-- The declarations of a field, in order. -/
def declarationsOf (declarations : List (Text × Declaration)) (field : Text) :
    List (Text × Declaration) :=
  declarations.filter fun entry => Text.lower entry.1 = Text.lower field

variable {custom : List (Text × α)} {defaultAnalyzer field : Text}
  {declarations others : List (Text × Declaration)} {schema other : Schema α}

/-- However a schema is written, it is built from the declarations that it is made of. -/
theorem MadeOf.ofDeclarations_eq (made : schema.MadeOf custom defaultAnalyzer declarations) :
    ofDeclarations declarations defaultAnalyzer custom = .ok schema := by
  cases made with
  | declared built => exact built
  | described describes built => rw [← ofDocument_of_describes describes, built]
  | written read describes built =>
    rw [← ofDocument_of_describes describes]
    obtain ⟨members, rfl, _⟩ := describes
    rw [ofText, read] at built
    dsimp only at built
    cases described : ofDocument (.obj members) custom with
    | ok found =>
      rw [described] at built
      cases built
      rfl
    | error report =>
      rw [described] at built
      cases built

/-! ## Changes elsewhere -/

/-- One change elsewhere leaves the declarations of a field as they are. -/
theorem declarationsOf_of_changedElsewhere (changed : ChangedElsewhere field declarations others) :
    declarationsOf declarations field = declarationsOf others field := by
  cases changed with
  | added earlier later elsewhere => simp [declarationsOf, List.filter_append, elsewhere]
  | removed earlier later elsewhere => simp [declarationsOf, List.filter_append, elsewhere]

/-- Changes elsewhere leave the declarations of a field as they are, in their order. -/
theorem declarationsOf_of_run
    (run : Relation.ReflTransGen (ChangedElsewhere field) declarations others) :
    declarationsOf declarations field = declarationsOf others field := by
  induction run with
  | refl => rfl
  | tail _ step ih => exact ih.trans (declarationsOf_of_changedElsewhere step)

/-- The last declaration of a field is the last of its declarations. -/
theorem lastDeclared?_eq_getLast? (declarations : List (Text × Declaration)) (field : Text) :
    lastDeclared? declarations field = (declarationsOf declarations field).getLast?.map (·.2) := by
  rw [lastDeclared?, List.findRev?_eq_find?_reverse, declarationsOf, ← List.head?_reverse,
    ← List.filter_reverse, List.head?_filter]

/-- Fields with the same declarations have the same mapping. -/
theorem lastMapping?_congr
    (same : declarationsOf declarations field = declarationsOf others field) :
    lastMapping? declarations field = lastMapping? others field := by
  rw [lastMapping?, lastMapping?, lastDeclared?_eq_getLast?, lastDeclared?_eq_getLast?, same]

/-- Schemas with the same declarations of a field have the same mapping for it. -/
theorem mapping?_of_same (built : ofDeclarations declarations defaultAnalyzer custom = .ok schema)
    (builtToo : ofDeclarations others defaultAnalyzer custom = .ok other)
    (same : declarationsOf declarations field = declarationsOf others field) :
    schema.mapping? field = other.mapping? field := by
  rw [mapping?_eq_lastMapping? built, mapping?_eq_lastMapping? builtToo, lastMapping?_congr same]

/-- Schemas with the same analyzers and the same declarations of a field use one analyzer for it. -/
theorem analyzerFor_of_same
    (built : ofDeclarations declarations defaultAnalyzer custom = .ok schema)
    (builtToo : ofDeclarations others defaultAnalyzer custom = .ok other)
    (same : declarationsOf declarations field = declarationsOf others field) :
    schema.analyzerFor field = other.analyzerFor field := by
  obtain ⟨_, default, _⟩ := fields_of_ofDeclarations built
  obtain ⟨_, defaultToo, _⟩ := fields_of_ofDeclarations builtToo
  refine analyzerFor_congr ?_ (default.trans defaultToo.symm) (mapping?_of_same built builtToo same)
  rw [analyzers_of_ofDeclarations built, analyzers_of_ofDeclarations builtToo]

/-! ## Patterns -/

/-- A draft of a condition with a pattern has no texts to analyze. -/
theorem texts_of_draftRegexp {registered : Kind} {resolver : TypeResolver} {condition : Condition}
    {draft : Draft} (drafted : Compiler.draftRegexp registered resolver condition = .ok draft) :
    draft.texts = [] := by
  obtain ⟨_, _, drafted⟩ := bind_eq_ok_iff.mp drafted
  obtain ⟨_, _, drafted⟩ := bind_eq_ok_iff.mp drafted
  obtain ⟨_, _, drafted⟩ := bind_eq_ok_iff.mp drafted
  obtain ⟨_, _, ⟨⟩⟩ := bind_eq_ok_iff.mp drafted
  rfl

/-- A condition with a pattern is compiled without any analysis. -/
theorem compile_regexp_congr {condition : Condition} {pattern : Option Text}
    (regexp : condition.predicate = .regexp pattern) (resolver : TypeResolver)
    (analysis another : TermAnalysis) :
    Registry.default.compile resolver analysis condition =
      Registry.default.compile resolver another condition := by
  have kinded : condition.predicate.kind? = some .regexp := by rw [regexp]; rfl
  rw [Registry.compile_default .regexp kinded, Registry.compile_default .regexp kinded]
  cases drafted : Compiler.draftLike .regexp .regexp resolver condition with
  | error failure => rfl
  | ok draft =>
    refine Draft.finish_congr fun entry member => ?_
    rw [texts_of_draftRegexp drafted] at member
    cases member

/-! ## Conditions -/

/-- **Only the declarations of its own field matter to a condition.** Two schemas are made with the
same analyzers, of any make, and the same default, and the declarations of the one lead to those of
the other by changes of other fields. A condition is compiled against both with the same query or
the same failure, whatever compilers are registered. A condition with a pattern is compiled alike
against any two schemas that give its field the same type, whatever their analyzers and their
defaults. -/
theorem compile_of_changedElsewhere {β : Type} [TextAnalyzer β] (condition : Condition) :
    (∀ (custom : List (Text × α)) defaultAnalyzer declarations others (schema other : Schema α)
        field,
      schema.MadeOf custom defaultAnalyzer declarations →
      other.MadeOf custom defaultAnalyzer others →
      condition.field = some field →
      Relation.ReflTransGen (ChangedElsewhere field) declarations others →
      ∀ registry : Registry,
        registry.compile schema.resolver schema.analysis condition =
          registry.compile other.resolver other.analysis condition) ∧
    ∀ pattern, condition.predicate = .regexp pattern → ∀ (schema : Schema α) (other : Schema β),
      (∀ field, condition.field = some field → schema.fieldType? field = other.fieldType? field) →
      Registry.default.compile schema.resolver schema.analysis condition =
        Registry.default.compile other.resolver other.analysis condition := by
  constructor
  · intro custom defaultAnalyzer declarations others schema other field made madeToo named run
      registry
    have same := declarationsOf_of_run run
    have mapped := mapping?_of_same made.ofDeclarations_eq madeToo.ofDeclarations_eq same
    have analyzer := analyzerFor_of_same made.ofDeclarations_eq madeToo.ofDeclarations_eq same
    apply registry.compile_congr
    · intro name namedToo
      cases named.symm.trans namedToo
      rw [resolver_eq, resolver_eq, mapped]
    · intro name namedToo text
      cases named.symm.trans namedToo
      rw [analysis, analysis, term?, term?, analyzer]
  · intro pattern regexp schema other typed
    calc
      Registry.default.compile schema.resolver schema.analysis condition
      _ = Registry.default.compile other.resolver schema.analysis condition := by
        refine Registry.compile_congr (fun name named => ?_) (fun _ _ _ => rfl) _
        rw [resolver, resolver, typed name named]
      _ = Registry.default.compile other.resolver other.analysis condition :=
        compile_regexp_congr regexp _ _ _

/-- Beside a field with a custom analyzer another is removed, and added in front with another
type. -/
theorem compile_of_changedElsewhere_name :
    ∃ schema other : Schema CustomAnalyzer,
      ofDeclarations [("NAME", .given ⟨.text, some "whole"⟩), ("age", .named (.str "integer"))]
        "standard" [("whole", .wholeLower)] = .ok schema ∧
      ofDeclarations [("Age", .named (.str "uuid")), ("NAME", .given ⟨.text, some "whole"⟩)]
        "standard" [("whole", .wholeLower)] = .ok other ∧
      Registry.default.compile schema.resolver schema.analysis
          ⟨.one, some "name", .fuzzy ⟨some "A b", 1, 0, 50, true⟩⟩ =
        Registry.default.compile other.resolver other.analysis
          ⟨.one, some "name", .fuzzy ⟨some "A b", 1, 0, 50, true⟩⟩ := by
  have first : (ofDeclarations [("NAME", .given ⟨.text, some "whole"⟩),
      ("age", .named (.str "integer"))] "standard"
      [("whole", CustomAnalyzer.wholeLower)]).toOption.isSome := by
    decide +kernel
  have second : (ofDeclarations [("Age", .named (.str "uuid")),
      ("NAME", .given ⟨.text, some "whole"⟩)] "standard"
      [("whole", CustomAnalyzer.wholeLower)]).toOption.isSome := by
    decide +kernel
  obtain ⟨schema, found⟩ := Option.isSome_iff_exists.mp first
  obtain ⟨other, foundToo⟩ := Option.isSome_iff_exists.mp second
  have run : Relation.ReflTransGen (ChangedElsewhere "name")
      [("NAME", .given ⟨.text, some "whole"⟩), ("age", .named (.str "integer"))]
      [("Age", .named (.str "uuid")), ("NAME", .given ⟨.text, some "whole"⟩)] :=
    .head (.removed [_] [] (by decide +kernel)) (.single (.added [] [_] (by decide +kernel)))
  have built := ok_of_toOption found
  have builtToo := ok_of_toOption foundToo
  refine ⟨schema, other, built, builtToo, ?_⟩
  exact (@compile_of_changedElsewhere CustomAnalyzer _ Analyzer _ _).1 _ _ _ _ _ _ _
    (.declared built) (.declared builtToo) rfl run Registry.default

end Schema

end FieldSearch
