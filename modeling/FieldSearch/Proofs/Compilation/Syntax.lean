import FieldSearch.Proofs.Analysis.WordTerm
import FieldSearch.Proofs.Compilation.Safety
import FieldSearch.Proofs.Query.Syntax
import FieldSearch.Proofs.Schema.AnalyzerLookup

/-!
# What the text of a compiled query tells

On a field whose analyzer cuts texts into words, every condition that can be compiled gives a
legible query: the terms are words, a phrase has at most one at each position, and the positions
increase. So two conditions on the field with boosts of one value give queries of one text only when
the queries are of one kind, and are the same but for the settings of a fuzzy query that its text
leaves out.
-/

namespace FieldSearch

variable {α : Type} [TextAnalyzer α]

/-- A word has none of the marks of the query language. -/
theorem IsWordTerm.isLegible {term : Text} (word : IsWordTerm term) : IsLegible term where
  nonempty := word.nonempty
  unmarked := by
    have apart : marks.all (!Text.isWordChar ·) := by decide +kernel
    have notDot : Text.combiningDot ∉ marks := by decide
    intro mark marked member
    rcases word.points _ member with inWords | dot
    · have outside := List.all_eq_true.mp apart mark marked
      rw [Bool.not_eq_true'] at outside
      cases outside.symm.trans inWords
    · cases dot
      exact notDot marked

/-! ## Analysis -/

/-- Texts are analyzed into legible terms, or into none. -/
def LegibleAnalysis (analyze : Text → Except Failure Json) : Prop :=
  ∀ text json, analyze text = .ok json →
    ∃ term, Json.ofText? term = json ∧ ∀ given ∈ term, IsLegible given

/-- The term of a text that is cut into words is legible. -/
theorem Schema.legibleAnalysis {schema : Schema α} {field : Text}
    (cutsWords : schema.CutsWords field) : LegibleAnalysis (schema.analysis field) := by
  obtain ⟨analyzer, ofWords, used⟩ := cutsWords
  intro text json analyzed
  rw [analysis, Schema.term?, used, TextAnalyzer.term?_ofBuiltIn,
    ← analyzer.term?_eq field] at analyzed
  obtain ⟨term, found, rfl⟩ := map_eq_ok_iff.mp analyzed
  refine ⟨term, rfl, ?_⟩
  rintro given rfl
  exact (ofWords.isWordTerm (Analyzer.mem_terms_of_term? found)).isLegible

/-- The terms of a phrase are texts at increasing positions. -/
theorem exists_placed_of_phraseTerms {analyze : Text → Except Failure Json}
    (legible : LegibleAnalysis analyze) {position : Nat} {values : List (Option Text)}
    {terms : List PhraseTerm} (found : Draft.phraseTerms analyze position values = .ok terms) :
    ∃ placed : Placed, placed.terms = terms ∧ placed.Legible ∧
      ∀ entry ∈ placed, position ≤ entry.2 := by
  -- By induction on the values, for every position: what is placed later stands further on.
  induction values generalizing position terms with
  | nil =>
    cases found
    exact ⟨[], rfl, ⟨List.forall_mem_nil _, .nil⟩, List.forall_mem_nil _⟩
  | cons value rest ih =>
    cases value with
    | none =>
      obtain ⟨placed, same, placedLegible, beyond⟩ := ih found
      exact ⟨placed, same, placedLegible, fun entry member => Nat.le_of_lt (beyond entry member)⟩
    | some text =>
      obtain ⟨json, analyzed, found⟩ := bind_eq_ok_iff.mp found
      obtain ⟨later, foundLater, joined⟩ := bind_eq_ok_iff.mp found
      obtain ⟨placed, rfl, placedLegible, beyond⟩ := ih foundLater
      obtain ⟨term, rfl, termLegible⟩ := legible text json analyzed
      cases term with
      | none =>
        cases joined
        exact ⟨placed, rfl, placedLegible, fun entry member => Nat.le_of_lt (beyond entry member)⟩
      | some term =>
        have own : IsLegible term := termLegible term rfl
        have something : (Json.ofText? (some term)).isNothing = false := by
          simpa [Json.ofText?, Json.isNothing] using own.nonempty
        simp only [something, Bool.false_eq_true, ↓reduceIte] at joined
        cases joined
        refine ⟨(term, position) :: placed, rfl, ⟨?_, ?_⟩, ?_⟩
        · exact List.forall_mem_cons.mpr ⟨own, placedLegible.texts⟩
        · exact List.pairwise_cons.mpr ⟨beyond, placedLegible.increasing⟩
        · exact List.forall_mem_cons.mpr
            ⟨Nat.le_refl position, fun entry member => Nat.le_of_lt (beyond entry member)⟩

namespace Registry

/-! ## Compilation -/

/-- A plain condition is compiled by none of the built-in compilers. -/
theorem compile_plain_ne_ok (resolver : TypeResolver) (analysis : TermAnalysis)
    {boost : Binary64} {field : Option Text} {tag : Text} {query : Query} :
    default.compile resolver analysis ⟨boost, field, .plain tag⟩ ≠ .ok query := by
  intro compiled
  rw [compile_eq] at compiled
  obtain ⟨draft, drafted, _⟩ := bind_eq_ok_iff.mp compiled
  obtain ⟨compiler, chosen, drafted⟩ := bind_eq_ok_iff.mp drafted
  obtain ⟨kind, _, chosen⟩ := bind_eq_ok_iff.mp chosen
  have builtIn : default.compiler? kind = some (.builtIn kind) := by
    cases kind <;> rfl
  rw [builtIn] at chosen
  cases chosen
  cases kind with
  | fuzzy =>
    obtain ⟨_, _, drafted⟩ := bind_eq_ok_iff.mp drafted
    cases drafted
  | regexp =>
    obtain ⟨_, _, drafted⟩ := bind_eq_ok_iff.mp drafted
    cases drafted
  | phrase =>
    obtain ⟨_, _, drafted⟩ := bind_eq_ok_iff.mp drafted
    cases drafted

/-- On a field of words, conditions give legible queries with their own boost. -/
theorem legible_of_compile {schema : Schema α} {name : Text}
    (cutsWords : schema.CutsWords name) {condition : Condition}
    (named : condition.field = some name) {query : Query}
    (compiled : default.compile schema.resolver schema.analysis condition = .ok query) :
    (∃ body, query.clause.Legible name body) ∧ query.boost = .float condition.boost := by
  have analysis := schema.legibleAnalysis cutsWords
  obtain ⟨boost, field, predicate⟩ := condition
  cases named
  -- The requirements that are met have no part in the query: only the analysis has.
  cases predicate with
  | plain tag => exact absurd compiled (compile_plain_ne_ok _ _)
  | fuzzy predicate =>
    rw [compile_fuzzy schema.denotes_resolver] at compiled
    obtain ⟨json, analyzed, rfl⟩ := map_eq_ok_iff.mp (eq_ok_of_outcome compiled)
    obtain ⟨term, rfl, legible⟩ := analysis _ json analyzed
    exact ⟨⟨_, .fuzzy term legible _ _ _ _⟩, rfl⟩
  | regexp pattern =>
    rw [compile_regexp schema.denotes_resolver] at compiled
    cases eq_ok_of_outcome compiled
    exact ⟨⟨_, .regexp _⟩, rfl⟩
  | phrase predicate =>
    rw [compile_phrase schema.denotes_resolver] at compiled
    obtain ⟨terms, analyzed, rfl⟩ := map_eq_ok_iff.mp (eq_ok_of_outcome compiled)
    have found : Draft.phraseTerms (schema.analysis name) 0 (predicate.values.getD []) =
        .ok (terms.filter (!·.text.isNothing)) := by
      rw [phraseTerms_eq]
      exact congrArg (Except.map _) analyzed
    obtain ⟨placed, same, legible, _⟩ := exists_placed_of_phraseTerms analysis found
    refine ⟨?_, rfl⟩
    rw [phraseQuery, ← same]
    exact ⟨_, .phrase placed legible predicate.slop⟩

/-- **The text of a query tells the query.** Take a field whose analyzer cuts texts into words, with
any stop words, in a schema with analyzers of any make, and two conditions on that field with boosts
of one value, whatever their kinds. If both can be compiled against the schema and the two queries
have one text, then the queries are of one kind. They are the same unless they are fuzzy, and fuzzy
ones have the same term and the same greatest edit distance. -/
theorem same_of_render_compile {schema : Schema α} {field name : Text}
    (cutsWords : schema.CutsWords field) (spelled : Text.lower name = Text.lower field)
    {first second : Condition} (named : first.field = some name)
    (namedToo : second.field = some name) (boosts : first.boost.same second.boost)
    {query other : Query}
    (compiled : default.compile schema.resolver schema.analysis first = .ok query)
    (compiledToo : default.compile schema.resolver schema.analysis second = .ok other)
    {text : Text} (written : query.render = .ok text) (writtenToo : other.render = .ok text) :
    query.clause.kind = other.clause.kind ∧
    (query.clause.kind ≠ .fuzzy → query.same other) ∧
    ∀ clause otherClause, query.clause = .fuzzy clause → other.clause = .fuzzy otherClause →
      clause.term.same otherClause.term ∧ clause.maxEdits.same otherClause.maxEdits := by
  have mapped : schema.mapping? name = schema.mapping? field := by
    rw [Schema.mapping?, Schema.mapping?, spelled]
  rw [Schema.CutsWords, ← Schema.analyzerFor_congr rfl rfl mapped] at cutsWords
  obtain ⟨clause, boost⟩ := query
  obtain ⟨otherClause, otherBoost⟩ := other
  obtain ⟨⟨body, legible⟩, rfl⟩ := legible_of_compile cutsWords named compiled
  obtain ⟨⟨otherBody, legibleToo⟩, rfl⟩ := legible_of_compile cutsWords namedToo compiledToo
  have alike := Query.alike_of_render legible legibleToo boosts written writtenToo
  have whole (same : clause.same otherClause) :
      Query.same ⟨clause, .float first.boost⟩ ⟨otherClause, .float second.boost⟩ :=
    Bool.and_eq_true_iff.mpr ⟨same, boosts⟩
  cases alike with
  | fuzzy firstClause secondClause term maxEdits =>
    refine ⟨rfl, fun other => absurd rfl other, ?_⟩
    rintro _ _ ⟨⟩ ⟨⟩
    exact ⟨term, maxEdits⟩
  | regexp firstTerm secondTerm same => exact ⟨rfl, fun _ => whole same, nofun⟩
  | phrase firstClause secondClause same => exact ⟨rfl, fun _ => whole same, nofun⟩

/-- A phrase condition on the body with a slop of 2 and a boost of 2.5. -/
def bodyPhrase (values : List (Option Text)) : Condition :=
  ⟨.finite false (5 * 2 ^ 50) (-51), some "body", .phrase ⟨some values, 2⟩⟩

/-- Two phrases with a gap whose values are spelled differently. -/
theorem same_of_render_compile_quick_fox :
    ∃ (schema : Schema) (query other : Query),
      schema.CutsWords "Body" ∧
      default.compile schema.resolver schema.analysis
        (bodyPhrase [some "quick", none, some "fox"]) = .ok query ∧
      default.compile schema.resolver schema.analysis
        (bodyPhrase [some "Quick!", none, some "(FOX)"]) = .ok other ∧
      query.render = .ok (Text.ofString "body:\"quick ? fox\"~2^2.5") ∧
      other.render = .ok (Text.ofString "body:\"quick ? fox\"~2^2.5") ∧
      query.clause.kind = .phrase ∧ query.same other := by
  have declared : ((Schema.ofDeclarations [("body", .named (.str "text"))] "standard"
      []).toOption.map fun schema =>
        (schema.analyzerFor "Body",
          (default.compile schema.resolver schema.analysis
            (bodyPhrase [some "quick", none, some "fox"])).toOption.bind fun query =>
              query.render.toOption.map (query.clause.kind, ·),
          (default.compile schema.resolver schema.analysis
            (bodyPhrase [some "Quick!", none, some "(FOX)"])).toOption.bind
              (·.render.toOption))) =
      some (Analyzer.standard [],
        some (Kind.phrase, Text.ofString "body:\"quick ? fox\"~2^2.5"),
        some (Text.ofString "body:\"quick ? fox\"~2^2.5")) := by
    decide +kernel
  obtain ⟨schema, _, computed⟩ := Option.map_eq_some_iff.mp declared
  obtain ⟨analyzer, rest⟩ := Prod.mk.inj computed
  obtain ⟨shown, shownToo⟩ := Prod.mk.inj rest
  obtain ⟨query, compiled, shown⟩ := Option.bind_eq_some_iff.mp shown
  obtain ⟨other, compiledToo, writtenToo⟩ := Option.bind_eq_some_iff.mp shownToo
  obtain ⟨text, written, shown⟩ := Option.map_eq_some_iff.mp shown
  obtain ⟨kind, rfl⟩ := Prod.mk.inj shown
  have cutsWords : schema.CutsWords "Body" := ⟨_, .standard [], analyzer⟩
  have spelled : Text.lower "body" = Text.lower "Body" := by decide +kernel
  have told := same_of_render_compile cutsWords spelled rfl rfl (by decide +kernel)
    (ok_of_toOption compiled) (ok_of_toOption compiledToo) (ok_of_toOption written)
    (ok_of_toOption writtenToo)
  refine ⟨schema, query, other, cutsWords, ok_of_toOption compiled, ok_of_toOption compiledToo,
    ok_of_toOption written, ok_of_toOption writtenToo, kind, told.2.1 ?_⟩
  rw [kind]
  exact nofun

end Registry

end FieldSearch
