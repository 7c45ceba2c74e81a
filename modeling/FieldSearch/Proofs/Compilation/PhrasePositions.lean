import FieldSearch.Proofs.Compilation.Locality
import FieldSearch.Proofs.Compilation.Outcome
import Mathlib.Data.List.Basic

/-!
# The positions of a phrase

Every value of a phrase takes a position: one that is absent, one whose analysis is nothing, and one
that gives a term. The terms of a phrase stand at the positions of their values, so that they move
along when values are put before them and stay when values are put after them. The first value whose
analysis fails decides the failure.
-/

namespace FieldSearch

/-! ## Values in their places -/

/-- Values after others are placed further on, by as many as there are before them. -/
theorem placedFrom_append (first : Nat) (values more : List (Option Text)) :
    placedFrom first (values ++ more) =
      placedFrom first values ++ placedFrom (first + values.length) more := by
  rw [placedFrom, List.zipIdx_append, List.filterMap_append]
  rfl

/-- Values counted from further on stand further on. -/
theorem placedFrom_add (first distance : Nat) (values : List (Option Text)) :
    placedFrom (first + distance) values =
      (placedFrom first values).map fun entry => (entry.1, entry.2 + distance) := by
  induction values generalizing first with
  | nil => rfl
  | cons value rest ih =>
    have later := ih (first + 1)
    rw [Nat.add_right_comm] at later
    cases value with
    | none => exact later
    | some text => exact congrArg ((text, first + distance) :: ·) later

/-- Missing values are not placed. -/
theorem placedFrom_replicate_none (first count : Nat) :
    placedFrom first (List.replicate count none) = [] := by
  induction count generalizing first with
  | zero => rfl
  | succ count ih => exact ih (first + 1)

/-- A value is placed at its own index. -/
theorem mem_placedFrom_iff {values : List (Option Text)} {text : Text} {position : Nat} :
    (text, position) ∈ placedFrom 0 values ↔ values[position]? = some (some text) := by
  rw [placedFrom, List.mem_filterMap]
  constructor
  · rintro ⟨⟨value, index⟩, listed, same⟩
    obtain ⟨given, rfl, ⟨⟩⟩ := Option.map_eq_some_iff.mp same
    exact List.mk_mem_zipIdx_iff_getElem?.mp listed
  · intro present
    exact ⟨(some text, position), List.mk_mem_zipIdx_iff_getElem?.mpr present, rfl⟩

/-- Entries that are changed or left out, but not moved, are still in increasing positions. -/
theorem pairwise_filterMap {α β : Type} {entries : List (α × Nat)}
    (increasing : entries.Pairwise fun one other => one.2 < other.2) (f : α → Option β) :
    (entries.filterMap fun entry => (f entry.1).map (·, entry.2)).Pairwise
      fun one other => one.2 < other.2 := by
  refine increasing.filterMap _ fun one other before => ?_
  rintro _ same _ sameToo
  obtain ⟨_, _, rfl⟩ := Option.map_eq_some_iff.mp same
  obtain ⟨_, _, rfl⟩ := Option.map_eq_some_iff.mp sameToo
  exact before

/-- Values are placed at increasing positions. -/
theorem pairwise_placedFrom (first : Nat) (values : List (Option Text)) :
    (placedFrom first values).Pairwise fun one other => one.2 < other.2 := by
  have indices : (values.zipIdx first).Pairwise fun one other => one.2 < other.2 := by
    rw [← List.pairwise_map (R := (· < ·)), List.zipIdx_map_snd]
    exact List.pairwise_lt_range'
  exact pairwise_filterMap indices id

/-! ## Terms in their places -/

/-- The term of a text, unless its analysis fails or is nothing. -/
def something? (analyze : Text → Except Failure Json) (text : Text) : Option Json :=
  (analyze text).toOption.filter (!·.isNothing)

/-- The terms of values, each with the position of its value, counted from `first`. -/
def termsFrom (analyze : Text → Except Failure Json) (first : Nat) (values : List (Option Text)) :
    List (Json × Nat) :=
  (placedFrom first values).filterMap fun entry => (something? analyze entry.1).map (·, entry.2)

/-- Terms that stand further on. -/
def shifted (distance : Nat) (placed : List (Json × Nat)) : List (Json × Nat) :=
  placed.map fun entry => (entry.1, entry.2 + distance)

section Terms

variable {analyze : Text → Except Failure Json} {values : List (Option Text)}

/-- A term counts when the analysis gives one that is not nothing. -/
theorem something?_eq_some_iff {text : Text} {term : Json} :
    something? analyze text = some term ↔ analyze text = .ok term ∧ term.isNothing = false := by
  rw [something?, Option.filter_eq_some_iff]
  cases analyze text <;> simp [Except.toOption]

/-- The terms of values after others stand further on, by as many as there are values before. -/
theorem termsFrom_append (first : Nat) (values more : List (Option Text)) :
    termsFrom analyze first (values ++ more) =
      termsFrom analyze first values ++ termsFrom analyze (first + values.length) more := by
  rw [termsFrom, placedFrom_append, List.filterMap_append]
  rfl

/-- Counting from further on shifts all terms. -/
theorem termsFrom_add (first distance : Nat) (values : List (Option Text)) :
    termsFrom analyze (first + distance) values =
      shifted distance (termsFrom analyze first values) := by
  rw [termsFrom, placedFrom_add, List.filterMap_map, shifted, termsFrom, List.map_filterMap]
  congr 1
  funext entry
  rw [Function.comp_apply, Option.map_map]
  rfl

/-- The terms of two rows of values are those of the first and then those of the second, shifted by
the length of the first. -/
theorem termsFrom_zero_append (values more : List (Option Text)) :
    termsFrom analyze 0 (values ++ more) =
      termsFrom analyze 0 values ++ shifted values.length (termsFrom analyze 0 more) := by
  rw [termsFrom_append, termsFrom_add]

/-- Missing values have no terms. -/
theorem termsFrom_replicate_none (first count : Nat) :
    termsFrom analyze first (List.replicate count none) = [] := by
  rw [termsFrom, placedFrom_replicate_none, List.filterMap_nil]

/-- A term stands at the index of the value that it is found in. -/
theorem mem_termsFrom_iff {term : Json} {position : Nat} :
    (term, position) ∈ termsFrom analyze 0 values ↔
      ∃ text, values[position]? = some (some text) ∧ analyze text = .ok term ∧
        term.isNothing = false := by
  rw [termsFrom, List.mem_filterMap]
  constructor
  · rintro ⟨⟨text, index⟩, listed, same⟩
    obtain ⟨given, found, ⟨⟩⟩ := Option.map_eq_some_iff.mp same
    exact ⟨text, mem_placedFrom_iff.mp listed, something?_eq_some_iff.mp found⟩
  · rintro ⟨text, present, found⟩
    refine ⟨(text, position), mem_placedFrom_iff.mpr present, ?_⟩
    rw [something?_eq_some_iff.mpr found, Option.map_some]

/-- Terms stand at increasing positions. -/
theorem pairwise_termsFrom (first : Nat) :
    (termsFrom analyze first values).Pairwise fun one other => one.2 < other.2 :=
  pairwise_filterMap (pairwise_placedFrom first values) (something? analyze)

/-- A value without a term adds none. -/
theorem termsFrom_cons_of_none {text : Text} (nothing : something? analyze text = none)
    (first : Nat) :
    termsFrom analyze first (some text :: values) = termsFrom analyze (first + 1) values := by
  simp [termsFrom, placedFrom, nothing]

/-- A value with a term adds it at the position of the value. -/
theorem termsFrom_cons_of_some {text : Text} {term : Json}
    (found : something? analyze text = some term) (first : Nat) :
    termsFrom analyze first (some text :: values) =
      (term, first) :: termsFrom analyze (first + 1) values := by
  simp [termsFrom, placedFrom, found]

end Terms

/-! ## Analysis of the values -/

/-- Every value that is there can be analyzed. -/
def AllAnalyzed (analyze : Text → Except Failure Json) (values : List (Option Text)) : Prop :=
  ∀ text, some text ∈ values → ∃ term, analyze text = .ok term

/-- The value at a position is the first whose analysis fails, and it fails so. -/
structure FailsFirst (analyze : Text → Except Failure Json) (values : List (Option Text))
    (position : Nat) (failure : Failure) : Prop where
  fails : ∃ text, values[position]? = some (some text) ∧ analyze text = .error failure
  earlier : AllAnalyzed analyze (values.take position)

/-- A term of a phrase at its position. -/
def phraseTermAt (entry : Json × Nat) : PhraseTerm :=
  ⟨entry.1, .int entry.2⟩

section Analysis

variable {analyze : Text → Except Failure Json} {value : Option Text} {values : List (Option Text)}

theorem allAnalyzed_nil : AllAnalyzed analyze [] := by
  intro text member
  cases member

/-- All values are analyzed when the first is and all others are. -/
theorem allAnalyzed_cons_iff :
    AllAnalyzed analyze (value :: values) ↔
      (∀ text, value = some text → ∃ term, analyze text = .ok term) ∧
        AllAnalyzed analyze values := by
  simp only [AllAnalyzed, List.mem_cons, or_imp, forall_and, eq_comm]

/-- Two rows of values that are analyzed are analyzed together. -/
theorem allAnalyzed_append {more : List (Option Text)} (analyzed : AllAnalyzed analyze values)
    (analyzedToo : AllAnalyzed analyze more) : AllAnalyzed analyze (values ++ more) := by
  intro text member
  rcases List.mem_append.mp member with before | after
  · exact analyzed text before
  · exact analyzedToo text after

/-- Missing values need no analysis. -/
theorem allAnalyzed_replicate_none (count : Nat) :
    AllAnalyzed analyze (List.replicate count none) := by
  intro text member
  cases List.eq_of_mem_replicate member

/-- The first to fail is a later value when the first value passes. -/
theorem failsFirst_cons_succ_iff {position : Nat} {failure : Failure} :
    FailsFirst analyze (value :: values) (position + 1) failure ↔
      (∀ text, value = some text → ∃ term, analyze text = .ok term) ∧
        FailsFirst analyze values position failure := by
  constructor
  · rintro ⟨fails, earlier⟩
    obtain ⟨own, others⟩ := allAnalyzed_cons_iff.mp earlier
    exact ⟨own, fails, others⟩
  · rintro ⟨own, fails, others⟩
    exact ⟨fails, allAnalyzed_cons_iff.mpr ⟨own, others⟩⟩

/-- Unless all values can be analyzed, the analysis of some value is the first that fails. -/
theorem exists_failsFirst (failing : ¬AllAnalyzed analyze values) :
    ∃ position failure, FailsFirst analyze values position failure := by
  induction values with
  | nil => exact absurd allAnalyzed_nil failing
  | cons value rest ih =>
    by_cases own : ∀ text, value = some text → ∃ term, analyze text = .ok term
    · obtain ⟨position, failure, fails⟩ :=
        ih fun others => failing (allAnalyzed_cons_iff.mpr ⟨own, others⟩)
      exact ⟨position + 1, failure, failsFirst_cons_succ_iff.mpr ⟨own, fails⟩⟩
    · obtain ⟨text, unowned⟩ := not_forall.mp own
      obtain ⟨rfl, unanalyzed⟩ := Classical.not_imp.mp unowned
      obtain ⟨failure, failed⟩ := exists_eq_error_iff.mpr unanalyzed
      exact ⟨0, failure, ⟨text, rfl, failed⟩, allAnalyzed_nil⟩

/-- If all values are analyzed, the phrase has their terms at their positions. -/
theorem phraseTerms_of_allAnalyzed (analyzed : AllAnalyzed analyze values) (first : Nat) :
    Draft.phraseTerms analyze first values =
      .ok ((termsFrom analyze first values).map phraseTermAt) := by
  induction values generalizing first with
  | nil => rfl
  | cons value rest ih =>
    obtain ⟨own, others⟩ := allAnalyzed_cons_iff.mp analyzed
    have later := ih others (first + 1)
    cases value with
    | none => exact later
    | some text =>
      obtain ⟨term, found⟩ := own text rfl
      rw [Draft.phraseTerms, found, later]
      cases nothing : term.isNothing with
      | false =>
        rw [termsFrom_cons_of_some (something?_eq_some_iff.mpr ⟨found, nothing⟩)]
        simp only [bind, Except.bind, nothing]
        rfl
      | true =>
        have none : something? analyze text = none := by
          simp [something?, found, Except.toOption, nothing]
        rw [termsFrom_cons_of_none none]
        simp only [bind, Except.bind, nothing]
        rfl

/-- If a value fails first, the phrase fails as it does. -/
theorem phraseTerms_of_failsFirst {position : Nat} {failure : Failure}
    (fails : FailsFirst analyze values position failure) (first : Nat) :
    Draft.phraseTerms analyze first values = .error failure := by
  -- By induction on the values, wherever they are counted from: terms before the failure are lost.
  induction values generalizing position first with
  | nil =>
    obtain ⟨_, ⟨⟩, _⟩ := fails.fails
  | cons value rest ih =>
    cases position with
    | zero =>
      obtain ⟨text, ⟨⟩, failed⟩ := fails.fails
      rw [Draft.phraseTerms, failed]
      rfl
    | succ position =>
      obtain ⟨own, others⟩ := failsFirst_cons_succ_iff.mp fails
      have later := ih others (first + 1)
      cases value with
      | none => exact later
      | some text =>
        obtain ⟨term, found⟩ := own text rfl
        rw [Draft.phraseTerms, found, later]
        rfl

/-- A term of a phrase tells its text and its position. -/
theorem phraseTermAt_injective : Function.Injective phraseTermAt := by
  rintro ⟨term, position⟩ ⟨other, place⟩ ⟨⟩
  rfl

/-- A phrase has certain terms when all values are analyzed and these are their terms. -/
theorem phraseTerms_eq_ok_iff {first : Nat} {placed : List (Json × Nat)} :
    Draft.phraseTerms analyze first values = .ok (placed.map phraseTermAt) ↔
      AllAnalyzed analyze values ∧ termsFrom analyze first values = placed := by
  constructor
  · intro found
    by_cases analyzed : AllAnalyzed analyze values
    · rw [phraseTerms_of_allAnalyzed analyzed] at found
      exact ⟨analyzed, phraseTermAt_injective.list_map (Except.ok.inj found)⟩
    · obtain ⟨position, failure, fails⟩ := exists_failsFirst analyzed
      cases found.symm.trans (phraseTerms_of_failsFirst fails first)
  · rintro ⟨analyzed, rfl⟩
    exact phraseTerms_of_allAnalyzed analyzed first

end Analysis

/-! ## Compilation -/

/-- The same condition on a phrase of other values. -/
def Condition.withValues (condition : Condition) (values : List (Option Text)) : Condition :=
  match condition.predicate with
  | .phrase predicate =>
    { condition with predicate := .phrase { predicate with values := some values } }
  | _ => condition

/-- The query of a phrase condition whose terms stand at the given positions. -/
def placedQuery (boost : Binary64) (field : Text) (slop : Int) (placed : List (Json × Nat)) :
    Query where
  clause := .phrase ⟨field, placed.map phraseTermAt, .int slop⟩
  boost := .float boost

/-- A phrase query has certain terms when all values are analyzed and these are their terms. -/
theorem map_phraseTerms_eq_ok_iff {analyze : Text → Except Failure Json}
    {values : List (Option Text)} {boost : Binary64} {field : Text} {slop : Int}
    {placed : List (Json × Nat)} :
    (Draft.phraseTerms analyze 0 values).map
        (fun terms => ⟨.phrase ⟨field, terms, .int slop⟩, .float boost⟩) =
        .ok (placedQuery boost field slop placed) ↔
      AllAnalyzed analyze values ∧ termsFrom analyze 0 values = placed := by
  rw [← phraseTerms_eq_ok_iff, map_eq_ok_iff]
  constructor
  · rintro ⟨terms, found, same⟩
    cases same
    exact found
  · exact fun found => ⟨_, found, rfl⟩

/-- Required values are the ones that are given. -/
theorem Compiler.eq_some_of_requireValues {given : Option (List (Option Text))}
    {values : List (Option Text)} (required : requireValues given = .ok values) :
    given = some values := by
  cases given <;> cases required
  rfl

/-- A phrase condition with a field and values passes the checks when the field is not blank, the
slop is in its range and the field is one of characters, whatever the values. -/
theorem Compiler.draftPhrase_eq_ok_iff {registered : Kind} {resolver : TypeResolver}
    {condition : Condition} {predicate : PhrasePredicate} {draft : Draft}
    (phrase : condition.predicate = .phrase predicate) :
    draftPhrase registered resolver condition = .ok draft ↔
      ∃ field values, predicate.values = some values ∧ requireField condition.field = .ok field ∧
        checkSlop predicate.slop = .ok () ∧
        checkFieldType .phrase registered resolver field = .ok () ∧
        draft = .phrase field values predicate.slop condition.boost := by
  have read : condition.phrasePredicate = .ok predicate := by
    rw [Condition.phrasePredicate, phrase]
  constructor
  · intro drafted
    obtain ⟨field, required, drafted⟩ := bind_eq_ok_iff.mp drafted
    obtain ⟨_, given, drafted⟩ := bind_eq_ok_iff.mp drafted
    cases read.symm.trans given
    obtain ⟨values, present, drafted⟩ := bind_eq_ok_iff.mp drafted
    obtain ⟨_, slopChecked, drafted⟩ := bind_eq_ok_iff.mp drafted
    obtain ⟨_, typeChecked, ⟨⟩⟩ := bind_eq_ok_iff.mp drafted
    exact ⟨field, values, eq_some_of_requireValues present, required, slopChecked, typeChecked,
      rfl⟩
  · rintro ⟨field, values, present, required, slopChecked, typeChecked, rfl⟩
    refine bind_eq_ok_iff.mpr ⟨field, required, bind_eq_ok_iff.mpr ⟨predicate, read, ?_⟩⟩
    refine bind_eq_ok_iff.mpr ⟨values, by rw [present]; rfl, ?_⟩
    exact bind_eq_ok_iff.mpr ⟨(), slopChecked, bind_eq_ok_iff.mpr ⟨(), typeChecked, rfl⟩⟩

namespace Registry

variable {condition : Condition} {predicate : PhrasePredicate} {resolver : TypeResolver}
  {draft : Draft}

/-- A phrase condition is drafted by the compiler of phrases. -/
theorem draft_default_phrase (phrase : condition.predicate = .phrase predicate) :
    default.draft resolver condition = Compiler.draftPhrase .phrase resolver condition := by
  have kinded : condition.predicate.kind? = some .phrase := congrArg Predicate.kind? phrase
  rw [Registry.draft, compilerFor_default kinded]
  rfl

/-- A phrase condition that passes the checks has a field and values, and passes the checks with any
other values as well. -/
theorem draft_withValues (phrase : condition.predicate = .phrase predicate)
    (checked : default.draft resolver condition = .ok draft) :
    ∃ field values, condition.field = some field ∧ condition.withValues values = condition ∧
      ∀ others, default.draft resolver (condition.withValues others) =
        .ok (.phrase field others predicate.slop condition.boost) := by
  rw [draft_default_phrase phrase, Compiler.draftPhrase_eq_ok_iff phrase] at checked
  obtain ⟨field, values, present, required, slopChecked, typeChecked, rfl⟩ := checked
  obtain ⟨boost, name, _⟩ := condition
  obtain ⟨_, slop⟩ := predicate
  cases phrase
  cases present
  refine ⟨field, values, Compiler.eq_some_of_requireField required, rfl, fun others => ?_⟩
  have replaced : (Condition.withValues ⟨boost, name, .phrase ⟨some values, slop⟩⟩ others).predicate =
      .phrase ⟨some others, slop⟩ := rfl
  rw [draft_default_phrase replaced, Compiler.draftPhrase_eq_ok_iff replaced]
  exact ⟨field, others, rfl, required, slopChecked, typeChecked, rfl⟩

/-- With any values, the terms of a checked phrase condition go into its query. -/
theorem compile_withValues (phrase : condition.predicate = .phrase predicate)
    (checked : default.draft resolver condition = .ok draft) (analysis : TermAnalysis) :
    ∃ field values, condition.field = some field ∧ condition.withValues values = condition ∧
      ∀ others, default.compile resolver analysis (condition.withValues others) =
        (Draft.phraseTerms (analysis field) 0 others).map fun terms =>
          ⟨.phrase ⟨field, terms, .int predicate.slop⟩, .float condition.boost⟩ := by
  obtain ⟨field, values, named, same, drafts⟩ := draft_withValues phrase checked
  refine ⟨field, values, named, same, fun others => ?_⟩
  rw [Registry.compile_eq, drafts]
  change (Draft.phrase field others predicate.slop condition.boost).finish analysis = _
  rw [Draft.finish]
  cases Draft.phraseTerms (analysis field) 0 others <;> rfl

/-- **Every value of a phrase takes a position.** A phrase condition that passes the checks has a
field and values, and the following holds of its own values and of any others. If the analysis of
some value fails, so does the compilation, with the failure of the first such value. Otherwise the
terms of the query are the analyses of the values that are there, but those that are nothing, in
strictly increasing order of their positions in the list of values. They move along with values that
are absent and put before, do not change with absent values put after, and the terms of two lists of
values one after the other are those of the first and, further on by its length, those of the
second. -/
theorem compile_places_terms (phrase : condition.predicate = .phrase predicate)
    (checked : default.draft resolver condition = .ok draft) (analysis : TermAnalysis) :
    ∃ field values, condition.field = some field ∧ condition.withValues values = condition ∧
      (∀ others text fault, some text ∈ others → analysis field text = .error fault →
        ∃ position failure, FailsFirst (analysis field) others position failure ∧
          default.compile resolver analysis (condition.withValues others) = .error failure) ∧
      (∀ others, AllAnalyzed (analysis field) others → ∃ placed,
        default.compile resolver analysis (condition.withValues others) =
          .ok (placedQuery condition.boost field predicate.slop placed) ∧
        placed.Pairwise (fun one other => one.2 < other.2) ∧
        (∀ term position, (term, position) ∈ placed ↔
          ∃ text, others[position]? = some (some text) ∧ analysis field text = .ok term ∧
            term.isNothing = false) ∧
        ∀ entry ∈ placed, entry.2 < others.length) ∧
      ∀ others placed,
        default.compile resolver analysis (condition.withValues others) =
          .ok (placedQuery condition.boost field predicate.slop placed) →
        (∀ count,
          default.compile resolver analysis
              (condition.withValues (List.replicate count none ++ others)) =
            .ok (placedQuery condition.boost field predicate.slop (shifted count placed)) ∧
          default.compile resolver analysis
              (condition.withValues (others ++ List.replicate count none)) =
            .ok (placedQuery condition.boost field predicate.slop placed)) ∧
        ∀ more later,
          default.compile resolver analysis (condition.withValues more) =
            .ok (placedQuery condition.boost field predicate.slop later) →
          default.compile resolver analysis (condition.withValues (others ++ more)) =
            .ok (placedQuery condition.boost field predicate.slop
              (placed ++ shifted others.length later)) := by
  obtain ⟨field, values, named, same, compiled⟩ := compile_withValues phrase checked analysis
  have placing {others : List (Option Text)} {placed : List (Json × Nat)} :
      default.compile resolver analysis (condition.withValues others) =
          .ok (placedQuery condition.boost field predicate.slop placed) ↔
        AllAnalyzed (analysis field) others ∧ termsFrom (analysis field) 0 others = placed := by
    rw [compiled]
    exact map_phraseTerms_eq_ok_iff
  refine ⟨field, values, named, same, ?_, ?_, ?_⟩
  · intro others text fault member failed
    have failing : ¬AllAnalyzed (analysis field) others := by
      intro analyzed
      obtain ⟨term, found⟩ := analyzed text member
      cases failed.symm.trans found
    obtain ⟨position, failure, fails⟩ := exists_failsFirst failing
    refine ⟨position, failure, fails, ?_⟩
    rw [compiled, phraseTerms_of_failsFirst fails]
    rfl
  · intro others analyzed
    refine ⟨_, placing.mpr ⟨analyzed, rfl⟩, pairwise_termsFrom 0,
      fun term position => mem_termsFrom_iff, ?_⟩
    rintro ⟨term, position⟩ member
    obtain ⟨text, present, _⟩ := mem_termsFrom_iff.mp member
    exact (List.getElem?_eq_some_iff.mp present).1
  · intro others placed found
    obtain ⟨analyzed, rfl⟩ := placing.mp found
    refine ⟨fun count => ⟨placing.mpr ⟨?_, ?_⟩, placing.mpr ⟨?_, ?_⟩⟩, ?_⟩
    · exact allAnalyzed_append (allAnalyzed_replicate_none count) analyzed
    · rw [termsFrom_zero_append, termsFrom_replicate_none, List.length_replicate, List.nil_append]
    · exact allAnalyzed_append analyzed (allAnalyzed_replicate_none count)
    · rw [termsFrom_append, termsFrom_replicate_none, List.append_nil]
    · intro more later foundToo
      obtain ⟨analyzedToo, rfl⟩ := placing.mp foundToo
      exact placing.mpr ⟨allAnalyzed_append analyzed analyzedToo, termsFrom_zero_append others more⟩

/-- A phrase with an absent value and one whose analysis is nothing, after another absent value. -/
theorem compile_places_terms_quick_fox :
    default.draft (fun _ => .unknown)
        ⟨.one, some "body", .phrase ⟨some [some "quick", none, some "the", some "fox"], 1⟩⟩ =
      .ok (.phrase "body" [some "quick", none, some "the", some "fox"] 1 .one) ∧
    default.compile (fun _ => .unknown)
        (fun _ text => .ok (if text = Text.ofString "the" then .null else .str text))
        ⟨.one, some "body", .phrase ⟨some [none, some "quick", none, some "the", some "fox"], 1⟩⟩ =
      .ok (placedQuery .one "body" 1 [(.str "quick", 1), (.str "fox", 4)]) := by
  have checked : default.draft (fun _ => .unknown)
      ⟨.one, some "body", .phrase ⟨some [some "quick", none, some "the", some "fox"], 1⟩⟩ =
        .ok (.phrase "body" [some "quick", none, some "the", some "fox"] 1 .one) := rfl
  obtain ⟨field, _, named, _, _, _, along⟩ := compile_places_terms rfl checked
    fun _ text => .ok (if text = Text.ofString "the" then .null else .str text)
  cases named
  have compiled := along [some "quick", none, some "the", some "fox"]
    [(.str "quick", 0), (.str "fox", 3)] rfl
  exact ⟨checked, (compiled.1 1).1⟩

end Registry

end FieldSearch
