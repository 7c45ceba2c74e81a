import FieldSearch.Proofs.Analysis.WordTerm
import FieldSearch.Proofs.Entries
import FieldSearch.Proofs.Schema.Construction

/-!
# The analyzer of a field

A schema looks up the analyzer of a field under the name that the field's mapping gives, and under
the name of the default when there is no mapping or it gives none. There is an analyzer under that
name, a custom one before a built-in one. The empty name is taken for none, so that an analyzer
registered under it is used as the default only.
-/

namespace FieldSearch

variable {α : Type}

/-- The analyzer under a name: the custom one, or else the built-in one. Of several custom ones
under one name, the last is meant. -/
def registered? [TextAnalyzer α] (custom : List (Text × α)) (name : Text) : Option α :=
  (Entries.find? custom.reverse name).or (TextAnalyzer.builtIn.find? name)

/-- An analyzer that is not built in: its term is the whole text in lower case. -/
def CustomAnalyzer.wholeLower : CustomAnalyzer :=
  ⟨"whole", fun text => .ok [Text.lower text]⟩

namespace Schema

variable {custom : List (Text × α)} {schema : Schema α}

/-! ## Names -/

/-- In schemas with the same analyzers and the same default, fields with one mapping have one
analyzer. -/
theorem analyzerFor_congr {other : Schema α} {first second : Text}
    (analyzers : schema.analyzers = other.analyzers)
    (defaults : schema.defaultAnalyzer = other.defaultAnalyzer)
    (same : schema.mapping? first = other.mapping? second) :
    schema.analyzerFor first = other.analyzerFor second := by
  have names : schema.analyzerName first = other.analyzerName second := by
    rw [analyzerName, analyzerName, same, defaults]
  have found := schema.find?_analyzerName first
  rw [names, analyzers, find?_analyzerName] at found
  exact (Option.some.inj found).symm

/-- The name that the mapping of a field gives is looked up, unless it is empty. -/
theorem analyzerName_of_mapping {field : Text} {mapping : FieldMapping} {name : Text}
    (mapped : schema.mapping? field = some mapping) (named : mapping.analyzer = some name) :
    schema.analyzerName field = if name = [] then schema.defaultAnalyzer else name := by
  simp only [analyzerName, mapped, Option.bind_some, named, List.isEmpty_iff]

/-- Without a mapping that gives a name, that of the default is looked up. -/
theorem analyzerName_of_unnamed {field : Text}
    (unnamed : ∀ mapping, schema.mapping? field = some mapping → mapping.analyzer = none) :
    schema.analyzerName field = schema.defaultAnalyzer := by
  have none : (schema.mapping? field).bind (·.analyzer) = none :=
    Option.bind_eq_none_iff.mpr unnamed
  simp only [analyzerName, none]

/-! ## Registered analyzers -/

variable [TextAnalyzer α]

/-- The analyzer of a field is a built-in one that cuts texts into words. -/
def CutsWords (schema : Schema α) (field : Text) : Prop :=
  ∃ analyzer : Analyzer, analyzer.OfWords ∧
    schema.analyzerFor field = TextAnalyzer.ofBuiltIn analyzer

/-- A schema has the analyzers that are registered. -/
theorem Built.find?_analyzers (built : schema.Built custom) (name : Text) :
    schema.analyzers.find? name = registered? custom name := by
  rw [built.analyzers_eq, Entries.find?_putAll, registered?]

/-- Under the name that is looked up for a field its analyzer is registered. -/
theorem Built.registered?_analyzerName (built : schema.Built custom) (field : Text) :
    registered? custom (schema.analyzerName field) = some (schema.analyzerFor field) := by
  rw [← built.find?_analyzers, find?_analyzerName]

/-- A name that a mapping gives is registered, also when it is empty. -/
theorem Built.isSome_registered? (built : schema.Built custom) {field : Text}
    {mapping : FieldMapping} {name : Text} (mapped : schema.mapping? field = some mapping)
    (named : mapping.analyzer = some name) : (registered? custom name).isSome := by
  rw [← built.find?_analyzers]
  exact schema.fields_known _ (Entries.mem_of_find? mapped) name named

/-- **The analyzer that a mapping names is used unless the name is empty.** In a schema that can be
built, a name that the mapping of a field gives is registered, and the analyzer of the field is the
one under that name if it is not empty, and the one under the name of the default if it is. The
analyzer of a field without a mapping, or with one that names no analyzer, is the one under the name
of the default as well. -/
theorem analyzerFor_registered (built : schema.Built custom) (field : Text) :
    (∀ mapping name, schema.mapping? field = some mapping → mapping.analyzer = some name →
      (registered? custom name).isSome ∧
      (name ≠ [] → registered? custom name = some (schema.analyzerFor field)) ∧
      (name = [] → registered? custom schema.defaultAnalyzer = some (schema.analyzerFor field))) ∧
    ((∀ mapping, schema.mapping? field = some mapping → mapping.analyzer = none) →
      registered? custom schema.defaultAnalyzer = some (schema.analyzerFor field)) := by
  have found := built.registered?_analyzerName field
  constructor
  · intro mapping name mapped named
    rw [analyzerName_of_mapping mapped named] at found
    refine ⟨built.isSome_registered? mapped named, fun nonempty => ?_, fun empty => ?_⟩
    · rwa [if_neg nonempty] at found
    · rwa [if_pos empty] at found
  · intro unnamed
    rwa [analyzerName_of_unnamed unnamed] at found

/-- A field whose mapping names a custom analyzer, which has the name of a built-in one. -/
theorem analyzerFor_registered_simple :
    ∃ schema : Schema CustomAnalyzer, schema.Built [("simple", .wholeLower)] ∧
      schema.mapping? "Code" = some ⟨.string, some "simple"⟩ ∧
      schema.analyzerFor "Code" = .wholeLower := by
  have declared : ((ofDeclarations [("code", .given ⟨.string, some "simple"⟩)] "english"
      [("simple", CustomAnalyzer.wholeLower)]).toOption.bind (·.mapping? "Code")) =
        some ⟨.string, some "simple"⟩ := by
    decide +kernel
  obtain ⟨schema, found, mapped⟩ := Option.bind_eq_some_iff.mp declared
  have built : schema.Built [("simple", .wholeLower)] := .declared _ _ (ok_of_toOption found)
  refine ⟨schema, built, mapped, ?_⟩
  have used := ((analyzerFor_registered built "Code").1 _ _ mapped rfl).2.1 (by decide)
  have registered : registered? [("simple", CustomAnalyzer.wholeLower)] "simple" =
      some .wholeLower := rfl
  exact (Option.some.inj (registered.symm.trans used)).symm

/-- A field whose mapping names the analyzer under the empty name. -/
theorem not_analyzerFor_registered_empty :
    ∃ schema : Schema, schema.Built [("", .keyword)] ∧
      schema.mapping? "code" = some ⟨.text, some ""⟩ ∧
      registered? [("", .keyword)] "" = some .keyword ∧
      ¬registered? [("", .keyword)] "" = some (schema.analyzerFor "code") := by
  have declared : ((ofDeclarations [("code", .given ⟨.text, some ""⟩)] "standard"
      [("", .keyword)]).toOption.map fun schema =>
        (schema.mapping? "code", schema.analyzerFor "code")) =
          some (some ⟨.text, some ""⟩, .standard []) := by
    decide +kernel
  obtain ⟨schema, found, same⟩ := Option.map_eq_some_iff.mp declared
  obtain ⟨mapped, used⟩ := Prod.mk.inj same
  have registered : registered? [("", .keyword)] "" = some .keyword := by decide
  refine ⟨schema, .declared _ _ (ok_of_toOption found), mapped, registered, ?_⟩
  rw [registered, used]
  decide

end Schema

end FieldSearch
