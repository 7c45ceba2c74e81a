import FieldSearch.Proofs.Compilation.FieldCase
import FieldSearch.Proofs.Schema.Acceptance
import FieldSearch.Proofs.Text.Mended
import FieldSearch.Proofs.Wire.Scalar

/-!
# Schemas and their documents

The document of a configuration gives the same schema as the declarations of its fields, or the same
report. A schema that was built is written as the document of its own fields under mended names, so
that the document gives the schema again when no name of a field has a surrogate. In any case the
document gives a schema with the same document.
-/

namespace FieldSearch

open Wire (Checked acceptText acceptOptionalText_ofText?)

/-! ## Documents of mappings -/

namespace FieldMapping

/-- The name of a type is accepted for the type. -/
theorem acceptFieldType_name (fieldType : FieldType) :
    acceptFieldType (.str fieldType.name) = .accepted fieldType := by
  cases fieldType <;> decide

/-- A mapping is read back from its document. -/
theorem read_toJson (mapping : FieldMapping) : read mapping.toJson = .accepted mapping := by
  have typeRead : typeParameter.read [(typeParameter.name, .str mapping.fieldType.name),
      (analyzerParameter.name, Json.ofText? mapping.analyzer)] .text acceptFieldType =
        .accepted mapping.fieldType := by
    change (acceptFieldType (.str mapping.fieldType.name)).under _ = _
    rw [acceptFieldType_name]
    rfl
  have analyzerRead : analyzerParameter.read [(typeParameter.name, .str mapping.fieldType.name),
      (analyzerParameter.name, Json.ofText? mapping.analyzer)] none Wire.acceptOptionalText =
        .accepted mapping.analyzer := by
    change (Wire.acceptOptionalText (Json.ofText? mapping.analyzer)).under _ = _
    rw [acceptOptionalText_ofText?]
    rfl
  change readMembers _ = _
  rw [readMembers, typeRead, analyzerRead]
  rfl

end FieldMapping

namespace Schema

variable {α : Type}

/-! ## Mended configurations -/

/-- The default analyzer and the fields of a schema. -/
def config (schema : Schema α) : Config :=
  ⟨schema.defaultAnalyzer, schema.fields⟩

/-- A name in a mended configuration is the mended name of a field. -/
theorem Config.mem_names_mended {config : Config} {name : Text} :
    name ∈ config.mended.fields.names ↔
      ∃ original ∈ config.fields.names, original.mended = name := by
  rw [mended, Entries.mem_names_ofList]
  exact Entries.mem_names_renamed

/-- A configuration without surrogates in its names is not changed by mending it. -/
theorem Config.mended_eq_self {config : Config} (distinct : config.fields.names.Nodup)
    (wellFormed : ∀ name ∈ config.fields.names, name.isWellFormed) : config.mended = config := by
  have kept : (config.fields.map fun entry => (entry.1.mended, entry.2)) = config.fields :=
    Entries.renamed_eq_self fun name member => Text.mended_of_isWellFormed (wellFormed name member)
  exact congrArg (Config.mk config.defaultAnalyzer)
    ((congrArg Entries.ofList kept).trans (Entries.ofList_of_nodup distinct))

/-- A mended configuration is its own mended form. -/
theorem Config.mended_mended (config : Config) : config.mended.mended = config.mended := by
  refine mended_eq_self (Entries.nodup_names_ofList _) fun name member => ?_
  obtain ⟨original, _, rfl⟩ := mem_names_mended.mp member
  exact original.isWellFormed_mended

/-- A schema with a mended configuration has the same mapping of a field, if the mended names are
those of the field where the names are. -/
theorem mapping?_of_config_mended {schema copy : Schema α} {field : Text}
    (mended : copy.config = schema.config.mended) (distinct : schema.fields.names.Nodup)
    (apart : ∀ name ∈ schema.fields.names, name.mended = Text.lower field ↔
      name = Text.lower field) :
    copy.mapping? field = schema.mapping? field := by
  have fields : copy.fields = schema.config.mended.fields := congrArg Config.fields mended
  rw [mapping?, mapping?, fields]
  exact Entries.find?_ofList_renamed distinct apart

/-! ## Documents of configurations -/

section Documents

variable [TextAnalyzer α]

/-- Fields are read back from their documents. -/
theorem acceptFields_toJson (fields : List (Text × FieldMapping)) :
    acceptFields (.obj (fields.map fun entry => (entry.1, entry.2.toJson))) =
      .accepted fields := by
  have readings : (fields.map fun entry => (entry.1, entry.2.toJson)).map (fun entry =>
      (entry.1, ·) <$> (FieldMapping.read entry.2).under (.member entry.1)) =
        fields.map Checked.accepted := by
    rw [List.map_map]
    apply List.map_congr_left
    intro entry _
    rw [Function.comp_apply, FieldMapping.read_toJson]
    rfl
  exact (congrArg Checked.collect readings).trans (Checked.collect_map_accepted fields)

/-- The document of a configuration describes it. -/
theorem describes_toJson (config : Config) :
    Describes config.toJson config.defaultAnalyzer config.fields := by
  refine ⟨_, rfl, rfl, ?_⟩
  change (acceptFields _).under _ = _
  exact Checked.under_eq_accepted_iff.mpr (acceptFields_toJson config.fields)

/-- A configuration gives the same schema as a document and as declarations, or the same report. -/
theorem ofDocument_configToJson (config : Config) (custom : List (Text × α)) :
    ofDocument config.toJson custom =
      ofDeclarations (given config.fields) config.defaultAnalyzer custom :=
  ofDocument_of_describes (describes_toJson config) custom

/-- Mappings give a schema of the last one of each field, unless an analyzer is not there. -/
theorem ofDeclarations_given_cases (fields : List (Text × FieldMapping)) (defaultAnalyzer : Text)
    (custom : List (Text × α)) :
    (∃ schema, ofDeclarations (given fields) defaultAnalyzer custom = .ok schema ∧
        schema.defaultAnalyzer = defaultAnalyzer ∧
        schema.fields = Entries.ofList (lowered fields)) ∨
      ∃ name field, ofDeclarations (given fields) defaultAnalyzer custom =
        .error (unknownAnalyzer (TextAnalyzer.builtIn.putAll custom) name field) := by
  have collected : ofDeclarations (given fields) defaultAnalyzer custom =
      ofFields (TextAnalyzer.builtIn.putAll custom) defaultAnalyzer
        (Entries.ofList (lowered fields)) := by
    rw [ofDeclarations, collectFields_given]
    rfl
  rw [collected]
  cases built : ofFields (TextAnalyzer.builtIn.putAll custom) defaultAnalyzer
      (Entries.ofList (lowered fields)) with
  | ok schema => exact .inl ⟨schema, rfl, (parts_of_ofFields built).2⟩
  | error report =>
    obtain ⟨name, field, rfl⟩ := exists_unknownAnalyzer_of_ofFields built
    exact .inr ⟨name, field, rfl⟩

/-- **A document and declarations build alike.** A default analyzer and mappings give one schema,
whether they are declared or written as a document: its fields are the last mappings under the names
in lower case. Or they are refused either way with one report, of an analyzer that is not there. -/
theorem accepted_alike_or_refused_alike (fields : List (Text × FieldMapping))
    (defaultAnalyzer : Text) (custom : List (Text × α)) :
    (∃ schema,
      ofDocument (Config.toJson ⟨defaultAnalyzer, fields⟩) custom = .ok schema ∧
      ofDeclarations (given fields) defaultAnalyzer custom = .ok schema ∧
      schema.defaultAnalyzer = defaultAnalyzer ∧
      schema.fields = Entries.ofList (lowered fields)) ∨
    ∃ name field,
      ofDocument (Config.toJson ⟨defaultAnalyzer, fields⟩) custom =
        .error (unknownAnalyzer (TextAnalyzer.builtIn.putAll custom) name field) ∧
      ofDeclarations (given fields) defaultAnalyzer custom =
        .error (unknownAnalyzer (TextAnalyzer.builtIn.putAll custom) name field) := by
  have alike := ofDocument_configToJson ⟨defaultAnalyzer, fields⟩ custom
  rcases ofDeclarations_given_cases fields defaultAnalyzer custom with
    ⟨schema, declared, parts⟩ | ⟨name, field, refused⟩
  · exact .inl ⟨schema, alike.trans declared, declared, parts⟩
  · exact .inr ⟨name, field, alike.trans refused, refused⟩

/-! ## Documents of schemas -/

/-- The schemas that are accepted with some custom analyzers, also as JSON text. -/
inductive Accepted (custom : List (Text × α)) (schema : Schema α) : Prop
  | built (built : schema.Built custom)
  | written (text : Text) (read : ofText text custom = .ok schema)

variable {custom : List (Text × α)} {schema : Schema α}

/-- An accepted text describes the schema by the document that it holds. -/
theorem Accepted.toBuilt (accepted : schema.Accepted custom) : schema.Built custom := by
  cases accepted with
  | built built => exact built
  | written text read =>
    unfold ofText at read
    split at read
    next members _ =>
      cases described : ofDocument (.obj members) custom with
      | ok given =>
        rw [described] at read
        cases read
        exact .described _ described
      | error report =>
        rw [described] at read
        cases read
    all_goals cases read

/-- The fields of a schema that can be built are under distinct names. -/
theorem Built.nodup_names (built : schema.Built custom) : schema.fields.names.Nodup := by
  obtain ⟨declarations, defaultAnalyzer, built⟩ := built.exists_ofDeclarations
  obtain ⟨_, _, fields⟩ := fields_of_ofDeclarations built
  rw [fields]
  exact Entries.nodup_names_ofList _

/-- The fields of a schema that can be built are under names in lower case. -/
theorem Built.lower_of_mem_names (built : schema.Built custom) {name : Text}
    (listed : name ∈ schema.fields.names) : Text.lower name = name := by
  obtain ⟨declarations, defaultAnalyzer, built⟩ := built.exists_ofDeclarations
  obtain ⟨total, _, fields⟩ := fields_of_ofDeclarations built
  rw [fields, Entries.mem_names_ofList, names_mappings total] at listed
  exact lower_of_mem_names_lowered listed

/-- A schema that can be built is written as its mended configuration. -/
theorem Built.toJson_eq (built : schema.Built custom) :
    schema.toJson = schema.config.mended.toJson := by
  have fields : Entries.ofList (lowered schema.fields) = schema.fields :=
    ofList_lowered_of_nodup built.nodup_names fun _ => built.lower_of_mem_names
  exact congrArg (fun fields => (Config.mended ⟨schema.defaultAnalyzer, fields⟩).toJson) fields

/-- The document of a schema that can be built gives a schema with the same analyzers and the mended
configuration. -/
theorem Built.exists_copy (built : schema.Built custom) :
    ∃ copy : Schema α, ofDocument schema.toJson custom = .ok copy ∧
      copy.analyzers = schema.analyzers ∧ copy.config = schema.config.mended := by
  have collected : Entries.ofList (lowered schema.config.mended.fields) =
      schema.config.mended.fields := by
    refine ofList_lowered_of_nodup (Entries.nodup_names_ofList _) fun name member => ?_
    obtain ⟨original, listed, rfl⟩ := Config.mem_names_mended.mp member
    rw [← built.lower_of_mem_names listed]
    exact Text.lower_mended_lower original
  -- Mending may drop fields but adds none, so that all analyzers are still there.
  have known : ∀ entry ∈ schema.config.mended.fields, ∀ name, entry.2.analyzer = some name →
      (schema.analyzers.find? name).isSome := by
    intro entry member name named
    obtain ⟨field, listed, rfl⟩ := List.mem_map.mp (Entries.mem_of_mem_ofList member)
    exact schema.fields_known field listed name named
  obtain ⟨copy, copied⟩ := exists_ofFields_eq_ok_iff.mpr ⟨schema.default_known, known⟩
  obtain ⟨analyzers, defaultAnalyzer, fields⟩ := parts_of_ofFields copied
  refine ⟨copy, ?_, analyzers, ?_⟩
  · rw [built.toJson_eq, ofDocument_configToJson]
    refine ofDeclarations_eq_ok_iff.mpr ⟨_, collectFields_given _, ?_⟩
    rw [collected, ← built.analyzers_eq]
    exact copied
  · rw [config, defaultAnalyzer, fields]
    rfl

/-! ## Look-up in a copy -/

/-- In schemas with the same analyzers and the same default, a field with one mapping has one type,
and any text has one term or one report. -/
theorem answers_congr {other : Schema α} {field : Text}
    (analyzers : other.analyzers = schema.analyzers)
    (defaults : other.defaultAnalyzer = schema.defaultAnalyzer)
    (same : other.mapping? field = schema.mapping? field) :
    other.fieldType? field = schema.fieldType? field ∧
      ∀ text, other.term? field text = schema.term? field text := by
  constructor
  · rw [fieldType?, fieldType?, same]
  · intro text
    rw [term?, term?, analyzerFor_congr analyzers defaults same]

/-- **A schema is built again from its document, under mended names.** The document of an accepted
schema holds the name of its default analyzer and the mappings of its fields under their mended
names. With the same custom analyzers it is accepted, and gives a schema with the same document,
whose fields have the mended names. It has the same type and the same term or report for any field
whose name is told from the others after they are mended. When no name of a field has a surrogate,
the names of the fields are the same, and so are the types and the terms or reports for any field.
-/
theorem exists_copy_of_accepted (accepted : schema.Accepted custom) :
    schema.toJson = .obj [("default_analyzer", .str schema.defaultAnalyzer),
      ("fields", .obj (schema.config.mended.fields.map fun entry =>
        (entry.1, entry.2.toJson)))] ∧
    ∃ copy : Schema α, ofDocument schema.toJson custom = .ok copy ∧
      copy.toJson = schema.toJson ∧
      (∀ name, name ∈ copy.fieldNames ↔
        ∃ original ∈ schema.fieldNames, original.mended = name) ∧
      (∀ field, (∀ name ∈ schema.fieldNames, name.mended = Text.lower field ↔
          name = Text.lower field) →
        copy.fieldType? field = schema.fieldType? field ∧
          ∀ text, copy.term? field text = schema.term? field text) ∧
      ((∀ name ∈ schema.fieldNames, name.isWellFormed) →
        copy.fieldNames = schema.fieldNames ∧
        ∀ field, copy.fieldType? field = schema.fieldType? field ∧
          ∀ text, copy.term? field text = schema.term? field text) := by
  have built := accepted.toBuilt
  obtain ⟨copy, described, analyzers, mended⟩ := built.exists_copy
  have defaults : copy.defaultAnalyzer = schema.defaultAnalyzer :=
    congrArg Config.defaultAnalyzer mended
  have fields : copy.fields = schema.config.mended.fields := congrArg Config.fields mended
  refine ⟨built.toJson_eq, copy, described, ?_, fun name => ?_, fun field apart => ?_,
    fun wellFormed => ?_⟩
  · rw [(Built.described _ described).toJson_eq, mended, Config.mended_mended, built.toJson_eq]
  · simp only [fieldNames, List.mem_mergeSort, fields, Config.mem_names_mended]
    rfl
  · simp only [fieldNames, List.mem_mergeSort] at apart
    exact answers_congr analyzers defaults
      (mapping?_of_config_mended mended built.nodup_names apart)
  · simp only [fieldNames, List.mem_mergeSort] at wellFormed
    have unchanged : copy.fields = schema.fields := by
      rw [fields, Config.mended_eq_self built.nodup_names wellFormed]
      rfl
    refine ⟨by rw [fieldNames, fieldNames, unchanged], fun field => ?_⟩
    exact answers_congr analyzers defaults (by rw [mapping?, mapping?, unchanged])

end Documents

/-- A field that is declared twice, under names of one lower case, the second time with a custom
analyzer. -/
theorem exists_copy_of_accepted_street :
    ∃ schema copy : Schema CustomAnalyzer,
      ofDeclarations [("οδος", .named (.str "integer")), ("ΟΔΟΣ", .given ⟨.string, some "exact"⟩)]
        "english" [("exact", .wholeLower)] = .ok schema ∧
      ofDocument schema.toJson [("exact", .wholeLower)] = .ok copy ∧
      copy.fieldNames = [Text.ofString "οδος"] ∧ copy.fieldType? "Οδος" = some .string ∧
      copy.term? "Οδος" "The sea" = .ok (some "the sea") := by
  have declared : ((ofDeclarations
      [("οδος", .named (.str "integer")), ("ΟΔΟΣ", .given ⟨.string, some "exact"⟩)]
      "english" [("exact", CustomAnalyzer.wholeLower)]).toOption.map fun schema =>
        (schema.fieldNames, schema.fieldType? "Οδος",
          (schema.term? "Οδος" "The sea").toOption)) =
        some ([Text.ofString "οδος"], some .string, some (some (Text.ofString "the sea"))) := by
    decide +kernel
  obtain ⟨schema, found, same⟩ := Option.map_eq_some_iff.mp declared
  obtain ⟨names, same⟩ := Prod.mk.inj same
  obtain ⟨typed, analyzed⟩ := Prod.mk.inj same
  have built := ok_of_toOption found
  have wellFormed : ∀ name ∈ schema.fieldNames, name.isWellFormed := by
    rw [names]
    decide
  obtain ⟨_, copy, copied, _, _, _, kept⟩ :=
    exists_copy_of_accepted (.built (.declared _ _ built))
  obtain ⟨sameNames, alike⟩ := kept wellFormed
  refine ⟨schema, copy, built, copied, sameNames.trans names, (alike _).1.trans typed, ?_⟩
  exact ((alike _).2 _).trans (ok_of_toOption analyzed)

/-- A field under the first surrogate: its name and its type are not read back. -/
theorem copy_of_surrogate_name :
    ∃ schema copy : Schema,
      ofDocument (.obj [("fields", .obj [([.surrogate 0], .obj [("type", .str "integer")])])]) [] =
        .ok schema ∧
      ofDocument schema.toJson [] = .ok copy ∧
      copy.fieldNames ≠ schema.fieldNames ∧
      copy.fieldType? [.surrogate 0] ≠ schema.fieldType? [.surrogate 0] := by
  have described : ((ofDocument (.obj [("fields",
      .obj [([.surrogate 0], .obj [("type", .str "integer")])])]) []).toOption.bind fun schema =>
        (ofDocument schema.toJson []).toOption.map fun copy =>
          (schema.fieldNames, copy.fieldNames, schema.fieldType? [.surrogate 0],
            copy.fieldType? [.surrogate 0])) =
      some ([[.surrogate 0]], [Text.ofString "\uFFFD\uFFFD\uFFFD"], some .integer, none) := by
    decide +kernel
  obtain ⟨schema, found, rest⟩ := Option.bind_eq_some_iff.mp described
  obtain ⟨copy, copied, same⟩ := Option.map_eq_some_iff.mp rest
  obtain ⟨names, same⟩ := Prod.mk.inj same
  obtain ⟨copiedNames, same⟩ := Prod.mk.inj same
  obtain ⟨typed, copiedType⟩ := Prod.mk.inj same
  refine ⟨schema, copy, ok_of_toOption found, ok_of_toOption copied, ?_, ?_⟩
  · rw [names, copiedNames]
    decide
  · rw [typed, copiedType]
    exact nofun

end Schema

end FieldSearch
