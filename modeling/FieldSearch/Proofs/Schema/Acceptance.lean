import FieldSearch.Proofs.Schema.Declared
import FieldSearch.Proofs.Wire.Checked
import Mathlib.Data.List.Nodup

/-!
# Which configurations are accepted

A schema is refused when its default analyzer is not there, when a declaration names a type that
there is not, or when the last declaration of some field names an analyzer that is not there. The
analyzer of a declaration that a later one of the same field replaces is never looked for. A
document is refused for the same reasons as the declarations that it makes.
-/

namespace FieldSearch

open Wire (Checked acceptText)

variable {α : Type}

/-- A name that is neither that of a built-in analyzer nor that of a custom one. -/
def Unregistered (custom : List (Text × α)) (name : Text) : Prop :=
  name ∉ Entries.names Analyzer.builtIn ∧ name ∉ Entries.names custom

/-- A declaration whose mapping names an analyzer that is neither built in nor custom. -/
def Declaration.NamesUnregistered (custom : List (Text × α)) (declaration : Declaration) :
    Prop :=
  ∃ mapping name, declaration.mapping? = some mapping ∧ mapping.analyzer = some name ∧
    Unregistered custom name

/-- A schema has the analyzers that are built in or custom. -/
theorem isSome_find?_putAll_iff [TextAnalyzer α] (custom : List (Text × α)) (name : Text) :
    ((TextAnalyzer.builtIn.putAll custom).find? name).isSome ↔ ¬Unregistered custom name := by
  rw [Entries.isSome_find?_iff, Entries.mem_names_putAll, TextAnalyzer.names_builtIn,
    Unregistered, not_and_or, not_not, not_not, or_comm]

namespace Schema

variable {declarations : List (Text × Declaration)} {defaultAnalyzer : Text}
  {custom : List (Text × α)}

/-! ## Acceptance -/

/-- Fields give a schema exactly when all analyzers are there. -/
theorem exists_ofFields_eq_ok_iff {analyzers : Entries α} {fields : Entries FieldMapping} :
    (∃ schema, ofFields analyzers defaultAnalyzer fields = .ok schema) ↔
      (analyzers.find? defaultAnalyzer).isSome ∧
        ∀ entry ∈ fields, ∀ name, entry.2.analyzer = some name → (analyzers.find? name).isSome := by
  constructor
  · rintro ⟨schema, built⟩
    obtain ⟨rfl, rfl, rfl⟩ := parts_of_ofFields built
    exact ⟨schema.default_known, schema.fields_known⟩
  · rintro ⟨defaultKnown, fieldsKnown⟩
    rw [ofFields, dif_pos defaultKnown]
    split
    next field name found =>
      obtain ⟨entry, member, missing⟩ := List.exists_of_findSome?_eq_some found
      obtain ⟨_, missing, ⟨⟩⟩ := Option.map_eq_some_iff.mp missing
      obtain ⟨named, absent⟩ := Option.filter_eq_some_iff.mp missing
      have known := fieldsKnown entry member name named
      rw [Option.isNone_iff_eq_none] at absent
      rw [absent] at known
      cases known
    next => exact ⟨_, rfl⟩

/-- Of collected fields, all name analyzers that are there when the last declarations do. -/
theorem forall_mem_ofList_mappings_iff [TextAnalyzer α]
    (total : ∀ entry ∈ declarations, entry.2.mapping?.isSome) :
    (∀ entry ∈ Entries.ofList (mappings declarations), ∀ name, entry.2.analyzer = some name →
        ((TextAnalyzer.builtIn.putAll custom).find? name).isSome) ↔
      ∀ field declaration, lastDeclared? declarations field = some declaration →
        ¬declaration.NamesUnregistered custom := by
  constructor
  · rintro known field declaration last ⟨mapping, name, mapped, named, unregistered⟩
    have found : (Entries.ofList (mappings declarations)).find? (Text.lower field) =
        some mapping := by
      rw [find?_ofList_mappings total, last]
      exact mapped
    have registered := known _ (Entries.mem_of_find? found) name named
    exact (isSome_find?_putAll_iff custom name).mp registered unregistered
  · rintro known ⟨field, mapping⟩ member name named
    have listed : field ∈ (Entries.ofList (mappings declarations)).names :=
      List.mem_map.mpr ⟨_, member, rfl⟩
    rw [Entries.mem_names_ofList, names_mappings total] at listed
    have found := Entries.find?_of_mem (Entries.nodup_names_ofList _) member
    rw [← lower_of_mem_names_lowered listed, find?_ofList_mappings total] at found
    obtain ⟨declaration, last, mapped⟩ := Option.bind_eq_some_iff.mp found
    rw [isSome_find?_putAll_iff]
    exact fun unregistered =>
      known field declaration last ⟨mapping, name, mapped, named, unregistered⟩

/-- Declarations give a schema exactly when the default analyzer is there, all types are, and so are
the analyzers that the last declarations name. -/
theorem exists_ofDeclarations_eq_ok_iff [TextAnalyzer α] :
    (∃ schema, ofDeclarations declarations defaultAnalyzer custom = .ok schema) ↔
      ¬Unregistered custom defaultAnalyzer ∧
        (∀ entry ∈ declarations, entry.2.mapping?.isSome) ∧
        ∀ field declaration, lastDeclared? declarations field = some declaration →
          ¬declaration.NamesUnregistered custom := by
  constructor
  · rintro ⟨schema, built⟩
    obtain ⟨fields, collected, built⟩ := ofDeclarations_eq_ok_iff.mp built
    obtain ⟨total, rfl⟩ := collectFields_eq_ok_iff.mp collected
    obtain ⟨defaultKnown, known⟩ := exists_ofFields_eq_ok_iff.mp ⟨schema, built⟩
    exact ⟨(isSome_find?_putAll_iff custom defaultAnalyzer).mp defaultKnown, total,
      (forall_mem_ofList_mappings_iff total).mp known⟩
  · rintro ⟨defaultKnown, total, known⟩
    obtain ⟨schema, built⟩ := exists_ofFields_eq_ok_iff.mpr
      ⟨(isSome_find?_putAll_iff custom defaultAnalyzer).mpr defaultKnown,
        (forall_mem_ofList_mappings_iff total).mpr known⟩
    exact ⟨schema, ofDeclarations_eq_ok_iff.mpr
      ⟨_, collectFields_eq_ok_iff.mpr ⟨total, rfl⟩, built⟩⟩

/-! ## Refusal -/

/-- No schema is built, and a report of a schema says why. -/
def Refused (result : Except SearchError (Schema α)) : Prop :=
  ∃ report, report.OfSchema ∧ result = .error report

/-- Declarations are refused when one of the conditions for a schema is not met. -/
theorem refused_ofDeclarations_iff [TextAnalyzer α] :
    Refused (ofDeclarations declarations defaultAnalyzer custom) ↔
      Unregistered custom defaultAnalyzer ∨
        (∃ entry ∈ declarations, entry.2.mapping? = none) ∨
        ∃ field declaration, lastDeclared? declarations field = some declaration ∧
          declaration.NamesUnregistered custom := by
  have reported : Refused (ofDeclarations declarations defaultAnalyzer custom) ↔
      ∃ report, ofDeclarations declarations defaultAnalyzer custom = .error report :=
    exists_congr fun report => and_iff_right_of_imp ofSchema_of_ofDeclarations
  rw [reported, exists_eq_error_iff, exists_ofDeclarations_eq_ok_iff, not_and_or, not_and_or,
    not_not]
  simp only [not_forall, not_not, exists_prop, Option.not_isSome_iff_eq_none]

/-! ## Documents -/

/-- A document names a default analyzer and has mappings under the names of fields. -/
def Describes (document : Json) (defaultAnalyzer : Text) (fields : List (Text × FieldMapping)) :
    Prop :=
  ∃ members, document = .obj members ∧
    defaultAnalyzerParameter.read members standardAnalyzer acceptText = .accepted defaultAnalyzer ∧
    fieldsParameter.read members [] acceptFields = .accepted fields

/-- Mappings as declarations. -/
def given (fields : List (Text × FieldMapping)) : List (Text × Declaration) :=
  fields.map fun entry => (entry.1, .given entry.2)

/-- Declared mappings are collected as they are. -/
theorem mappings_given (fields : List (Text × FieldMapping)) :
    mappings (given fields) = lowered fields := by
  induction fields with
  | nil => rfl
  | cons field rest ih => exact congrArg ((Text.lower field.1, field.2) :: ·) ih

/-- Mappings can always be collected. -/
theorem collectFields_given (fields : List (Text × FieldMapping)) :
    collectFields (given fields) = .ok (Entries.ofList (lowered fields)) := by
  refine collectFields_eq_ok_iff.mpr ⟨?_, by rw [mappings_given]⟩
  intro entry member
  obtain ⟨field, _, rfl⟩ := List.mem_map.mp member
  rfl

/-- Fields under distinct names in lower case are collected as they are. -/
theorem ofList_lowered_of_nodup {fields : Entries FieldMapping} (distinct : fields.names.Nodup)
    (lower : ∀ name ∈ fields.names, Text.lower name = name) :
    Entries.ofList (lowered fields) = fields := by
  rw [lowered_eq_self lower, Entries.ofList_of_nodup distinct]

/-- The fields of a document are collected once and for all. -/
theorem ofList_lowered_ofList_lowered (fields : List (Text × FieldMapping)) :
    Entries.ofList (lowered (Entries.ofList (lowered fields))) =
      Entries.ofList (lowered fields) :=
  ofList_lowered_of_nodup (Entries.nodup_names_ofList _) fun _ listed =>
    lower_of_mem_names_lowered (Entries.mem_names_ofList.mp listed)

/-- A document gives the same schema as the declarations of its mappings, or the same report. -/
theorem ofDocument_of_describes [TextAnalyzer α] {document : Json}
    {fields : List (Text × FieldMapping)} (describes : Describes document defaultAnalyzer fields)
    (custom : List (Text × α)) :
    ofDocument document custom = ofDeclarations (given fields) defaultAnalyzer custom := by
  obtain ⟨members, rfl, defaultRead, fieldsRead⟩ := describes
  have read : Config.read (.obj members) =
      .accepted ⟨defaultAnalyzer, Entries.ofList (lowered fields)⟩ := by
    rw [Config.read, defaultRead, fieldsRead]
    rfl
  have collected : collectFields (given (Entries.ofList (lowered fields))) =
      collectFields (given fields) := by
    rw [collectFields_given, collectFields_given, ofList_lowered_ofList_lowered]
  rw [ofDocument, read]
  change ofDeclarations (given (Entries.ofList (lowered fields))) defaultAnalyzer custom = _
  rw [ofDeclarations, ofDeclarations, collected]

/-- A document that can be read describes a configuration. -/
theorem exists_describes_of_read {document : Json} {config : Config}
    (read : Config.read document = .accepted config) :
    ∃ fields, Describes document config.defaultAnalyzer fields := by
  cases document with
  | obj members =>
    obtain ⟨make, fields, first, fieldsRead, rfl⟩ := Checked.seq_eq_accepted_iff.mp read
    obtain ⟨defaultAnalyzer, defaultRead, rfl⟩ := Checked.map_eq_accepted_iff.mp first
    exact ⟨fields, members, rfl, defaultRead, fieldsRead⟩
  | _ => cases read

/-- A document is refused when any configuration that it describes is. -/
theorem refused_ofDocument_iff [TextAnalyzer α] {document : Json} :
    Refused (ofDocument document custom) ↔
      ∀ defaultAnalyzer fields, Describes document defaultAnalyzer fields →
        Refused (ofDeclarations (given fields) defaultAnalyzer custom) := by
  constructor
  · intro refused defaultAnalyzer fields describes
    rwa [← ofDocument_of_describes describes]
  · intro refused
    cases read : Config.read document with
    | accepted config =>
      obtain ⟨fields, describes⟩ := exists_describes_of_read read
      rw [ofDocument_of_describes describes]
      exact refused _ fields describes
    | rejected problems =>
      refine ⟨.schemaDocument problems, .schemaDocument problems, ?_⟩
      rw [ofDocument, read]

/-! ## Replaced declarations -/

/-- When no field is declared twice, each declaration is the last of its field. -/
theorem exists_lastDeclared?_of_mem {entry : Text × Declaration} (member : entry ∈ declarations)
    (distinct : (Entries.names (lowered declarations)).Nodup) :
    lastDeclared? declarations entry.1 = some entry.2 := by
  rw [lastDeclared?_eq]
  apply Entries.find?_of_mem
  · rw [Entries.names, List.map_reverse, List.nodup_reverse]
    exact distinct
  · exact List.mem_reverse.mpr (List.mem_map.mpr ⟨entry, member, rfl⟩)

/-- The last declaration of a field is one of the declarations. -/
theorem exists_mem_of_lastDeclared? {field : Text} {declaration : Declaration}
    (last : lastDeclared? declarations field = some declaration) :
    ∃ entry ∈ declarations, entry.2 = declaration := by
  rw [lastDeclared?, List.findRev?_eq_find?_reverse] at last
  obtain ⟨entry, found, rfl⟩ := Option.map_eq_some_iff.mp last
  exact ⟨entry, List.mem_reverse.mp (List.mem_of_find?_eq_some found), rfl⟩

/-- Something is wrong with a configuration: with the default analyzer, or with the type or the
analyzer of any declaration. -/
def Faulty (custom : List (Text × α)) (defaultAnalyzer : Text)
    (declarations : List (Text × Declaration)) : Prop :=
  Unregistered custom defaultAnalyzer ∨ (∃ entry ∈ declarations, entry.2.mapping? = none) ∨
    ∃ entry ∈ declarations, entry.2.NamesUnregistered custom

/-- When no field is declared twice, declarations are refused exactly when something is wrong with
them. -/
theorem refused_ofDeclarations_iff_faulty [TextAnalyzer α]
    (distinct : (Entries.names (lowered declarations)).Nodup) :
    Refused (ofDeclarations declarations defaultAnalyzer custom) ↔
      Faulty custom defaultAnalyzer declarations := by
  rw [refused_ofDeclarations_iff, Faulty]
  refine or_congr_right (or_congr_right ⟨?_, ?_⟩)
  · rintro ⟨field, declaration, last, unregistered⟩
    obtain ⟨entry, member, rfl⟩ := exists_mem_of_lastDeclared? last
    exact ⟨entry, member, unregistered⟩
  · rintro ⟨entry, member, unregistered⟩
    exact ⟨entry.1, entry.2, exists_lastDeclared?_of_mem member distinct, unregistered⟩

/-- **Only the last declaration of a field answers for its analyzer.** A configuration is refused
exactly when its default analyzer is unregistered, some declaration names a type that there is not,
or the last declaration of some field names an unregistered analyzer. When no two declarations are
of one field, that is exactly when something is wrong with it. A document is refused when it
describes no configuration, or one that is refused for its analyzers. -/
theorem refused_iff_lastDeclared [TextAnalyzer α] (custom : List (Text × α)) :
    (∀ defaultAnalyzer declarations,
      Refused (ofDeclarations declarations defaultAnalyzer custom) ↔
        Unregistered custom defaultAnalyzer ∨
          (∃ entry ∈ declarations, entry.2.mapping? = none) ∨
          ∃ field declaration, lastDeclared? declarations field = some declaration ∧
            declaration.NamesUnregistered custom) ∧
    (∀ defaultAnalyzer declarations, (Entries.names (lowered declarations)).Nodup →
      (Refused (ofDeclarations declarations defaultAnalyzer custom) ↔
        Faulty custom defaultAnalyzer declarations)) ∧
    ∀ document, Refused (ofDocument document custom) ↔
      ∀ defaultAnalyzer fields, Describes document defaultAnalyzer fields →
        Unregistered custom defaultAnalyzer ∨
          ∃ field declaration, lastDeclared? (given fields) field = some declaration ∧
            declaration.NamesUnregistered custom := by
  refine ⟨fun _ _ => refused_ofDeclarations_iff,
    fun _ _ distinct => refused_ofDeclarations_iff_faulty distinct, fun document => ?_⟩
  rw [refused_ofDocument_iff]
  refine forall_congr' fun defaultAnalyzer => forall_congr' fun fields => ?_
  rw [refused_ofDeclarations_iff]
  have total : ¬∃ entry ∈ given fields, entry.2.mapping? = none := by
    rintro ⟨entry, member, none⟩
    obtain ⟨field, _, rfl⟩ := List.mem_map.mp member
    cases none
  rw [or_iff_right total]

/-- The name of an analyzer that is not there. -/
theorem unregistered_french : Unregistered ([] : List (Text × Analyzer)) "french" :=
  ⟨by decide, List.not_mem_nil⟩

/-- One field with an analyzer that is not there. -/
theorem refused_iff_lastDeclared_french :
    Refused (ofDeclarations [("Name", .given ⟨.text, some "french"⟩)] "standard" []) := by
  have distinct : (Entries.names (lowered
      [(Text.ofString "Name", Declaration.given ⟨.text, some "french"⟩)])).Nodup :=
    List.nodup_cons.mpr ⟨List.not_mem_nil, List.nodup_nil⟩
  refine ((refused_iff_lastDeclared []).2.1 "standard" _ distinct).mpr (.inr (.inr ?_))
  exact ⟨_, List.mem_singleton_self _, _, _, rfl, rfl, unregistered_french⟩

/-- A declaration whose analyzer is not there, replaced by one that names none. -/
theorem not_refused_of_replaced_french :
    (¬(Refused (ofDeclarations [("Name", .given ⟨.text, some "french"⟩),
          ("name", .given ⟨.text, none⟩)] "standard" []) ↔
        Faulty ([] : List (Text × Analyzer)) "standard"
          [("Name", .given ⟨.text, some "french"⟩), ("name", .given ⟨.text, none⟩)])) ∧
      ¬Refused (ofDocument (.obj [("fields", .obj [
        ("Name", .obj [("analyzer", .str "french")]), ("name", .obj [])])]) []) := by
  have declared : (ofDeclarations [("Name", .given ⟨.text, some "french"⟩),
      ("name", .given ⟨.text, none⟩)] "standard" []).toOption.isSome := by
    decide +kernel
  have described : (ofDocument (.obj [("fields", .obj [
      ("Name", .obj [("analyzer", .str "french")]), ("name", .obj [])])]) []).toOption.isSome := by
    decide +kernel
  have accepted {result : Except SearchError Schema} (found : result.toOption.isSome) :
      ¬Refused result := by
    rintro ⟨report, _, rfl⟩
    cases found
  refine ⟨fun same => accepted declared (same.mpr (.inr (.inr ?_))), accepted described⟩
  exact ⟨_, List.mem_cons_self, _, _, rfl, rfl, unregistered_french⟩

end Schema

end FieldSearch
