import FieldSearch.Proofs.Entries
import FieldSearch.Proofs.Schema.Construction
import FieldSearch.Proofs.Text.Lowercase

/-!
# Declared fields

A field has the mapping of its last declaration, whatever the case of the names. The mapping of a
declaration is found without regard to the others, so that fields can be collected exactly when
every declaration has one.
-/

namespace FieldSearch

/-- The mapping of a declaration, unless it names a type that there is not. -/
def Declaration.mapping? : Declaration → Option FieldMapping
  | .given mapping => some mapping
  | .named (.str typeName) => (FieldType.ofName? typeName).map (⟨·, none⟩)
  | .named _ => none

namespace Schema

variable {declarations : List (Text × Declaration)}

/-- A declaration gives the mapping that it stands for. -/
theorem toMapping_eq_ok_iff {declaration : Declaration} {name : Text} {mapping : FieldMapping} :
    declaration.toMapping name = .ok mapping ↔ declaration.mapping? = some mapping := by
  cases declaration with
  | given mapping => simp [Declaration.toMapping, Declaration.mapping?]
  | named value =>
    cases value with
    | str typeName =>
      cases found : FieldType.ofName? typeName <;>
        simp [Declaration.toMapping, Declaration.mapping?, found]
    | _ => simp [Declaration.toMapping, Declaration.mapping?]

/-- Named values under their names in lower case. -/
def lowered {α : Type} (pairs : List (Text × α)) : List (Text × α) :=
  pairs.map fun entry => (Text.lower entry.1, entry.2)

/-- Names that were put in lower case are in lower case. -/
theorem lower_of_mem_names_lowered {α : Type} {pairs : List (Text × α)} {name : Text}
    (member : name ∈ Entries.names (lowered pairs)) : Text.lower name = name := by
  obtain ⟨original, _, rfl⟩ := Entries.mem_names_renamed.mp member
  exact Text.lower_lower original

/-- Names in lower case are not changed by being put in lower case again. -/
theorem lowered_eq_self {α : Type} {pairs : List (Text × α)}
    (lower : ∀ name ∈ Entries.names pairs, Text.lower name = name) : lowered pairs = pairs :=
  Entries.renamed_eq_self lower

/-- The mappings of declared fields under their names in lower case. -/
def mappings (declarations : List (Text × Declaration)) : List (Text × FieldMapping) :=
  (lowered declarations).filterMap fun entry => entry.2.mapping?.map (entry.1, ·)

/-- The last declaration of a field, whatever the case of its name. -/
def lastDeclared? (declarations : List (Text × Declaration)) (field : Text) : Option Declaration :=
  (declarations.findRev? fun entry => Text.lower entry.1 = Text.lower field).map (·.2)

/-- The last declaration of a field is found from the back under its name in lower case. -/
theorem lastDeclared?_eq (declarations : List (Text × Declaration)) (field : Text) :
    lastDeclared? declarations field =
      Entries.find? (lowered declarations).reverse (Text.lower field) := by
  rw [lastDeclared?, List.findRev?_eq_find?_reverse, lowered, ← List.map_reverse]
  induction declarations.reverse with
  | nil => rfl
  | cons entry rest ih =>
    by_cases same : Text.lower entry.1 = Text.lower field
    · simp [Entries.find?, same]
    · simpa [Entries.find?, same] using ih

/-! ## Collecting -/

/-- Puts the mapping of a declaration under the name in lower case. -/
def addDeclared (fields : Entries FieldMapping) :
    Text × Declaration → Except SearchError (Entries FieldMapping) := fun (name, declaration) => do
  let mapping ← declaration.toMapping name
  return fields.put (Text.lower name) mapping

/-- A declaration is collected when it has a mapping, which is put under its name in lower case. -/
theorem addDeclared_eq_ok_iff {start fields : Entries FieldMapping} {entry : Text × Declaration} :
    addDeclared start entry = .ok fields ↔
      ∃ mapping, entry.2.mapping? = some mapping ∧
        start.put (Text.lower entry.1) mapping = fields := by
  simp only [addDeclared, bind_eq_ok_iff, toMapping_eq_ok_iff, pure, Except.pure, Except.ok.injEq]

/-- A declaration with a mapping adds it in front of those of the others. -/
theorem mappings_cons {entry : Text × Declaration} {mapping : FieldMapping}
    (mapped : entry.2.mapping? = some mapping) (rest : List (Text × Declaration)) :
    mappings (entry :: rest) = (Text.lower entry.1, mapping) :: mappings rest := by
  simp only [mappings, lowered, List.map_cons, List.filterMap_cons, mapped, Option.map_some]

/-- If all declarations have mappings, these are under the declared names in lower case. -/
theorem names_mappings (total : ∀ entry ∈ declarations, entry.2.mapping?.isSome) :
    Entries.names (mappings declarations) = Entries.names (lowered declarations) := by
  induction declarations with
  | nil => rfl
  | cons entry rest ih =>
    obtain ⟨present, others⟩ := List.forall_mem_cons.mp total
    obtain ⟨mapping, mapped⟩ := Option.isSome_iff_exists.mp present
    rw [mappings_cons mapped]
    exact congrArg (Text.lower entry.1 :: ·) (ih others)

/-- Declarations are collected over others when each has a mapping, one put after the other. -/
theorem foldlM_addDeclared_eq_ok_iff {start fields : Entries FieldMapping} :
    declarations.foldlM addDeclared start = .ok fields ↔
      (∀ entry ∈ declarations, entry.2.mapping?.isSome) ∧
        start.putAll (mappings declarations) = fields := by
  induction declarations generalizing start with
  | nil => simp [pure, Except.pure, mappings, lowered, Entries.putAll]
  | cons entry rest ih =>
    rw [List.foldlM_cons, bind_eq_ok_iff, List.forall_mem_cons]
    constructor
    · rintro ⟨next, added, later⟩
      obtain ⟨mapping, mapped, rfl⟩ := addDeclared_eq_ok_iff.mp added
      obtain ⟨others, same⟩ := ih.mp later
      refine ⟨⟨by rw [mapped, Option.isSome_some], others⟩, ?_⟩
      rw [mappings_cons mapped]
      exact same
    · rintro ⟨⟨total, others⟩, same⟩
      obtain ⟨mapping, mapped⟩ := Option.isSome_iff_exists.mp total
      rw [mappings_cons mapped] at same
      exact ⟨_, addDeclared_eq_ok_iff.mpr ⟨mapping, mapped, rfl⟩, ih.mpr ⟨others, same⟩⟩

/-- Fields are collected when every declaration has a mapping, and are then the mappings put one
after the other. -/
theorem collectFields_eq_ok_iff {fields : Entries FieldMapping} :
    collectFields declarations = .ok fields ↔
      (∀ entry ∈ declarations, entry.2.mapping?.isSome) ∧
        Entries.ofList (mappings declarations) = fields :=
  foldlM_addDeclared_eq_ok_iff

/-- The mapping collected for a field is that of its last declaration. -/
theorem find?_ofList_mappings (total : ∀ entry ∈ declarations, entry.2.mapping?.isSome)
    (field : Text) :
    (Entries.ofList (mappings declarations)).find? (Text.lower field) =
      (lastDeclared? declarations field).bind Declaration.mapping? := by
  rw [Entries.find?_ofList, mappings, ← List.filterMap_reverse, lastDeclared?_eq]
  apply Entries.find?_filterMap
  intro entry member
  obtain ⟨declared, given, rfl⟩ := List.mem_map.mp (List.mem_reverse.mp member)
  exact total declared given

end Schema

end FieldSearch
