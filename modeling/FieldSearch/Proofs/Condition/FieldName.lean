import FieldSearch.Proofs.Condition.Reading

/-!
# The field that a document names

A document that names a field gives a condition on that field in lower case. Documents that differ
in the case of the field's name only give the same conditions, or the same problems.
-/

namespace FieldSearch

open Wire (Checked Parameter)

namespace Condition

/-- A document with the given name of the field among its members. -/
def withField (members : Entries Json) (field : Text) : Json :=
  .obj (members.put fieldParameter.name (.str field))

/-- Naming a field leaves the other parameters as they are given. -/
theorem find?_put_fieldParameter {parameter : Parameter} (members : Entries Json) (field : Text)
    (name : parameter.name ≠ fieldParameter.name)
    (spelling : parameter.spelling ≠ fieldParameter.name) :
    parameter.find? (members.put fieldParameter.name (.str field)) = parameter.find? members := by
  rw [Parameter.find?, Parameter.find?, Entries.find?_put, Entries.find?_put,
    if_neg (Ne.symm name), if_neg (Ne.symm spelling)]

/-- A field that is named is read in lower case. -/
theorem readField_put (members : Entries Json) (field : Text) :
    readField (members.put fieldParameter.name (.str field)) =
      .accepted (some (Text.lower field)) := by
  have found : fieldParameter.find? (members.put fieldParameter.name (.str field)) =
      some (fieldParameter.spelling, .str field) := by
    rw [Parameter.find?, Entries.find?_put]
    rfl
  rw [readField, Parameter.read, found]
  rfl

/-- The other parameters are read as if the document did not name a field. -/
theorem readPredicate_put (kind : Kind) (members : Entries Json) (field : Text) :
    readPredicate kind (members.put fieldParameter.name (.str field)) =
      readPredicate kind members := by
  cases kind <;>
    simp (disch := decide) only [readPredicate, readFuzzy, readPhrase, readValue, readInteger,
      Parameter.read, find?_put_fieldParameter]

/-- Naming a field leaves the boost as it is read. -/
theorem readBoost_put (members : Entries Json) (field : Text) :
    readBoost (members.put fieldParameter.name (.str field)) = readBoost members := by
  simp (disch := decide) only [readBoost, Parameter.read, find?_put_fieldParameter]

/-- Naming a field only changes the field of the condition that is read. -/
theorem readOfKind_put (kind : Kind) (members : Entries Json) (field : Text) :
    readOfKind kind (members.put fieldParameter.name (.str field)) =
      Condition.mk <$> readBoost members <*> .accepted (some (Text.lower field)) <*>
        readPredicate kind members := by
  rw [readOfKind, readBoost_put, readField_put, readPredicate_put]

/-- Naming a field leaves the kind of a document as it is. -/
theorem documentKind_put (members : Entries Json) (field : Text) :
    documentKind (members.put fieldParameter.name (.str field)) = documentKind members := by
  have other : fieldParameter.name ≠ typeParameter.spelling := by decide
  rw [documentKind, documentKind, documentTag, documentTag, Entries.find?_put, if_neg other]

/-! ## The case of the name -/

section Case

variable {members : Entries Json} {first second : Text}
  (same : Text.lower first = Text.lower second)

include same

/-- Names with one lower case give the same condition or the same report. -/
theorem ofDocument_withField_congr :
    ofDocument (withField members first) = ofDocument (withField members second) := by
  simp only [ofDocument, withField, documentKind_put, readOfKind_put, same]

/-- Names with one lower case are read alike into every class. -/
theorem readClass_withField_congr (kind : Option Kind) :
    readClass kind (withField members first) = readClass kind (withField members second) := by
  cases kind with
  | none =>
    simp (disch := decide) only [readClass, withField, readPlain, Parameter.require,
      find?_put_fieldParameter, readBoost_put, readField_put, same]
  | some kind =>
    simp (disch := decide) only [readClass, withField, readTagged, Parameter.read,
      find?_put_fieldParameter, readOfKind_put, same]

end Case

/-! ## Conditions that name a field -/

/-- A document describes a condition: by its type tag, or as one of a given class. -/
inductive DescribedBy (document : Json) (condition : Condition) : Prop
  | tagged (read : ofDocument document = .ok condition)
  | ofClass (kind : Option Kind) (read : readClass kind document = .accepted condition)

/-- The field that is read is the named one in lower case. -/
theorem field_eq_of_readField_put {members : Entries Json} {name : Text} {field : Option Text}
    (read : readField (members.put fieldParameter.name (.str name)) = .accepted field) :
    field = some (Text.lower name) := by
  rw [readField_put] at read
  exact (Checked.accepted.inj read).symm

/-- The field of a condition that is read is the named one in lower case. -/
theorem field_eq_of_readOfKind_put {kind : Kind} {members : Entries Json} {name : Text}
    {condition : Condition}
    (read : readOfKind kind (members.put fieldParameter.name (.str name)) = .accepted condition) :
    condition.field = some (Text.lower name) :=
  field_eq_of_readField_put (readOfKind_eq_accepted_iff.mp read).2.1

/-- A condition that names a field is on that field in lower case. -/
theorem DescribedBy.field_eq {members : Entries Json} {name : Text} {condition : Condition}
    (described : DescribedBy (withField members name) condition) :
    condition.field = some (Text.lower name) := by
  cases described with
  | tagged read =>
    obtain ⟨_, kind, ⟨⟩, _, read⟩ := ofDocument_eq_ok_iff.mp read
    exact field_eq_of_readOfKind_put read
  | ofClass kind read =>
    cases kind with
    | some kind =>
      obtain ⟨_, _, tagRead, ownRead, rfl⟩ := Checked.seq_eq_accepted_iff.mp read
      obtain ⟨_, _, rfl⟩ := Checked.map_eq_accepted_iff.mp tagRead
      exact field_eq_of_readOfKind_put ownRead
    | none =>
      obtain ⟨_, _, earlierRead, fieldRead, rfl⟩ := Checked.seq_eq_accepted_iff.mp read
      obtain ⟨_, _, tagRead, _, rfl⟩ := Checked.seq_eq_accepted_iff.mp earlierRead
      obtain ⟨_, _, rfl⟩ := Checked.map_eq_accepted_iff.mp tagRead
      exact field_eq_of_readField_put fieldRead

end Condition

end FieldSearch
