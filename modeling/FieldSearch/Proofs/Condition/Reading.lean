import FieldSearch.Condition.Document
import FieldSearch.Proofs.Failure
import FieldSearch.Proofs.Text.Lowercase
import FieldSearch.Proofs.Wire.Checked

/-!
# What is read from a document

A condition that a document describes has the kind that the document's type tag names, and its
field is in lower case.
-/

namespace FieldSearch

open Wire (Checked)

/-- The reports of documents that describe no condition. -/
inductive SearchError.OfConditionDocument : SearchError → Prop
  | malformed (message path : Json) (suggestions : List Text) :
    OfConditionDocument (.malformed message path suggestions)

namespace Condition

/-- A condition that matches by itself, on a field in lower case. -/
structure IsNormal (condition : Condition) : Prop where
  kinded : ∃ kind, condition.predicate.kind? = some kind
  lowered : condition.field.map Text.lower = condition.field

/-- What is read for a kind is of that kind. -/
theorem kind?_of_readPredicate {kind : Kind} {members : Entries Json} {predicate : Predicate}
    (read : readPredicate kind members = .accepted predicate) : predicate.kind? = some kind := by
  cases kind with
  | fuzzy =>
    obtain ⟨value, _, rfl⟩ := Checked.map_eq_accepted_iff.mp read
    rfl
  | regexp =>
    obtain ⟨value, _, rfl⟩ := Checked.map_eq_accepted_iff.mp read
    rfl
  | phrase =>
    obtain ⟨value, _, rfl⟩ := Checked.map_eq_accepted_iff.mp read
    rfl

/-- A field is read in lower case. -/
theorem lowered_of_readField {members : Entries Json} {field : Option Text}
    (read : readField members = .accepted field) : field.map Text.lower = field := by
  obtain ⟨given, _, rfl⟩ := Checked.map_eq_accepted_iff.mp read
  cases given with
  | none => rfl
  | some name => simp only [Option.map_some, Text.lower_lower]

/-- The parts of a condition that is read. -/
theorem readOfKind_eq_accepted_iff {kind : Kind} {members : Entries Json} {condition : Condition} :
    readOfKind kind members = .accepted condition ↔
      readBoost members = .accepted condition.boost ∧
      readField members = .accepted condition.field ∧
      readPredicate kind members = .accepted condition.predicate := by
  constructor
  · intro read
    obtain ⟨make, predicate, firstRead, predicateRead, rfl⟩ := Checked.seq_eq_accepted_iff.mp read
    obtain ⟨_, field, makeRead, fieldRead, rfl⟩ := Checked.seq_eq_accepted_iff.mp firstRead
    obtain ⟨boost, boostRead, rfl⟩ := Checked.map_eq_accepted_iff.mp makeRead
    exact ⟨boostRead, fieldRead, predicateRead⟩
  · rintro ⟨boostRead, fieldRead, predicateRead⟩
    rw [readOfKind, boostRead, fieldRead, predicateRead]
    rfl

/-- The tag of a document is its type in lower case, if that is a text and not empty. -/
theorem documentTag_eq_ok_iff {members : Entries Json} {tag : Text} :
    documentTag members = .ok tag ↔ ∃ given, members.find? typeParameter.spelling =
      some (.str given) ∧ given ≠ [] ∧ Text.lower given = tag := by
  rw [documentTag]
  split
  next given found =>
    by_cases empty : given = []
    · simp [found, empty]
    · simp [found, empty]
  next other =>
    constructor
    · exact nofun
    · rintro ⟨given, found, _⟩
      exact absurd found (other given)

/-- A document describes a condition exactly when it is an object with a known type tag whose
members can be read as parameters of the tag's kind. -/
theorem ofDocument_eq_ok_iff {document : Json} {condition : Condition} :
    ofDocument document = .ok condition ↔
      ∃ members kind, document = .obj members ∧ documentKind members = .ok kind ∧
        readOfKind kind members = .accepted condition := by
  cases document with
  | obj members =>
    cases kindRead : documentKind members with
    | error report => simp [ofDocument, kindRead, bind, Except.bind]
    | ok kind =>
      cases read : readOfKind kind members with
      | accepted found => simp [ofDocument, kindRead, read, bind, Except.bind]
      | rejected problems => simp [ofDocument, kindRead, read, bind, Except.bind]
  | _ => simp [ofDocument]

/-- A condition that a document gives has a kind and its field in lower case. -/
theorem isNormal_of_ofDocument {document : Json} {condition : Condition}
    (read : ofDocument document = .ok condition) : condition.IsNormal := by
  obtain ⟨members, kind, _, _, read⟩ := ofDocument_eq_ok_iff.mp read
  obtain ⟨_, fieldRead, predicateRead⟩ := readOfKind_eq_accepted_iff.mp read
  exact ⟨⟨kind, kind?_of_readPredicate predicateRead⟩, lowered_of_readField fieldRead⟩

/-! ## Reports -/

/-- A report of a malformed document in words, with the path of the place in question. -/
inductive Worded : SearchError → (message path : Text) → Prop
  | malformed (message path : Text) (suggestions : List Text) :
    Worded (.malformed (.str message) (.str path) suggestions) message path

/-- The report of a malformed document keeps its path, and its message may be made longer. -/
theorem exists_worded_malformedWith (message path : Text) (given : Option Text)
    (known : List Text) :
    ∃ longer, Worded (.malformedWith (.str message) (.str path) given known) longer path := by
  unfold SearchError.malformedWith
  extract_lets suggestions full
  have worded : ∃ longer, full = .str longer := by
    by_cases none : suggestions.isEmpty
    · exact ⟨message, if_pos none⟩
    · exact ⟨_, if_neg none⟩
  obtain ⟨longer, same⟩ := worded
  rw [same]
  exact ⟨longer, .malformed longer path suggestions⟩

/-- A document without a kind is reported with a message and a path. -/
theorem exists_worded_of_documentKind {members : Entries Json} {report : SearchError}
    (failed : documentKind members = .error report) :
    ∃ message path, Worded report message path := by
  cases tagged : documentTag members with
  | error missing =>
    rw [documentKind, tagged] at failed
    cases failed
    unfold documentTag at tagged
    split at tagged
    · split at tagged
      · cases tagged
        exact ⟨_, _, .malformed _ _ _⟩
      · cases tagged
    · cases tagged
      exact ⟨_, _, .malformed _ _ _⟩
  | ok tag =>
    rw [documentKind, tagged] at failed
    simp only [bind, Except.bind] at failed
    split at failed
    · cases failed
    · cases failed
      obtain ⟨message, worded⟩ := exists_worded_malformedWith _ _ _ _
      exact ⟨message, _, worded⟩

/-- A document with a known type tag is refused for the problems of its parameters. -/
theorem ofDocument_eq_error_iff {kind : Kind} {members : Entries Json} {report : SearchError}
    (tagged : documentKind members = .ok kind) :
    ofDocument (.obj members) = .error report ↔
      ∃ problems, readOfKind kind members = .rejected problems ∧
        invalid kind problems = report := by
  cases read : readOfKind kind members <;> simp [ofDocument, tagged, read, bind, Except.bind]

/-- A document that describes no condition is refused in words. -/
theorem exists_worded_of_ofDocument {document : Json} {report : SearchError}
    (failed : ofDocument document = .error report) :
    ∃ message path, Worded report message path := by
  cases document with
  | obj members =>
    cases kindRead : documentKind members with
    | error unknown =>
      rw [ofDocument, kindRead] at failed
      cases failed
      exact exists_worded_of_documentKind kindRead
    | ok kind =>
      obtain ⟨problems, _, rfl⟩ := (ofDocument_eq_error_iff kindRead).mp failed
      exact ⟨_, _, .malformed _ _ _⟩
  | _ =>
    cases failed
    exact ⟨_, _, .malformed _ _ _⟩

/-- A document is refused with a report of malformed documents only. -/
theorem ofConditionDocument_of_ofDocument {document : Json} {report : SearchError}
    (failed : ofDocument document = .error report) : report.OfConditionDocument := by
  obtain ⟨_, _, ⟨⟩⟩ := exists_worded_of_ofDocument failed
  exact .malformed _ _ _

end Condition

end FieldSearch
