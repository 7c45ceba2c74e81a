import FieldSearch.Compilation.Registry
import FieldSearch.Proofs.Text.Blank

/-!
# Requirements of compilation

What a condition has to meet to be compiled is written down as a list of requirements, each with
the report of a condition that does not meet it. A computation under requirements ends with the
report of the first one that is not met, and with its own answer when all are met. Every check of a
compiler is such a computation, and checks one after the other are one under all their
requirements in order.
-/

namespace FieldSearch

/-- A requirement, and the report when it is not met. -/
structure Requirement where
  met : Prop
  [decidable : Decidable met]
  report : SearchError

attribute [instance] Requirement.decidable

/-- The answer of a computation under requirements: the report of the first that is not met, or
else the computation's own answer. -/
def outcome {α : Type} (requirements : List Requirement) (answer : Except Failure α) :
    Except Failure α :=
  match requirements.find? (fun requirement => ¬requirement.met) with
  | some unmet => .error (.reported unmet.report)
  | none => answer

section Outcome

variable {α β : Type}

theorem outcome_nil (answer : Except Failure α) : outcome [] answer = answer :=
  rfl

/-- The first requirement is reported if it is not met, and otherwise the others decide. -/
theorem outcome_cons (requirement : Requirement) (rest : List Requirement)
    (answer : Except Failure α) :
    outcome (requirement :: rest) answer =
      if requirement.met then outcome rest answer else .error (.reported requirement.report) := by
  by_cases met : requirement.met <;> simp [outcome, met]

/-- Requirements after others count when the others are met. -/
theorem outcome_append (first next : List Requirement) (answer : Except Failure α) :
    outcome (first ++ next) answer = outcome first (outcome next answer) := by
  induction first with
  | nil => rfl
  | cons requirement rest ih => rw [List.cons_append, outcome_cons, outcome_cons, ih]

/-- What follows an answer does not matter to the requirements before it. -/
theorem outcome_bind (requirements : List Requirement) (answer : Except Failure α)
    (next : α → Except Failure β) :
    (outcome requirements answer >>= next) = outcome requirements (answer >>= next) := by
  induction requirements with
  | nil => rfl
  | cons requirement rest ih =>
    rw [outcome_cons, outcome_cons]
    split
    · exact ih
    · rfl

/-- A step that gives a value passes it on if the requirements are met. -/
theorem outcome_ok_bind (requirements : List Requirement) (value : α)
    (next : α → Except Failure β) :
    (outcome requirements (.ok value) >>= next) = outcome requirements (next value) :=
  outcome_bind requirements (.ok value) next

/-- A computation under requirements ends with the report of one of them or with its own answer. -/
theorem outcome_eq (requirements : List Requirement) (answer : Except Failure α) :
    outcome requirements answer = answer ∨
      ∃ unmet ∈ requirements, outcome requirements answer = .error (.reported unmet.report) := by
  cases found : requirements.find? (fun requirement => ¬requirement.met) with
  | none => exact Or.inl (by rw [outcome, found])
  | some unmet =>
    exact Or.inr ⟨unmet, List.mem_of_find?_eq_some found, by rw [outcome, found]⟩

/-- A computation under requirements has no answer but its own. -/
theorem eq_ok_of_outcome {requirements : List Requirement} {answer : Except Failure α} {value : α}
    (passed : outcome requirements answer = .ok value) : answer = .ok value := by
  rcases outcome_eq requirements answer with same | ⟨_, _, failed⟩
  · rwa [same] at passed
  · cases failed.symm.trans passed

end Outcome

/-! ## Types of fields -/

/-- The type that an answer about a field stands for. A field of which nothing is known is a
text, and a type may be given by its name. -/
inductive TypeAnswer.Denotes : TypeAnswer → FieldType → Prop
  | unknown : Denotes .unknown .text
  | declared (fieldType : FieldType) : Denotes (.declared fieldType) fieldType
  | named (fieldType : FieldType) : Denotes (.named (.str fieldType.name)) fieldType

/-- An answer that denotes a type gives that type. -/
theorem TypeAnswer.Denotes.fieldType_eq {answer : TypeAnswer} {fieldType : FieldType}
    (denotes : answer.Denotes fieldType) : answer.fieldType = .ok fieldType := by
  cases denotes with
  | unknown => rfl
  | declared => rfl
  | named => simp only [TypeAnswer.fieldType, FieldType.ofName?_name]

/-! ## Single requirements -/

namespace Requirement

/-- A text that is there and not blank. -/
def Present (text : Option Text) : Prop :=
  ∃ given ∈ text, ¬∀ point ∈ given, Text.IsBlankPoint point

instance (text : Option Text) : Decidable (Present text) :=
  inferInstanceAs (Decidable (∃ given ∈ text, _))

/-- The field is there and not blank. -/
def field (field : Option Text) : Requirement where
  met := Present field
  report := .missingField (.str "Field name required")

/-- The value is there and not blank. -/
def value (value : Option Text) : Requirement where
  met := Present value
  report := .missingValue (.str "Field value required") (.str "value")

/-- The values are there; a list without values counts. -/
def values (values : Option (List (Option Text))) : Requirement where
  met := values.isSome
  report := .missingValue (.str "Field values required") (.str "values")

/-- A number lies within bounds. -/
def number (name : Text) (number : Int) (within : Int → Prop) [DecidablePred within]
    (message constraint : Text) : Requirement where
  met := within number
  report := .outOfRange (.str message) (.str name) (.int number) (.str constraint)

/-- The field is a sequence of characters: a string or a text. -/
def characters (kind : Kind) (field : Text) (fieldType : FieldType) : Requirement where
  met := fieldType = .string ∨ fieldType = .text
  report := .unsupportedFieldType (.str (Compiler.unsupported kind field fieldType)) (.str field)
    (.str fieldType.name) (.str kind.name)

/-- The numbers of a fuzzy predicate are in their ranges. -/
def numbers (predicate : FuzzyPredicate) : List Requirement :=
  [number "max_edits" predicate.maxEdits (fun n => 0 ≤ n ∧ n ≤ 2)
     "max_edits must be between 0 and 2" "0 <= max_edits <= 2",
   number "prefix_length" predicate.prefixLength (fun n => 0 ≤ n)
     "prefix_length must be positive." "prefix_length >= 0",
   number "max_expansions" predicate.maxExpansions (fun n => 0 ≤ n)
     "max_expansions must be positive." "max_expansions >= 0"]

/-- The slop of a phrase is not negative. -/
def slop (slop : Int) : Requirement :=
  number "slop" slop (fun n => 0 ≤ n) "Slop must be positive" "slop >= 0"

end Requirement

/-! ## Checks -/

namespace Compiler

open Requirement (Present)

theorem present_none : ¬Present none := by
  rintro ⟨_, given, _⟩
  cases given

/-- A text is present unless it is blank. -/
theorem present_some_iff (text : Text) : Present (some text) ↔ Text.isBlank text = false := by
  simp only [Present, Option.mem_def, Option.some.injEq, exists_eq_left', ← Text.isBlank_iff,
    Bool.not_eq_true]

/-- The check of the field is its requirement. -/
theorem requireField_eq (field : Option Text) :
    requireField field = outcome [.field field] (.ok (field.getD [])) := by
  rw [outcome_cons, outcome_nil]
  cases field with
  | none => exact (if_neg present_none).symm
  | some text =>
    simp only [requireField, Requirement.field, present_some_iff]
    cases text.isBlank <;> rfl

/-- The check of the value is its requirement. -/
theorem requireValue_eq (value : Option Text) :
    requireValue value = outcome [.value value] (.ok (value.getD [])) := by
  rw [outcome_cons, outcome_nil]
  cases value with
  | none => exact (if_neg present_none).symm
  | some text =>
    simp only [requireValue, Requirement.value, present_some_iff]
    cases text.isBlank <;> rfl

/-- The check of the values is their requirement. -/
theorem requireValues_eq (values : Option (List (Option Text))) :
    requireValues values = outcome [.values values] (.ok (values.getD [])) := by
  cases values <;> rfl

/-- A number is checked against its bounds. -/
theorem outcome_number {α : Type} (name : Text) (n : Int) (within : Int → Prop)
    [DecidablePred within] (message constraint : Text) (rest : List Requirement)
    (answer : Except Failure α) :
    outcome (.number name n within message constraint :: rest) answer =
      if within n then outcome rest answer
      else .error (.reported
        (.outOfRange (.str message) (.str name) (.int n) (.str constraint))) := by
  rw [outcome_cons]
  rfl

/-- The checks of the numbers are their requirements, in order. -/
theorem checkFuzzy_eq (predicate : FuzzyPredicate) :
    checkFuzzy predicate = outcome (Requirement.numbers predicate) (.ok ()) := by
  rw [Requirement.numbers, outcome_number, outcome_number, outcome_number, outcome_nil]
  have edits : (0 ≤ predicate.maxEdits ∧ predicate.maxEdits ≤ 2) ↔
      ¬(predicate.maxEdits < 0 ∨ Condition.maxDistance < predicate.maxEdits) := by
    simp only [Condition.maxDistance]
    omega
  simp only [checkFuzzy, edits, ite_not]
  simp only [← Int.not_lt, ite_not]
  rfl

/-- The check of the slop is its requirement. -/
theorem checkSlop_eq (slop : Int) : checkSlop slop = outcome [.slop slop] (.ok ()) := by
  rw [Requirement.slop, outcome_number, outcome_nil]
  simp only [checkSlop, ← Int.not_lt, ite_not]
  rfl

/-- Two types are of sequences of characters. -/
theorem isCharSequence_iff (fieldType : FieldType) :
    fieldType.isCharSequence = true ↔ fieldType = .string ∨ fieldType = .text := by
  cases fieldType <;> decide

/-- The type of a field is checked when the resolver's answer stands for it. -/
theorem checkFieldType_eq {resolver : TypeResolver} {field : Text} {fieldType : FieldType}
    (denotes : (resolver field).Denotes fieldType) (kind : Kind) :
    checkFieldType kind kind resolver field =
      outcome [.characters kind field fieldType] (.ok ()) := by
  rw [checkFieldType, denotes.fieldType_eq, outcome_cons, outcome_nil]
  simp only [Requirement.characters, ← isCharSequence_iff]
  rfl

end Compiler

end FieldSearch
