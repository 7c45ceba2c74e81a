import FieldSearch.Wire.Problem

/-!
# When readings are accepted

A reading made of parts is accepted exactly when all its parts are.
-/

namespace FieldSearch.Wire.Checked

variable {α β : Type}

/-- A changed reading is accepted when the reading is. -/
theorem map_eq_accepted_iff {f : α → β} {reading : Checked α} {result : β} :
    f <$> reading = .accepted result ↔ ∃ value, reading = .accepted value ∧ f value = result := by
  cases reading with
  | accepted value =>
    change accepted (f value) = accepted result ↔ _
    simp
  | rejected problems =>
    change rejected problems = accepted result ↔ _
    simp

/-- Two readings are accepted together when both are. -/
theorem seq_eq_accepted_iff {first : Checked (α → β)} {next : Checked α} {result : β} :
    first <*> next = .accepted result ↔
      ∃ f value, first = .accepted f ∧ next = .accepted value ∧ f value = result := by
  change first.apply next = _ ↔ _
  cases first <;> cases next <;> simp [apply]

@[simp] theorem map_accepted (f : α → β) (value : α) :
    f <$> accepted value = accepted (f value) :=
  rfl

@[simp] theorem map_rejected (f : α → β) (problems : List Problem) :
    f <$> (rejected problems : Checked α) = rejected problems :=
  rfl

@[simp] theorem accepted_seq_accepted (f : α → β) (value : α) :
    accepted f <*> accepted value = accepted (f value) :=
  rfl

/-- Where a value stands does not matter to whether it is accepted. -/
theorem under_eq_accepted_iff {segment : Segment} {reading : Checked α} {value : α} :
    reading.under segment = .accepted value ↔ reading = .accepted value := by
  cases reading <;> simp [under]

/-- Parts that are all accepted are collected. -/
theorem collect_map_accepted (values : List α) :
    collect (values.map accepted) = accepted values := by
  induction values with
  | nil => rfl
  | cons value rest ih => rw [List.map_cons, collect, ih, map_accepted, accepted_seq_accepted]

end FieldSearch.Wire.Checked
