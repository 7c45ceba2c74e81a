import FieldSearch.Failure

/-!
# Answers and failures

Steps one after the other fail with the failure of the first step that fails. An operation ends in
order when it gives an answer or one of the reports that it is known for, and not with any other
failure; operations put together from orderly ones are orderly.
-/

namespace FieldSearch

/-- An answer that can be taken out was there. -/
theorem ok_of_toOption {α ε : Type} {result : Except ε α} {value : α}
    (found : result.toOption = some value) : result = .ok value := by
  cases result with
  | ok given =>
    cases found
    rfl
  | error failure => cases found

/-- Two steps pass when the first does and the second does with its answer. -/
theorem bind_eq_ok_iff {α β ε : Type} {first : Except ε α} {next : α → Except ε β} {result : β} :
    (first >>= next) = .ok result ↔ ∃ value, first = .ok value ∧ next value = .ok result := by
  cases first with
  | ok value => exact ⟨fun passed => ⟨value, rfl, passed⟩, by rintro ⟨_, ⟨⟩, passed⟩; exact passed⟩
  | error failure => exact ⟨nofun, nofun⟩

/-- A changed result is an answer when the result is. -/
theorem map_eq_ok_iff {α β ε : Type} {f : α → β} {result : Except ε α} {value : β} :
    result.map f = .ok value ↔ ∃ given, result = .ok given ∧ f given = value := by
  cases result <;> simp [Except.map]

/-- What follows a step may be changed in its answer. -/
theorem bind_eq_map_bind {α β γ ε : Type} {first : Except ε α} {next : α → Except ε γ}
    {other : α → Except ε β} {f : β → γ} (same : ∀ value, next value = (other value).map f) :
    (first >>= next) = (first >>= other).map f := by
  cases first with
  | ok value => exact same value
  | error failure => rfl

/-- A computation fails exactly when it has no answer. -/
theorem exists_eq_error_iff {α ε : Type} {result : Except ε α} :
    (∃ failure, result = .error failure) ↔ ¬∃ value, result = .ok value := by
  cases result <;> simp

/-- Steps fail when one of them does after those before it have passed. -/
theorem foldlM_eq_error_iff {α β ε : Type} {f : β → α → Except ε β} {items : List α} {start : β}
    {failure : ε} :
    items.foldlM f start = .error failure ↔ ∃ earlier item later state,
      items = earlier ++ item :: later ∧ earlier.foldlM f start = .ok state ∧
        f state item = .error failure := by
  constructor
  · -- By induction on the items, for every start: the first step fails or gives the next start.
    intro ended
    induction items generalizing start with
    | nil => cases ended
    | cons first rest ih =>
      rw [List.foldlM_cons] at ended
      cases stepped : f start first with
      | error fault =>
        rw [stepped] at ended
        cases ended
        exact ⟨[], first, rest, start, rfl, rfl, stepped⟩
      | ok next =>
        rw [stepped] at ended
        obtain ⟨earlier, item, later, state, rfl, passed, failed⟩ := ih ended
        refine ⟨first :: earlier, item, later, state, rfl, ?_, failed⟩
        rw [List.foldlM_cons, stepped]
        exact passed
  · rintro ⟨earlier, item, later, state, rfl, passed, failed⟩
    rw [List.foldlM_append, passed]
    change (item :: later).foldlM f state = _
    rw [List.foldlM_cons, failed]
    rfl

/-! ## Orderly ends -/

/-- A computation ends in order: with an answer that holds what is asked of it, or with a known
report. -/
inductive EndsInOrder {α : Type} (known : SearchError → Prop) (holds : α → Prop) :
    Except Failure α → Prop
  | answer (value : α) (held : holds value) : EndsInOrder known holds (.ok value)
  | report (report : SearchError) (reported : known report) :
    EndsInOrder known holds (.error (.reported report))

namespace EndsInOrder

variable {α β : Type} {known : SearchError → Prop}

/-- What ends in order with more asked of the answer does so with less. -/
theorem mono {first holds : α → Prop} {result : Except Failure α}
    (ends : EndsInOrder known first result) (stronger : ∀ value, first value → holds value) :
    EndsInOrder known holds result := by
  cases ends with
  | answer value held => exact .answer value (stronger value held)
  | report report reported => exact .report report reported

/-- A change of the answer keeps the order. -/
theorem map {holds : β → Prop} {f : α → β} {result : Except Failure α}
    (ends : EndsInOrder known (fun value => holds (f value)) result) :
    EndsInOrder known holds (result.map f) := by
  cases ends with
  | answer value held => exact .answer (f value) held
  | report report reported => exact .report report reported

/-- Orderly steps one after the other end in order. -/
theorem bind {first : α → Prop} {holds : β → Prop} {result : Except Failure α}
    {next : α → Except Failure β} (ends : EndsInOrder known first result)
    (later : ∀ value, first value → EndsInOrder known holds (next value)) :
    EndsInOrder known holds (result >>= next) := by
  cases ends with
  | answer value held => exact later value held
  | report report reported => exact .report report reported

/-- Orderly steps for each item of a list end in order. -/
theorem mapM {f : α → Except Failure β} {values : List α}
    (each : ∀ value ∈ values, EndsInOrder known (fun _ => True) (f value)) :
    EndsInOrder known (fun _ => True) (values.mapM f) := by
  induction values with
  | nil => exact .answer [] trivial
  | cons value rest ih =>
    rw [List.mapM_cons]
    have others := ih fun later member => each later (List.mem_cons_of_mem value member)
    refine (each value List.mem_cons_self).bind fun result _ => ?_
    exact others.bind fun results _ => .answer (result :: results) trivial

/-- An operation that fails with known reports only ends in order as part of another. -/
theorem of_mapError {result : Except SearchError α}
    (reports : ∀ report, result = .error report → known report) :
    EndsInOrder known (fun _ => True) (result.mapError .reported) := by
  cases result with
  | ok value => exact .answer value trivial
  | error report => exact .report report (reports report rfl)

/-- What ends in order does not fail with an integer of too many digits. -/
theorem ne_longInteger {holds : α → Prop} {result : Except Failure α}
    (ends : EndsInOrder known holds result) (digits : Nat) :
    result ≠ .error (.longInteger digits) := by
  cases ends with
  | answer value held => exact nofun
  | report report reported => exact nofun

end EndsInOrder

end FieldSearch
