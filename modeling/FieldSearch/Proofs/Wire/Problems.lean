import FieldSearch.Proofs.Wire.Checked
import Mathlib.Data.List.Forall2

/-!
# The problems of readings

A reading made of parts has the problems of its parts, in order. It is refused for a reason when
all its parts are, and two readings whose parts come out alike come out alike themselves.
-/

namespace FieldSearch.Wire

namespace Checked

variable {α β : Type}

/-! ## Problems of parts -/

/-- Under a segment the problems are found one segment further down. -/
theorem problems_under (segment : Segment) (reading : Checked α) :
    (reading.under segment).problems = reading.problems.map (Problem.under segment) := by
  cases reading <;> rfl

/-- Collected readings have all problems of the readings, in their order. -/
theorem problems_collect (readings : List (Checked α)) :
    (collect readings).problems = readings.flatMap problems := by
  induction readings with
  | nil => rfl
  | cons reading rest ih =>
    rw [collect, problems_seq, problems_map, ih, List.flatMap_cons]

/-! ## Reasons -/

/-- A reading without problems is accepted. -/
def Reasoned (reading : Checked α) : Prop :=
  reading.problems = [] → ∃ value, reading = .accepted value

/-- A changed reading without problems is accepted, if the reading is. -/
theorem reasoned_map {f : α → β} {reading : Checked α} (reasoned : reading.Reasoned) :
    (f <$> reading).Reasoned := by
  intro none
  rw [problems_map] at none
  obtain ⟨value, rfl⟩ := reasoned none
  exact ⟨f value, rfl⟩

/-- Two readings without problems are accepted together, if each is by itself. -/
theorem reasoned_seq {first : Checked (α → β)} {next : Checked α} (reasoned : first.Reasoned)
    (reasonedToo : next.Reasoned) : (first <*> next).Reasoned := by
  intro none
  rw [problems_seq, List.append_eq_nil_iff] at none
  obtain ⟨f, rfl⟩ := reasoned none.1
  obtain ⟨value, rfl⟩ := reasonedToo none.2
  exact ⟨f value, rfl⟩

/-- Under a segment a reading without problems is still accepted. -/
theorem reasoned_under {segment : Segment} {reading : Checked α} (reasoned : reading.Reasoned) :
    (reading.under segment).Reasoned := by
  intro none
  rw [problems_under, List.map_eq_nil_iff] at none
  obtain ⟨value, rfl⟩ := reasoned none
  exact ⟨value, rfl⟩

/-- Collected readings without problems are accepted, if each is by itself. -/
theorem reasoned_collect {readings : List (Checked α)}
    (reasoned : ∀ reading ∈ readings, reading.Reasoned) : (collect readings).Reasoned := by
  induction readings with
  | nil => exact fun _ => ⟨[], rfl⟩
  | cons reading rest ih =>
    obtain ⟨own, others⟩ := List.forall_mem_cons.mp reasoned
    exact reasoned_seq (reasoned_map own) (ih others)

/-- A single value is accepted, or refused for one reason. -/
inductive OfSingle : Checked α → Prop
  | accepted (value : α) : OfSingle (.accepted value)
  | refused (mismatch : Mismatch) : OfSingle (.refuse mismatch)

namespace OfSingle

variable {reading : Checked α}

/-- A changed reading of a single value is one of a single value. -/
theorem map {f : α → β} (single : reading.OfSingle) : (f <$> reading).OfSingle := by
  cases single with
  | accepted value => exact .accepted (f value)
  | refused mismatch => exact .refused mismatch

/-- A single value without problems is accepted. -/
theorem reasoned (single : reading.OfSingle) : reading.Reasoned := by
  cases single with
  | accepted value => exact fun _ => ⟨value, rfl⟩
  | refused mismatch => exact nofun

/-- Of at most one problem, any two are in any order. -/
theorem pairwise (single : reading.OfSingle) (R : Problem → Problem → Prop) :
    reading.problems.Pairwise R := by
  cases single with
  | accepted value => exact .nil
  | refused mismatch => exact List.pairwise_singleton R _

/-- A problem of a single value is the reason for which it is refused. -/
theorem mem_problems_iff (single : reading.OfSingle) {problem : Problem} :
    problem ∈ reading.problems ↔
      ∃ mismatch, reading = .refuse mismatch ∧ problem = ⟨[], mismatch⟩ := by
  cases single with
  | accepted value => exact ⟨nofun, nofun⟩
  | refused mismatch =>
    constructor
    · intro member
      exact ⟨mismatch, rfl, List.mem_singleton.mp member⟩
    · rintro ⟨_, ⟨⟩, rfl⟩
      exact List.mem_singleton_self _

end OfSingle

/-! ## Readings that come out alike -/

/-- Two readings accept one value, or have problems that correspond one by one. -/
inductive Alike (same : Problem → Problem → Prop) : Checked α → Checked α → Prop
  | accepted (value : α) : Alike same (.accepted value) (.accepted value)
  | rejected {problems others : List Problem} (each : List.Forall₂ same problems others) :
    Alike same (.rejected problems) (.rejected others)

namespace Alike

variable {same : Problem → Problem → Prop}

/-- Readings that are alike stay so when they are changed. -/
theorem map {f : α → β} {first second : Checked α} (alike : Alike same first second) :
    Alike same (f <$> first) (f <$> second) := by
  cases alike with
  | accepted value => exact .accepted (f value)
  | rejected each => exact .rejected each

/-- Readings that are alike are alike together. -/
theorem seq {first second : Checked (α → β)} {next other : Checked α}
    (alike : Alike same first second) (alikeToo : Alike same next other) :
    Alike same (first <*> next) (second <*> other) := by
  cases alike with
  | accepted f =>
    cases alikeToo with
    | accepted value => exact .accepted (f value)
    | rejected each => exact .rejected each
  | rejected each =>
    cases alikeToo with
    | accepted value => exact .rejected each
    | rejected further => exact .rejected (List.rel_append each further)

/-- One reading, seen from two places, comes out alike when problems at the two correspond. -/
theorem under {key other : Segment}
    (problems : ∀ problem, same (Problem.under key problem) (Problem.under other problem))
    (reading : Checked α) : Alike same (reading.under key) (reading.under other) := by
  cases reading with
  | accepted value => exact .accepted value
  | rejected found =>
    refine .rejected ?_
    rw [List.forall₂_map_left_iff, List.forall₂_map_right_iff, List.forall₂_same]
    exact fun problem _ => problems problem

end Alike

end Checked

end FieldSearch.Wire
