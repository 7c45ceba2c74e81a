import FieldSearch.Text.Runs

/-!
# Runs of a class

A run is not empty, and all its code points are of the class. A text is cut into its runs at the
code points outside of the class: the runs on the two sides of such a code point are found apart
from each other, and a stretch of the class between two of them is a run.
-/

namespace FieldSearch.Text

variable {p : CodePoint → Bool} {text run : Text}

/-- Runs stay nonempty when the first is extended. -/
theorem ne_nil_of_mem_extendFirst {point : CodePoint} {found : List Text}
    (nonempty : ∀ run ∈ found, run ≠ []) (member : run ∈ extendFirst point found) : run ≠ [] := by
  cases found with
  | nil =>
    cases List.mem_singleton.mp member
    exact List.cons_ne_nil _ _
  | cons first others =>
    rcases List.mem_cons.mp member with rfl | later
    · exact List.cons_ne_nil _ _
    · exact nonempty run (List.mem_cons_of_mem _ later)

/-- No run is empty. -/
theorem ne_nil_of_mem_runs (member : run ∈ runs p text) : run ≠ [] := by
  induction text generalizing run with
  | nil => cases member
  | cons point rest ih =>
    rw [runs] at member
    split at member
    · split at member
      · exact ne_nil_of_mem_extendFirst (fun _ => ih) member
      · rcases List.mem_cons.mp member with rfl | later
        · exact List.cons_ne_nil _ _
        · exact ih later
    · exact ih member

/-- The code points of runs are those of the text that are taken. -/
theorem mem_filter_of_mem_runs (member : run ∈ runs p text) {point : CodePoint}
    (inRun : point ∈ run) : point ∈ text.filter p := by
  rw [← flatten_runs]
  exact List.mem_flatten.mpr ⟨run, member, inRun⟩

/-- The code points of runs are code points of the text. -/
theorem mem_of_mem_runs (member : run ∈ runs p text) {point : CodePoint} (inRun : point ∈ run) :
    point ∈ text :=
  (List.mem_filter.mp (mem_filter_of_mem_runs member inRun)).1

/-- All code points of a run are taken. -/
theorem forall_of_mem_runs (member : run ∈ runs p text) : ∀ point ∈ run, p point :=
  fun _ inRun => (List.mem_filter.mp (mem_filter_of_mem_runs member inRun)).2

/-! ## Step by step -/

/-- A code point that is not taken adds no run. -/
theorem runs_cons_of_not {point : CodePoint} (outside : ¬p point) (rest : Text) :
    runs p (point :: rest) = runs p rest := by
  rw [runs, if_neg outside]

/-- A code point that is taken is a run by itself if the next one is not taken. -/
theorem runs_cons_of_boundary {point : CodePoint} {rest : Text} (inside : p point)
    (boundary : ¬rest.head?.any p) : runs p (point :: rest) = [point] :: runs p rest := by
  rw [runs, if_pos inside, if_neg boundary]

/-- A code point that is taken belongs to the run of the next one if that is taken too. -/
theorem runs_cons_cons {point next : CodePoint} (inside : p point) (joined : p next)
    (rest : Text) : runs p (point :: next :: rest) = extendFirst point (runs p (next :: rest)) := by
  rw [runs, if_pos inside]
  exact if_pos joined

/-- A text that begins with a code point that is taken has a run. -/
theorem runs_cons_ne_nil {point : CodePoint} (inside : p point) (rest : Text) :
    runs p (point :: rest) ≠ [] := by
  rw [runs, if_pos inside]
  split
  · cases runs p rest <;> exact List.cons_ne_nil _ _
  · exact List.cons_ne_nil _ _

/-- Extending the first of some runs leaves those after them alone. -/
theorem extendFirst_append (point : CodePoint) {found : List Text} (nonempty : found ≠ [])
    (others : List Text) :
    extendFirst point (found ++ others) = extendFirst point found ++ others := by
  cases found with
  | nil => exact absurd rfl nonempty
  | cons first rest => rfl

/-! ## Cutting a text -/

/-- The runs before and after a code point outside of the class are found apart from each other. -/
theorem runs_append_cons_of_not (first : Text) {point : CodePoint} (outside : ¬p point)
    (rest : Text) : runs p (first ++ point :: rest) = runs p first ++ runs p rest := by
  induction first with
  | nil => exact runs_cons_of_not outside rest
  | cons head tail ih =>
    rw [List.cons_append]
    by_cases inside : p head
    · cases tail with
      | nil =>
        rw [List.nil_append, runs_cons_of_boundary inside (by simpa using outside),
          runs_cons_of_not outside, runs_cons_of_boundary inside (by simp)]
        rfl
      | cons next others =>
        by_cases joined : p next
        · rw [List.cons_append, runs_cons_cons inside joined, ← List.cons_append, ih,
            runs_cons_cons inside joined, extendFirst_append _ (runs_cons_ne_nil joined others)]
        · rw [runs_cons_of_boundary inside (by simpa using joined), ih,
            runs_cons_of_boundary inside (by simpa using joined), List.cons_append]
    · rw [runs_cons_of_not inside, runs_cons_of_not inside, ih]

/-- Code points outside of the class in front of a text leave its runs as they are. -/
theorem runs_append_of_forall_not {gap : Text} (outside : ∀ point ∈ gap, ¬p point) (rest : Text) :
    runs p (gap ++ rest) = runs p rest := by
  induction gap with
  | nil => rfl
  | cons point points ih =>
    obtain ⟨here, later⟩ := List.forall_mem_cons.mp outside
    rw [List.cons_append, runs_cons_of_not here, ih later]

/-- A text of the class is a single run. -/
theorem runs_of_forall (nonempty : text ≠ []) (inside : ∀ point ∈ text, p point) :
    runs p text = [text] := by
  induction text with
  | nil => exact absurd rfl nonempty
  | cons point rest ih =>
    obtain ⟨here, later⟩ := List.forall_mem_cons.mp inside
    cases rest with
    | nil => exact runs_cons_of_boundary here (by simp)
    | cons next others =>
      rw [runs_cons_cons here (later next List.mem_cons_self), ih (List.cons_ne_nil _ _) later]
      rfl

/-- A text of the class is the first run of a text that goes on outside of the class or ends. -/
theorem runs_append_of_boundary {rest : Text} (nonempty : run ≠ [])
    (inside : ∀ point ∈ run, p point) (boundary : ¬rest.head?.any p) :
    runs p (run ++ rest) = run :: runs p rest := by
  cases rest with
  | nil =>
    rw [List.append_nil, runs_of_forall nonempty inside]
    rfl
  | cons point points =>
    have outside : ¬p point := by simpa using boundary
    rw [runs_append_cons_of_not run outside, runs_of_forall nonempty inside,
      runs_cons_of_not outside, List.singleton_append]

/-- A separator that is not empty keeps the runs before it apart from those after it. -/
theorem runs_append_separator (first : Text) {separator : Text} (nonempty : separator ≠ [])
    (outside : ∀ point ∈ separator, ¬p point) (second : Text) :
    runs p (first ++ separator ++ second) = runs p first ++ runs p second := by
  cases separator with
  | nil => exact absurd rfl nonempty
  | cons point points =>
    obtain ⟨here, later⟩ := List.forall_mem_cons.mp outside
    rw [List.append_assoc, List.cons_append, runs_append_cons_of_not first here,
      runs_append_of_forall_not later]

/-- Texts of the class are the runs of their join. -/
theorem runs_join {separator : Text} {texts : List Text} (apart : separator ≠ [])
    (outside : ∀ point ∈ separator, ¬p point)
    (words : ∀ text ∈ texts, text ≠ [] ∧ ∀ point ∈ text, p point) :
    runs p (join separator texts) = texts := by
  induction texts with
  | nil => rfl
  | cons first rest ih =>
    obtain ⟨⟨nonempty, inside⟩, others⟩ := List.forall_mem_cons.mp words
    cases rest with
    | nil =>
      rw [join, List.intercalate_singleton]
      exact runs_of_forall nonempty inside
    | cons second rest =>
      rw [join, List.intercalate_cons_cons, runs_append_separator first apart outside,
        runs_of_forall nonempty inside, ← join, ih others, List.singleton_append]

/-- The runs of a text depend on which of its code points are of the class. -/
theorem runs_congr {q : CodePoint → Bool} (same : ∀ point ∈ text, p point = q point) :
    runs p text = runs q text := by
  induction text with
  | nil => rfl
  | cons point rest ih =>
    obtain ⟨here, later⟩ := List.forall_mem_cons.mp same
    have next : rest.head?.any p = rest.head?.any q := by
      cases rest with
      | nil => rfl
      | cons next others => exact later next List.mem_cons_self
    rw [runs, runs, here, next, ih later]

/-- Changing code points commutes with extending the first run. -/
theorem map_extendFirst (f : CodePoint → CodePoint) (point : CodePoint) (found : List Text) :
    (extendFirst point found).map (·.map f) = extendFirst (f point) (found.map (·.map f)) := by
  cases found <;> rfl

/-- A change of code points that keeps the class changes each run by itself. -/
theorem runs_map {f : CodePoint → CodePoint} (kept : ∀ point ∈ text, p (f point) = p point) :
    runs p (text.map f) = (runs p text).map (·.map f) := by
  induction text with
  | nil => rfl
  | cons point rest ih =>
    obtain ⟨here, later⟩ := List.forall_mem_cons.mp kept
    rw [List.map_cons]
    by_cases inside : p point
    · have changed : p (f point) := here.trans inside
      cases rest with
      | nil =>
        rw [runs_cons_of_boundary inside (by simp), List.map_nil,
          runs_cons_of_boundary changed (by simp)]
        rfl
      | cons next others =>
        have same : p (f next) = p next := later next List.mem_cons_self
        by_cases joined : p next
        · rw [runs_cons_cons inside joined, map_extendFirst, ← ih later, List.map_cons,
            runs_cons_cons changed (same.trans joined)]
        · rw [runs_cons_of_boundary inside (by simpa using joined),
            runs_cons_of_boundary changed (by simpa [same] using joined), ih later]
          rfl
    · rw [runs_cons_of_not inside, runs_cons_of_not (by rwa [here]), ih later]

end FieldSearch.Text
