import FieldSearch.Compilation.Registry
import FieldSearch.Proofs.Failure

/-!
# What compilation asks for

A condition is compiled with what is known of its own field: the type of no other field is asked
for, and no text is analyzed for another one. Resolvers and analyses that agree on the field of a
condition give the same outcome, whatever compilers are registered.
-/

namespace FieldSearch

/-! ## Finishing a draft -/

namespace Draft

/-- The terms of a phrase depend on the analysis of its own values only. -/
theorem phraseTerms_congr {first second : Text → Except Failure Json}
    {values : List (Option Text)} (same : ∀ text, some text ∈ values → first text = second text)
    (position : Nat) :
    phraseTerms first position values = phraseTerms second position values := by
  induction values generalizing position with
  | nil => rfl
  | cons value rest ih =>
    have later := ih (fun text member => same text (List.mem_cons_of_mem value member))
      (position + 1)
    cases value with
    | none => exact later
    | some text => rw [phraseTerms, phraseTerms, same text List.mem_cons_self, later]

/-- Only the texts of a draft are analyzed. -/
theorem finish_congr {first second : TermAnalysis} {draft : Draft}
    (same : ∀ entry ∈ draft.texts, first entry.1 entry.2 = second entry.1 entry.2) :
    draft.finish first = draft.finish second := by
  cases draft with
  | settled query => rfl
  | fuzzy field value predicate boost =>
    have analyzed : first field value = second field value := same (field, value) (by simp [texts])
    rw [finish, finish, analyzed]
  | phrase field values slop boost =>
    have terms : phraseTerms (first field) 0 values = phraseTerms (second field) 0 values := by
      apply phraseTerms_congr
      intro text member
      exact same (field, text) (by simpa [texts] using member)
    rw [finish, finish, terms]

end Draft

/-! ## Drafting -/

namespace Compiler

variable {first second : TypeResolver} {condition : Condition}

/-- A required field is the one that is given. -/
theorem eq_some_of_requireField {given : Option Text} {field : Text}
    (required : requireField given = .ok field) : given = some field := by
  cases given with
  | none => cases required
  | some text =>
    rw [requireField] at required
    split at required
    · cases required
    · cases required
      rfl

/-- What follows the check of the field is done for that field only. -/
theorem requireField_bind_congr {α : Type} {given : Option Text}
    {next other : Text → Except Failure α}
    (same : ∀ field, given = some field → next field = other field) :
    (requireField given >>= next) = (requireField given >>= other) := by
  cases required : requireField given with
  | error failure => rfl
  | ok field => exact same field (eq_some_of_requireField required)

/-- The check of a field's type depends on the answer for that field only. -/
theorem checkFieldType_congr {field : Text} (same : first field = second field)
    (kind registered : Kind) :
    checkFieldType kind registered first field = checkFieldType kind registered second field := by
  rw [checkFieldType, checkFieldType, same]

/-- A draft by any procedure depends on the answer for the condition's field only. -/
theorem draftLike_congr (same : ∀ field, condition.field = some field → first field = second field)
    (kind registered : Kind) :
    draftLike kind registered first condition = draftLike kind registered second condition := by
  cases kind <;>
    · refine requireField_bind_congr fun field given => ?_
      simp only [checkFieldType_congr (same field given)]

/-- What a compiler drafts depends on the answer for the condition's field only. -/
theorem draft_congr (same : ∀ field, condition.field = some field → first field = second field)
    (compiler : Compiler) : compiler.draft first condition = compiler.draft second condition := by
  unfold draft
  split
  · exact draftLike_congr same _ _
  · exact draftLike_congr same _ _
  · rfl

/-- The texts of a draft belong to the field of the condition. -/
theorem field_of_mem_texts_draftLike {kind registered : Kind} {draft : Draft}
    (drafted : draftLike kind registered first condition = .ok draft) {entry : Text × Text}
    (member : entry ∈ draft.texts) : condition.field = some entry.1 := by
  cases kind with
  | fuzzy =>
    obtain ⟨field, required, drafted⟩ := bind_eq_ok_iff.mp drafted
    obtain ⟨_, _, drafted⟩ := bind_eq_ok_iff.mp drafted
    obtain ⟨_, _, drafted⟩ := bind_eq_ok_iff.mp drafted
    obtain ⟨_, _, drafted⟩ := bind_eq_ok_iff.mp drafted
    obtain ⟨_, _, drafted⟩ := bind_eq_ok_iff.mp drafted
    obtain ⟨_, _, ⟨⟩⟩ := bind_eq_ok_iff.mp drafted
    cases List.mem_singleton.mp member
    exact eq_some_of_requireField required
  | regexp =>
    obtain ⟨field, required, drafted⟩ := bind_eq_ok_iff.mp drafted
    obtain ⟨_, _, drafted⟩ := bind_eq_ok_iff.mp drafted
    obtain ⟨_, _, drafted⟩ := bind_eq_ok_iff.mp drafted
    obtain ⟨_, _, ⟨⟩⟩ := bind_eq_ok_iff.mp drafted
    cases member
  | phrase =>
    obtain ⟨field, required, drafted⟩ := bind_eq_ok_iff.mp drafted
    obtain ⟨_, _, drafted⟩ := bind_eq_ok_iff.mp drafted
    obtain ⟨_, _, drafted⟩ := bind_eq_ok_iff.mp drafted
    obtain ⟨_, _, drafted⟩ := bind_eq_ok_iff.mp drafted
    obtain ⟨_, _, ⟨⟩⟩ := bind_eq_ok_iff.mp drafted
    obtain ⟨text, _, rfl⟩ := List.mem_map.mp member
    exact eq_some_of_requireField required

/-- The texts of a draft are analyzed for the condition's field. -/
theorem field_of_mem_texts_draft {compiler : Compiler} {draft : Draft}
    (drafted : compiler.draft first condition = .ok draft) {entry : Text × Text}
    (member : entry ∈ draft.texts) : condition.field = some entry.1 := by
  unfold Compiler.draft at drafted
  split at drafted
  · exact field_of_mem_texts_draftLike drafted member
  · exact field_of_mem_texts_draftLike drafted member
  · cases drafted
    cases member

end Compiler

/-! ## Compiling -/

/-- A condition is compiled with what is known of its own field. -/
theorem Registry.compile_congr {first second : TypeResolver} {analysis other : TermAnalysis}
    {condition : Condition}
    (types : ∀ field, condition.field = some field → first field = second field)
    (terms : ∀ field, condition.field = some field → ∀ text, analysis field text = other field text)
    (registry : Registry) :
    registry.compile first analysis condition = registry.compile second other condition := by
  have drafts : registry.draft first condition = registry.draft second condition := by
    rw [draft, draft]
    cases registry.compilerFor condition with
    | error failure => rfl
    | ok compiler => exact compiler.draft_congr types
  -- One draft is finished in two ways, and its texts belong to the field of the condition.
  rw [compile_eq, compile_eq, ← drafts]
  cases drafted : registry.draft first condition with
  | error failure => rfl
  | ok draft =>
    obtain ⟨compiler, _, made⟩ := bind_eq_ok_iff.mp drafted
    refine Draft.finish_congr fun entry member => ?_
    exact terms entry.1 (Compiler.field_of_mem_texts_draft made member) entry.2

end FieldSearch
