import FieldSearch.Proofs.Wire.Checked
import FieldSearch.Wire.Scalar

/-!
# Texts that are accepted as they are

A text or null is read as what was written, and so is a list of them.
-/

namespace FieldSearch.Wire

/-- A text that may be missing is read back. -/
theorem acceptOptionalText_ofText? (text : Option Text) :
    acceptOptionalText (Json.ofText? text) = .accepted text := by
  cases text <;> rfl

/-- Texts are accepted in order, and an absent one keeps its place. -/
theorem acceptOptionalTexts_map (texts : List (Option Text)) :
    acceptOptionalTexts (.arr (texts.map Json.ofText?)) = .accepted (some texts) := by
  have readings : (texts.map Json.ofText?).mapIdx (fun index item =>
      (acceptOptionalText item).under (.item index)) = texts.map Checked.accepted := by
    apply List.ext_getElem
    · simp
    · intro index _ _
      simp [acceptOptionalText_ofText?, Checked.under]
  rw [acceptOptionalTexts, readings, Checked.collect_map_accepted]
  rfl

end FieldSearch.Wire
