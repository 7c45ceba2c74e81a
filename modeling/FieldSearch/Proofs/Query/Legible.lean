import FieldSearch.Proofs.Query.Slots
import FieldSearch.Proofs.Text.Separated

/-!
# Legible phrases

A term is legible when it has none of the marks that the query language writes around terms. A
phrase of legible terms, at most one at each position, is told by its text: every term and every
position can be read off it.
-/

namespace FieldSearch

/-- The marks that are written around terms. -/
def marks : List Char :=
  [' ', '"', '/', '?', '~']

/-- A text that can be told from the marks around it. -/
structure IsLegible (text : Text) : Prop where
  nonempty : text ≠ []
  unmarked : ∀ mark ∈ marks, .char mark ∉ text

namespace Placed

variable {placed : Placed} {text : Text} {position : Nat}

/-- Texts that are legible and stand at increasing positions. -/
structure Legible (placed : Placed) : Prop where
  texts : ∀ entry ∈ placed, IsLegible entry.1
  increasing : placed.Pairwise (·.2 < ·.2)

/-- At increasing positions a text is the only one of its position. -/
theorem textsAt_of_mem (increasing : placed.Pairwise (·.2 < ·.2))
    (member : (text, position) ∈ placed) : placed.textsAt position = [text] := by
  -- By induction on what is placed: the first text is at the position, or stands before it.
  induction placed with
  | nil => cases member
  | cons head rest ih =>
    obtain ⟨before, later⟩ := List.pairwise_cons.mp increasing
    rcases List.mem_cons.mp member with rfl | inRest
    · have none : textsAt rest position = [] := by
        rw [List.eq_nil_iff_forall_not_mem]
        intro other found
        exact absurd (before _ (mem_textsAt_iff.mp found)) (Nat.lt_irrefl position)
      have split : textsAt ((text, position) :: rest) position =
          text :: textsAt rest position := by simp [textsAt]
      rw [split, none]
    · have other : head.2 ≠ position := Nat.ne_of_lt (before _ inRest)
      have skip : textsAt (head :: rest) position = textsAt rest position := by
        simp [textsAt, other]
      rw [skip, ih later inRest]

namespace Legible

/-- A slot of legible terms is written as its term. -/
theorem slotText_of_mem (legible : placed.Legible) (member : (text, position) ∈ placed) :
    placed.slotText position = text := by
  rw [slotText, textsAt_of_mem legible.increasing member]
  exact List.intercalate_singleton

/-- A slot is written as a question mark or as the text at its position. -/
theorem slotText_eq_or_mem (legible : placed.Legible) (position : Nat) :
    placed.slotText position = Text.ofString "?" ∨
      (placed.slotText position, position) ∈ placed := by
  cases found : placed.textsAt position with
  | nil => exact .inl (by rw [slotText, found])
  | cons first rest =>
    have member : (first, position) ∈ placed :=
      mem_textsAt_iff.mp (by rw [found]; exact List.mem_cons_self)
    rw [legible.slotText_of_mem member]
    exact .inr member

/-- The texts of a phrase and their positions can be read off its slots. -/
theorem mem_iff (legible : placed.Legible) :
    (text, position) ∈ placed ↔
      position < placed.width ∧ placed.slotText position = text ∧ text ≠ Text.ofString "?" := by
  constructor
  · intro member
    refine ⟨lt_width_of_mem member, legible.slotText_of_mem member, ?_⟩
    rintro rfl
    exact (legible.texts _ member).unmarked '?' (by decide) (List.mem_singleton_self _)
  · rintro ⟨_, rfl, filled⟩
    exact (legible.slotText_eq_or_mem position).resolve_left filled

/-- Slots of legible terms are written as question marks or as terms. -/
theorem forall_mem_slotTexts (legible : placed.Legible) :
    ∀ text ∈ placed.slotTexts, text = Text.ofString "?" ∨ IsLegible text := by
  intro text member
  obtain ⟨position, _, rfl⟩ := List.mem_map.mp member
  exact (legible.slotText_eq_or_mem position).imp_right fun member => legible.texts _ member

/-- Legible terms are told by how their slots are written. -/
theorem eq_of_slotTexts_eq {first second : Placed} (legible : first.Legible)
    (legibleToo : second.Legible) (same : first.slotTexts = second.slotTexts) : first = second := by
  have widths : first.width = second.width := by
    simpa [slotTexts] using congrArg List.length same
  have texts : ∀ position < second.width, first.slotText position = second.slotText position := by
    rw [slotTexts, slotTexts, widths] at same
    exact fun position within => List.map_inj_left.mp same position (List.mem_range.mpr within)
  -- Phrases with the same texts at the same positions have the same order too, that of positions.
  have members : ∀ entry, entry ∈ first ↔ entry ∈ second := by
    rintro ⟨text, position⟩
    rw [legible.mem_iff, legibleToo.mem_iff, widths]
    exact and_congr_right fun within => by rw [texts position within]
  have nodup {placed : Placed} (legible : placed.Legible) : placed.Nodup :=
    legible.increasing.imp fun {earlier later} before => by
      rintro rfl
      exact Nat.lt_irrefl _ before
  apply List.Perm.eq_of_pairwise _ legible.increasing legibleToo.increasing
  · exact (List.perm_ext_iff_of_nodup (nodup legible) (nodup legibleToo)).mpr members
  · intro earlier later _ _ before after
    exact absurd (Nat.lt_trans before after) (Nat.lt_irrefl _)

/-- What stands between the quotes of a legible phrase tells its terms and their positions. -/
theorem eq_of_join_slotTexts_eq {first second : Placed} (legible : first.Legible)
    (legibleToo : second.Legible)
    (same : Text.join " " first.slotTexts = Text.join " " second.slotTexts) : first = second := by
  have plain {placed : Placed} (legible : placed.Legible) :
      ∀ text ∈ placed.slotTexts, text ≠ [] ∧ CodePoint.char ' ' ∉ text := by
    intro text member
    rcases legible.forall_mem_slotTexts text member with rfl | term
    · decide
    · exact ⟨term.nonempty, term.unmarked ' ' (by decide)⟩
  exact legible.eq_of_slotTexts_eq legibleToo
    (Text.join_injOn (plain legible) (plain legibleToo) same)

/-- Nothing between the quotes of a legible phrase is a quote. -/
theorem quote_notMem (legible : placed.Legible) :
    CodePoint.char '"' ∉ Text.join " " placed.slotTexts := by
  intro member
  rcases Text.mem_or_exists_of_mem_join member with space | ⟨text, among, inside⟩
  · revert space
    decide
  · rcases legible.forall_mem_slotTexts text among with rfl | term
    · revert inside
      decide
    · exact term.unmarked '"' (by decide) inside

end Legible

end Placed

end FieldSearch
