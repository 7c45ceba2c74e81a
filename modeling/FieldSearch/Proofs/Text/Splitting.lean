import FieldSearch.Proofs.Text.Runs
import Mathlib.Logic.ExistsUnique

/-!
# Words and gaps

A text is split into words of a class with gaps around them: words are not empty, no gap has a code
point of the class, and there is something between two words. A text can be split in exactly one
way, and the words are its runs.
-/

namespace FieldSearch.Text

/-- The gap before the first word, and the words, each with the gap after it. -/
structure Splitting where
  lead : Text
  pieces : List (Text × Text)

namespace Splitting

/-- The text that is split. -/
def text (splitting : Splitting) : Text :=
  splitting.lead ++ splitting.pieces.flatMap fun (word, gap) => word ++ gap

/-- The words, in order. -/
def words (splitting : Splitting) : List Text :=
  splitting.pieces.map Prod.fst

/-- The words are of the class and not empty, the gaps are outside of the class, and only the gaps
at the two ends may be empty. -/
structure Alternates (p : CodePoint → Bool) (splitting : Splitting) : Prop where
  lead : ∀ point ∈ splitting.lead, ¬p point
  nonempty : ∀ piece ∈ splitting.pieces, piece.1 ≠ []
  inside : ∀ piece ∈ splitting.pieces, ∀ point ∈ piece.1, p point
  outside : ∀ piece ∈ splitting.pieces, ∀ point ∈ piece.2, ¬p point
  apart : ∀ piece ∈ splitting.pieces.dropLast, piece.2 ≠ []

variable {p : CodePoint → Bool} {lead word gap : Text} {pieces : List (Text × Text)}

/-- The text of a splitting goes on with its first word and the gap after it. -/
theorem text_cons (lead word gap : Text) (pieces : List (Text × Text)) :
    text ⟨lead, (word, gap) :: pieces⟩ = lead ++ (word ++ text ⟨gap, pieces⟩) := by
  simp only [text, List.flatMap_cons, List.append_assoc]

/-! ## The first word -/

namespace Alternates

/-- After its first word a splitting goes on as one that begins with a gap. -/
theorem tail (alternates : Alternates p ⟨lead, (word, gap) :: pieces⟩) :
    Alternates p ⟨gap, pieces⟩ where
  lead := alternates.outside _ List.mem_cons_self
  nonempty piece member := alternates.nonempty piece (List.mem_cons_of_mem _ member)
  inside piece member := alternates.inside piece (List.mem_cons_of_mem _ member)
  outside piece member := alternates.outside piece (List.mem_cons_of_mem _ member)
  apart piece member := by
    have more : pieces ≠ [] := List.ne_nil_of_mem (List.dropLast_subset _ member)
    apply alternates.apart piece
    rw [List.dropLast_cons_of_ne_nil more]
    exact List.mem_cons_of_mem _ member

/-- The gap after the first word is empty only at the end. -/
theorem gap_ne_nil (alternates : Alternates p ⟨lead, (word, gap) :: pieces⟩)
    (more : pieces ≠ []) : gap ≠ [] := by
  apply alternates.apart (word, gap)
  rw [List.dropLast_cons_of_ne_nil more]
  exact List.mem_cons_self

/-- A word in front of the gap that a splitting begins with. -/
theorem cons (before : ∀ point ∈ lead, ¬p point) (nonempty : word ≠ [])
    (inside : ∀ point ∈ word, p point) (apart : pieces ≠ [] → gap ≠ [])
    (alternates : Alternates p ⟨gap, pieces⟩) : Alternates p ⟨lead, (word, gap) :: pieces⟩ where
  lead := before
  nonempty := List.forall_mem_cons.mpr ⟨nonempty, alternates.nonempty⟩
  inside := List.forall_mem_cons.mpr ⟨inside, alternates.inside⟩
  outside := List.forall_mem_cons.mpr ⟨alternates.lead, alternates.outside⟩
  apart := by
    cases pieces with
    | nil => exact List.forall_mem_nil _
    | cons piece rest =>
      rw [List.dropLast_cons_of_ne_nil (List.cons_ne_nil _ _)]
      exact List.forall_mem_cons.mpr ⟨apart (List.cons_ne_nil _ _), alternates.apart⟩

/-- What follows the first word does not go on with the word. -/
theorem boundary (alternates : Alternates p ⟨lead, (word, gap) :: pieces⟩) :
    ¬(text ⟨gap, pieces⟩).head?.any p := by
  cases gap with
  | nil =>
    have ended : pieces = [] := Decidable.byContradiction fun more => alternates.gap_ne_nil more rfl
    simp [text, ended]
  | cons point rest =>
    have outside := alternates.tail.lead point List.mem_cons_self
    simpa [text] using outside

/-- What follows the first gap does not go on with the gap. -/
theorem lead_boundary (alternates : Alternates p ⟨lead, pieces⟩) :
    ¬(text ⟨[], pieces⟩).head?.any (!p ·) := by
  cases pieces with
  | nil => simp [text]
  | cons piece pieces =>
    obtain ⟨word, gap⟩ := piece
    obtain ⟨point, points, rfl⟩ :=
      List.exists_cons_of_ne_nil (alternates.nonempty (word, gap) List.mem_cons_self)
    have inside := alternates.inside _ List.mem_cons_self point List.mem_cons_self
    simpa [text] using inside

end Alternates

/-! ## Words are runs -/

/-- The words of a splitting are the runs of its text. -/
theorem Alternates.runs_text {splitting : Splitting} (alternates : splitting.Alternates p) :
    runs p splitting.text = splitting.words := by
  -- By induction on the pieces, for every gap before the first of them.
  obtain ⟨lead, pieces⟩ := splitting
  induction pieces generalizing lead with
  | nil => exact runs_append_of_forall_not alternates.lead []
  | cons piece pieces ih =>
    obtain ⟨word, gap⟩ := piece
    rw [text_cons, runs_append_of_forall_not alternates.lead,
      runs_append_of_boundary (alternates.nonempty _ List.mem_cons_self)
        (alternates.inside _ List.mem_cons_self) alternates.boundary, ih gap alternates.tail]
    rfl

/-! ## One way to split a text -/

/-- Every text can be split into words and gaps in turn. -/
theorem exists_alternates (p : CodePoint → Bool) (text : Text) :
    ∃ splitting : Splitting, splitting.text = text ∧ splitting.Alternates p := by
  induction text with
  | nil =>
    have empty : Alternates p ⟨[], []⟩ := by constructor <;> simp
    exact ⟨⟨[], []⟩, rfl, empty⟩
  | cons point rest ih =>
    obtain ⟨⟨lead, pieces⟩, rfl, alternates⟩ := ih
    by_cases inside : p point
    · have single : ∀ other ∈ [point], p other := List.forall_mem_singleton.mpr inside
      have none : ∀ other ∈ ([] : Text), ¬p other := List.forall_mem_nil _
      by_cases joined : lead = [] ∧ pieces ≠ []
      · -- The code point is the first of the first word.
        obtain ⟨rfl, more⟩ := joined
        obtain ⟨⟨word, gap⟩, pieces, rfl⟩ := List.exists_cons_of_ne_nil more
        refine ⟨⟨[], (point :: word, gap) :: pieces⟩, by simp [text_cons], ?_⟩
        refine .cons none (List.cons_ne_nil _ _) ?_ alternates.gap_ne_nil alternates.tail
        exact List.forall_mem_cons.mpr ⟨inside, alternates.inside _ List.mem_cons_self⟩
      · -- The code point is a word, and what was the first gap follows it.
        refine ⟨⟨[], ([point], lead) :: pieces⟩, by simp [text_cons], ?_⟩
        exact .cons none (List.cons_ne_nil _ _) single (fun more empty => joined ⟨empty, more⟩)
          alternates
    · refine ⟨⟨point :: lead, pieces⟩, rfl, ?_⟩
      exact { alternates with lead := List.forall_mem_cons.mpr ⟨inside, alternates.lead⟩ }

/-- There is one way to cut a text where a class ends. -/
theorem eq_of_append_eq {q : CodePoint → Bool} {first second rest others : Text}
    (inFirst : ∀ point ∈ first, q point) (inSecond : ∀ point ∈ second, q point)
    (boundary : ¬rest.head?.any q) (boundaryToo : ¬others.head?.any q)
    (same : first ++ rest = second ++ others) : first = second ∧ rest = others := by
  have taken {before after : Text} (inside : ∀ point ∈ before, q point)
      (boundary : ¬after.head?.any q) : (before ++ after).takeWhile q = before := by
    rw [List.takeWhile_append_of_pos inside]
    cases after with
    | nil => simp
    | cons point points => simpa [List.takeWhile_cons] using boundary
  have firsts : first = second := by
    rw [← taken inFirst boundary, same, taken inSecond boundaryToo]
  subst firsts
  exact ⟨rfl, List.append_cancel_left same⟩

section Unique

variable {other after : Text} {others : List (Text × Text)}

/-- Splittings of one text begin with the same gap. -/
theorem Alternates.lead_eq (first : Alternates p ⟨lead, pieces⟩)
    (second : Alternates p ⟨other, others⟩) (same : text ⟨lead, pieces⟩ = text ⟨other, others⟩) :
    lead = other ∧ text ⟨[], pieces⟩ = text ⟨[], others⟩ := by
  have outside : ∀ point ∈ lead, (!p point) = true := by simpa using first.lead
  have outsideToo : ∀ point ∈ other, (!p point) = true := by simpa using second.lead
  exact eq_of_append_eq outside outsideToo first.lead_boundary second.lead_boundary same

/-- Splittings of one text that begin alike have the same first word. -/
theorem Alternates.word_eq (first : Alternates p ⟨lead, (word, gap) :: pieces⟩)
    (second : Alternates p ⟨lead, (other, after) :: others⟩)
    (same : text ⟨[], (word, gap) :: pieces⟩ = text ⟨[], (other, after) :: others⟩) :
    word = other ∧ text ⟨gap, pieces⟩ = text ⟨after, others⟩ := by
  rw [text_cons, text_cons, List.nil_append, List.nil_append] at same
  exact eq_of_append_eq (first.inside _ List.mem_cons_self) (second.inside _ List.mem_cons_self)
    first.boundary second.boundary same

/-- A splitting without words is told from one with words by its text. -/
theorem Alternates.text_cons_ne_nil (alternates : Alternates p ⟨lead, (word, gap) :: pieces⟩) :
    text ⟨[], (word, gap) :: pieces⟩ ≠ text ⟨[], []⟩ := by
  have nonempty : word ≠ [] := alternates.nonempty _ List.mem_cons_self
  simp [text, nonempty]

/-- A text is split in one way only. -/
theorem eq_of_text_eq {first second : Splitting} (alternates : first.Alternates p)
    (alternatesToo : second.Alternates p) (same : first.text = second.text) : first = second := by
  -- By induction on the pieces of the first: its gap and its word are those of the second.
  obtain ⟨lead, pieces⟩ := first
  induction pieces generalizing lead second with
  | nil =>
    obtain ⟨other, others⟩ := second
    obtain ⟨rfl, rests⟩ := alternates.lead_eq alternatesToo same
    cases others with
    | nil => rfl
    | cons piece others => exact absurd rests.symm alternatesToo.text_cons_ne_nil
  | cons piece pieces ih =>
    obtain ⟨other, others⟩ := second
    obtain ⟨rfl, rests⟩ := alternates.lead_eq alternatesToo same
    cases others with
    | nil => exact absurd rests alternates.text_cons_ne_nil
    | cons next others =>
      obtain ⟨word, gap⟩ := piece
      obtain ⟨other, after⟩ := next
      obtain ⟨rfl, later⟩ := alternates.word_eq alternatesToo rests
      cases ih alternatesToo.tail gap alternates.tail later
      rfl

end Unique

/-- A text is split into words and gaps in exactly one way. -/
theorem existsUnique_alternates (p : CodePoint → Bool) (whole : Text) :
    ∃! splitting : Splitting, splitting.text = whole ∧ splitting.Alternates p := by
  obtain ⟨splitting, same, alternates⟩ := exists_alternates p whole
  refine ⟨splitting, ⟨same, alternates⟩, ?_⟩
  rintro other ⟨sameToo, alternatesToo⟩
  exact eq_of_text_eq alternatesToo alternates (sameToo.trans same.symm)

end Splitting

end FieldSearch.Text
