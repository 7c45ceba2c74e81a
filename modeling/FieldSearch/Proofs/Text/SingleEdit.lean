import FieldSearch.Proofs.Text.Similarity

/-!
# Single edits

A text is mistyped by inserting, leaving out or replacing one code point, or by swapping two
neighbours. Whether a text is close to all of its misspellings can be found out from finitely many of
them: a code point that is not in the text counts like any other such one.
-/

namespace FieldSearch.Text

/-- A text, and one that differs from it by one code point or by a swap of neighbours. -/
inductive OneEdit : Text → Text → Prop
  | inserted (before after : Text) (c : CodePoint) : OneEdit (before ++ after) (before ++ c :: after)
  | deleted (before after : Text) (c : CodePoint) : OneEdit (before ++ c :: after) (before ++ after)
  | replaced (before after : Text) (c d : CodePoint) :
    OneEdit (before ++ c :: after) (before ++ d :: after)
  | swapped (before after : Text) (c d : CodePoint) :
    OneEdit (before ++ c :: d :: after) (before ++ d :: c :: after)

/-- The texts after an edit that brings in one of the letters if any code point. -/
def edits (letters : Text) : Text → List Text
  | [] => letters.map ([·])
  | c :: rest =>
    letters.map (· :: c :: rest) ++ rest :: letters.map (· :: rest) ++
      (match rest with
        | [] => []
        | d :: others => [d :: c :: others]) ++
      (edits letters rest).map (c :: ·)

variable {first second letters : Text} {blank : CodePoint}

namespace OneEdit

/-- One edit adds at most one code point. -/
theorem length_le (edit : OneEdit first second) : second.length ≤ first.length + 1 := by
  cases edit with
  | inserted => simp only [List.length_append, List.length_cons]; omega
  | deleted => simp only [List.length_append, List.length_cons]; omega
  | replaced => simp only [List.length_append, List.length_cons]; omega
  | swapped => simp only [List.length_append, List.length_cons]; omega

/-- Edited texts that are changed alike are still one edit apart. -/
theorem map (edit : OneEdit first second) (f : CodePoint → CodePoint) :
    OneEdit (first.map f) (second.map f) := by
  cases edit with
  | inserted before after c => simpa only [List.map_append, List.map_cons] using inserted _ _ (f c)
  | deleted before after c => simpa only [List.map_append, List.map_cons] using deleted _ _ (f c)
  | replaced before after c d => simpa only [List.map_append, List.map_cons] using replaced _ _ (f c) (f d)
  | swapped before after c d => simpa only [List.map_append, List.map_cons] using swapped _ _ (f c) (f d)

end OneEdit

/-! ## Listing edits -/

/-- An edit of the end of a text is an edit of the text. -/
theorem append_mem_edits (before : Text) (listed : second ∈ edits letters first) :
    before ++ second ∈ edits letters (before ++ first) := by
  induction before with
  | nil => exact listed
  | cons c before ih => exact List.mem_append_right _ (List.mem_map_of_mem ih)

/-- An edit with known letters is among those that are listed. -/
theorem OneEdit.mem_edits (edit : OneEdit first second) (known : second ⊆ letters) :
    second ∈ edits letters first := by
  -- What stands before the edit is the same in both texts, so that the edit is at the beginning.
  cases edit with
  | inserted before after c =>
    apply append_mem_edits
    have letter : c ∈ letters := known (by simp)
    cases after with
    | nil => exact List.mem_map_of_mem letter
    | cons d after => simp [edits, letter]
  | deleted before after c =>
    apply append_mem_edits
    simp [edits]
  | replaced before after c d =>
    apply append_mem_edits
    have letter : d ∈ letters := known (by simp)
    simp [edits, letter]
  | swapped before after c d =>
    apply append_mem_edits
    simp [edits]

/-! ## Closeness of all edits -/

/-- Puts a blank in place of a code point that is not in the text. -/
def mask (text : Text) (blank point : CodePoint) : CodePoint :=
  if point ∈ text then point else blank

/-- A mask with a new blank keeps equality with the text. -/
theorem keepsEqual_mask (new : blank ∉ first) : KeepsEqual (mask first blank) first := by
  intro c member d
  unfold mask
  split
  · exact Iff.rfl
  · grind

/-- A text is not changed by its own mask. -/
theorem map_mask_self (text : Text) (blank : CodePoint) : text.map (mask text blank) = text := by
  conv_rhs => rw [← List.map_id text]
  exact List.map_congr_left fun point member => if_pos member

/-- A masked text has the code points of the text and the blank. -/
theorem map_mask_subset (first second : Text) (blank : CodePoint) :
    second.map (mask first blank) ⊆ blank :: first := by
  intro point member
  obtain ⟨source, _, rfl⟩ := List.mem_map.mp member
  unfold mask
  split
  next known => exact List.mem_cons_of_mem _ known
  next => exact List.mem_cons_self

/-- A short text is close to what any edit makes of it if it is close to what the edits with its own
code points and one other make of it. An edit near one end leaves the other end as it is. -/
theorem isClose_of_oneEdit (nonempty : first ≠ []) (new : blank ∉ first)
    (listed : ∀ other ∈ edits (blank :: first) first,
      agreeAtAnEnd first other ∨ (similarity first other).isClose)
    (short : first.length + 1 < 200) (edit : OneEdit first second) :
    (similarity first second).isClose := by
  have shortToo : second.length < 200 := Nat.lt_of_le_of_lt edit.length_le short
  have masked := edit.map (mask first blank)
  rw [map_mask_self] at masked
  rw [← (keepsEqual_mask new).similarity_map shortToo]
  rcases listed _ (masked.mem_edits (map_mask_subset first second blank)) with agree | close
  · exact isClose_of_agreeAtAnEnd nonempty (by rwa [List.length_map]) agree
  · exact close

end FieldSearch.Text
