import FieldSearch.Proofs.Failure
import FieldSearch.Proofs.Number.Value
import FieldSearch.Query.Render
import Mathlib.Data.List.Induction

/-!
# The slots of a phrase

Texts that are placed at positions counted from zero fill the slots up to the last of these
positions. A slot holds the texts of its own position, joined in the order in which they are placed,
and is empty when there is none. Such a phrase can be written down unless it has a position so far
on that there cannot be as many slots, and its text does not depend on the order of texts at
different positions.
-/

namespace FieldSearch

/-- Texts at positions counted from zero, in the order in which they are placed. -/
abbrev Placed := List (Text × Nat)

namespace Placed

/-- The terms that place texts in a phrase. -/
def terms (placed : Placed) : List PhraseTerm :=
  placed.map fun entry => ⟨.str entry.1, .int entry.2⟩

/-- The texts at a position, in order. -/
def textsAt (placed : Placed) (position : Nat) : List Text :=
  (placed.filter (·.2 = position)).map (·.1)

/-- The number of slots up to the last position. -/
def width (placed : Placed) : Nat :=
  placed.foldl (fun width entry => max width (entry.2 + 1)) 0

/-- The slot at a position. -/
def slotAt (placed : Placed) (position : Nat) : Json :=
  match placed.textsAt position with
  | [] => .null
  | texts => .str (Text.join "|" texts)

/-- The slots up to the last position. -/
def slots (placed : Placed) : Slots :=
  (List.range placed.width).map placed.slotAt

/-- The slot at a position as it is written. -/
def slotText (placed : Placed) (position : Nat) : Text :=
  match placed.textsAt position with
  | [] => "?"
  | texts => Text.join "|" texts

/-- The slots up to the last position as they are written. -/
def slotTexts (placed : Placed) : List Text :=
  (List.range placed.width).map placed.slotText

/-- Every text is placed where there can be a slot. -/
def Fits (placed : Placed) : Prop :=
  ∀ entry ∈ placed, entry.2 < Slots.maxSlots

variable {placed : Placed}

/-- The texts at a position are the ones placed there. -/
theorem mem_textsAt_iff {text : Text} {position : Nat} :
    text ∈ placed.textsAt position ↔ (text, position) ∈ placed := by
  simp [textsAt]

/-! ## One more text -/

/-- One more text comes after those of its position, and leaves the other positions alone. -/
theorem textsAt_concat (placed : Placed) (text : Text) (position other : Nat) :
    textsAt (placed ++ [(text, position)]) other =
      if position = other then placed.textsAt other ++ [text] else placed.textsAt other := by
  by_cases same : position = other <;> simp [textsAt, same]

/-- One more text extends the slots to its position, if they do not reach it. -/
theorem width_concat (placed : Placed) (text : Text) (position : Nat) :
    width (placed ++ [(text, position)]) = max placed.width (position + 1) := by
  rw [width, List.foldl_append]
  rfl

/-- The slots reach the position of every text. -/
theorem lt_width_of_mem {entry : Text × Nat} (member : entry ∈ placed) :
    entry.2 < placed.width := by
  induction placed using List.reverseRecOn with
  | nil => cases member
  | append_singleton earlier last ih =>
    rw [width_concat]
    rcases List.mem_append.mp member with before | same
    · have placedBefore := ih before
      omega
    · cases List.mem_singleton.mp same
      omega

/-- There are slots up to the last position at which a text is placed. -/
theorem lt_width_iff {position : Nat} :
    position < placed.width ↔ ∃ entry ∈ placed, position ≤ entry.2 := by
  constructor
  · intro within
    induction placed using List.reverseRecOn with
    | nil => cases within
    | append_singleton earlier last ih =>
      rw [width_concat] at within
      by_cases before : position < width earlier
      · obtain ⟨entry, member, beyond⟩ := ih before
        exact ⟨entry, List.mem_append_left _ member, beyond⟩
      · exact ⟨last, List.mem_concat_self, by omega⟩
  · rintro ⟨entry, member, beyond⟩
    exact Nat.lt_of_le_of_lt beyond (lt_width_of_mem member)

/-- Beyond the last position nothing is placed. -/
theorem slotAt_of_width_le {position : Nat} (beyond : placed.width ≤ position) :
    placed.slotAt position = .null := by
  have none : placed.textsAt position = [] := by
    rw [List.eq_nil_iff_forall_not_mem]
    intro text member
    exact absurd (lt_width_of_mem (mem_textsAt_iff.mp member)) (Nat.not_lt.mpr beyond)
  rw [slotAt, none]

/-- Texts are joined to one more as they are joined to each other. -/
theorem join_concat {separator : Text} {texts : List Text} (nonempty : texts ≠ []) (text : Text) :
    Text.join separator (texts ++ [text]) = Text.join separator texts ++ separator ++ text := by
  induction texts with
  | nil => contradiction
  | cons first rest ih =>
    cases rest with
    | nil => simp [Text.join, List.intercalate_cons_cons]
    | cons second rest =>
      have later := ih (List.cons_ne_nil second rest)
      rw [Text.join] at later ⊢
      rw [List.cons_append, List.cons_append, List.intercalate_cons_cons, ← List.cons_append, later,
        Text.join, Text.join, List.intercalate_cons_cons]
      simp only [List.append_assoc]

/-- One more text is joined to the slot of its position. -/
theorem slotAt_concat (placed : Placed) (text : Text) (position other : Nat) :
    slotAt (placed ++ [(text, position)]) other =
      if position = other then Slots.join (placed.slotAt other) (.str text)
      else placed.slotAt other := by
  rw [slotAt, textsAt_concat]
  by_cases same : position = other
  · rw [if_pos same, if_pos same, slotAt]
    cases found : placed.textsAt other with
    | nil =>
      change Json.str (Text.join "|" [text]) = .str text
      rw [Text.join, List.intercalate_singleton]
    | cons first rest =>
      have joined := @join_concat "|" (first :: rest) (List.cons_ne_nil _ _) text
      rw [List.cons_append] at joined ⊢
      exact congrArg Json.str joined
  · rw [if_neg same, if_neg same, slotAt]

/-! ## Placing -/

/-- Up to a position for which there can be a slot, the slots are grown by empty ones. -/
theorem growTo_slots (placed : Placed) {position : Nat} (fits : position < Slots.maxSlots) :
    placed.slots.growTo position =
      .ok ((List.range (max placed.width (position + 1))).map placed.slotAt) := by
  have count : ((position : Int) + 1).toNat = position + 1 := Int.toNat_natCast (position + 1)
  have length : placed.slots.length = placed.width := by
    rw [slots, List.length_map, List.length_range]
  have counted : ¬Slots.maxIndex < position + 1 - placed.width := by
    have addressed : Slots.maxSlots ≤ Slots.maxIndex := Nat.div_le_self _ _
    omega
  rw [Slots.growTo, count, length]
  rw [if_neg counted, if_neg (Nat.not_lt.mpr fits)]
  refine congrArg Except.ok (List.ext_getElem ?_ fun index low high => ?_)
  · simp only [slots, List.length_append, List.length_map, List.length_range,
      List.length_replicate]
    omega
  · by_cases within : index < placed.width
    · simp [slots, within]
    · simp [slots, List.getElem_append, within, slotAt_of_width_le (Nat.le_of_not_lt within)]

/-- No slots can be grown up to a position for which there cannot be one. -/
theorem exists_growTo_eq_error (slots : Slots) {position : Nat}
    (beyond : Slots.maxSlots ≤ position) : ∃ failure, slots.growTo position = .error failure := by
  have count : ((position : Int) + 1).toNat = position + 1 := Int.toNat_natCast (position + 1)
  rw [Slots.growTo, count]
  split
  · exact ⟨_, rfl⟩
  · rw [if_pos (Nat.lt_succ_of_le beyond)]
    exact ⟨_, rfl⟩

/-- A text is put into the slot of its position, once the slots are grown. -/
theorem place_eq (slots : Slots) (text : Text) (position : Nat) :
    slots.place ⟨.str text, .int position⟩ =
      (slots.growTo position).map (·.modify position (Slots.join · (.str text))) := by
  have index : ∀ grown : Slots, grown.index? position = some position := fun grown => by
    rw [Slots.index?, if_pos (Int.natCast_nonneg position), Int.toNat_natCast]
  rw [Slots.place, Slots.position]
  simp only [bind, Except.bind, index]
  cases slots.growTo position <;> rfl

/-- A text is placed exactly when there can be a slot for it. It is put into the slot of its
position, and all other slots are kept. -/
theorem place_slots_eq_ok_iff {text : Text} {position : Nat} {result : Slots} :
    placed.slots.place ⟨.str text, .int position⟩ = .ok result ↔
      position < Slots.maxSlots ∧ slots (placed ++ [(text, position)]) = result := by
  rw [place_eq]
  by_cases fits : position < Slots.maxSlots
  · have changed : ((List.range (max placed.width (position + 1))).map placed.slotAt).modify
        position (Slots.join · (.str text)) = slots (placed ++ [(text, position)]) := by
      rw [slots, width_concat]
      -- Slot by slot: the text changes the slot of its position only, and what is added is empty.
      apply List.ext_getElem?
      intro other
      rw [List.getElem?_modify]
      by_cases within : other < max placed.width (position + 1)
      · simp [List.getElem?_range within, slotAt_concat]
      · have none : (List.range (max placed.width (position + 1)))[other]? = none := by
          rw [List.getElem?_eq_none_iff, List.length_range]
          exact Nat.le_of_not_lt within
        simp [none]
    rw [growTo_slots placed fits, Except.map, changed, Except.ok.injEq, and_iff_right fits]
  · obtain ⟨failure, failed⟩ := exists_growTo_eq_error placed.slots (Nat.le_of_not_lt fits)
    rw [failed]
    exact ⟨nofun, fun ⟨inside, _⟩ => absurd inside fits⟩

/-- More texts are placed after others exactly when there can be slots for them. -/
theorem foldlM_place_eq_ok_iff {later : Placed} {result : Slots} :
    later.terms.foldlM Slots.place placed.slots = .ok result ↔
      later.Fits ∧ slots (placed ++ later) = result := by
  -- By induction on the texts still to be placed, for all texts that have been placed before.
  induction later generalizing placed with
  | nil =>
    rw [List.append_nil]
    exact ⟨fun same => ⟨List.forall_mem_nil _, Except.ok.inj same⟩, fun ⟨_, same⟩ => same ▸ rfl⟩
  | cons entry rest ih =>
    rw [terms, List.map_cons, List.foldlM_cons, bind_eq_ok_iff, Fits, List.forall_mem_cons]
    constructor
    · rintro ⟨next, stepped, passed⟩
      obtain ⟨fits, rfl⟩ := place_slots_eq_ok_iff.mp stepped
      obtain ⟨others, same⟩ := ih.mp passed
      exact ⟨⟨fits, others⟩, by rw [← same, List.append_assoc, List.singleton_append]⟩
    · rintro ⟨⟨fits, others⟩, same⟩
      refine ⟨_, place_slots_eq_ok_iff.mpr ⟨fits, rfl⟩, ih.mpr ⟨others, ?_⟩⟩
      rw [← same, List.append_assoc, List.singleton_append]

/-- The slots of a phrase hold its texts at their positions. -/
theorem slots_phrase_eq_ok_iff {field : Text} {slop : Json} {result : Slots} :
    PhraseClause.slots ⟨field, placed.terms, slop⟩ = .ok result ↔
      placed.Fits ∧ placed.slots = result :=
  @foldlM_place_eq_ok_iff [] placed result

/-! ## Writing -/

/-- Every slot of placed texts can be written. -/
theorem renderSlot_slotAt (placed : Placed) (index position : Nat) :
    Slots.renderSlot index (placed.slotAt position) = .ok (placed.slotText position) := by
  rw [slotAt, slotText]
  cases placed.textsAt position <;> rfl

/-- The slots at any positions are written one after the other. -/
theorem mapM_renderSlot (placed : Placed) (positions : List Nat) (first : Nat) :
    ((positions.map placed.slotAt).zipIdx first).mapM
        (fun (slot, index) => Slots.renderSlot index slot) =
      .ok (positions.map placed.slotText) := by
  induction positions generalizing first with
  | nil => rfl
  | cons position rest ih =>
    rw [List.map_cons, List.zipIdx_cons, List.mapM_cons]
    simp only [renderSlot_slotAt, ih]
    rfl

/-- A slop as it is written after a phrase. -/
def slopText (slop : Json) : Text :=
  if slop.isNothing then [] else "~" ++ slop.plain

/-- A phrase is written slot by slot, unless there cannot be slots for all of its texts. -/
theorem render_phrase_eq_ok_iff {field : Text} {slop : Json} {text : Text} :
    PhraseClause.render ⟨field, placed.terms, slop⟩ = .ok text ↔
      placed.Fits ∧
        field ++ ":\"" ++ Text.join " " placed.slotTexts ++ "\"" ++ slopText slop = text := by
  have written : placed.slots.render = .ok (Text.join " " placed.slotTexts) := by
    rw [Slots.render, slots, mapM_renderSlot]
    rfl
  rw [PhraseClause.render, bind_eq_ok_iff]
  constructor
  · rintro ⟨slots, filled, passed⟩
    obtain ⟨fits, rfl⟩ := slots_phrase_eq_ok_iff.mp filled
    rw [written] at passed
    exact ⟨fits, Except.ok.inj passed⟩
  · rintro ⟨fits, rfl⟩
    refine ⟨_, slots_phrase_eq_ok_iff.mpr ⟨fits, rfl⟩, ?_⟩
    rw [written]
    rfl

/-- A slop that is not zero is written after a tilde. -/
theorem slopText_int (slop : Int) :
    slopText (.int slop) = if slop = 0 then [] else .char '~' :: Text.ofString (toString slop) := by
  have nothing : (Json.int slop).isNothing = true ↔ slop = 0 := by
    rw [← NumericValue.ofInt_injective.eq_iff]
    exact decide_eq_true_iff
  rw [slopText]
  simp only [nothing]
  rfl

/-- There is a text for every slot. -/
theorem length_slotTexts (placed : Placed) : placed.slotTexts.length = placed.width := by
  rw [slotTexts, List.length_map, List.length_range]

/-- The text of a slot stands at its position. -/
theorem getElem?_slotTexts {position : Nat} (within : position < placed.slotTexts.length) :
    placed.slotTexts[position]? = some (placed.slotText position) := by
  rw [length_slotTexts] at within
  rw [slotTexts, List.getElem?_map, List.getElem?_range within, Option.map_some]

/-- A slot is written as the texts of its position joined by bars, or as a question mark. -/
theorem slotText_eq (placed : Placed) (position : Nat) :
    placed.slotText position =
      if placed.textsAt position = [] then Text.ofString "?"
      else Text.join "|" (placed.textsAt position) := by
  rw [slotText]
  cases placed.textsAt position <;> rfl

/-! ## Order -/

section Order

variable {other : Placed} (same : ∀ position, other.textsAt position = placed.textsAt position)

include same

/-- Texts placed in another order are the same texts at the same positions. -/
theorem mem_congr (text : Text) (position : Nat) :
    (text, position) ∈ other ↔ (text, position) ∈ placed := by
  rw [← mem_textsAt_iff, same, mem_textsAt_iff]

/-- Whether there can be slots for all texts does not depend on their order. -/
theorem fits_congr : other.Fits ↔ placed.Fits := by
  simp only [Fits, Prod.forall, mem_congr same]

/-- Texts that are placed in another order, but not those of one position, are written alike. -/
theorem slotTexts_congr : other.slotTexts = placed.slotTexts := by
  have widths : other.width = placed.width := by
    refine eq_of_forall_lt_iff fun position => ?_
    simp only [lt_width_iff, Prod.exists, mem_congr same]
  rw [slotTexts, slotTexts, widths]
  apply List.map_congr_left
  intro position _
  rw [slotText, slotText, same]

end Order

end Placed

/-- A phrase of placed texts is written with its slots, its slop and its boost, unless there cannot
be slots for all of its texts. -/
theorem Query.render_phrase_eq_ok_iff {field : Text} {placed : Placed} {slop : Int} {boost : Json}
    {text : Text} :
    Query.render ⟨.phrase ⟨field, placed.terms, .int slop⟩, boost⟩ = .ok text ↔
      placed.Fits ∧
        field ++ ":\"" ++ Text.join " " placed.slotTexts ++ "\"" ++
            (if slop = 0 then [] else .char '~' :: Text.ofString (toString slop)) ++
          renderBoost boost = text := by
  rw [Query.render, map_eq_ok_iff, ← Placed.slopText_int]
  constructor
  · rintro ⟨phrase, written, rfl⟩
    obtain ⟨fits, rfl⟩ := Placed.render_phrase_eq_ok_iff.mp written
    exact ⟨fits, rfl⟩
  · rintro ⟨fits, rfl⟩
    exact ⟨_, Placed.render_phrase_eq_ok_iff.mpr ⟨fits, rfl⟩, rfl⟩

/-- **A phrase is written slot by slot.** Texts placed at positions from zero on can be written
exactly when there can be a slot for each of them. After the field there are then, between quotes,
the slots up to the last position, and after them the slop if it is not zero. A slot holds the texts
of its position joined by bars, in the order in which they are placed, and a question mark if there
is none. Texts placed in another order are written alike when at each position the order is the
same. -/
theorem Query.render_placed (field : Text) (placed : Placed) (slop : Int) (boost : Json) :
    ((∃ text, Query.render ⟨.phrase ⟨field, placed.terms, .int slop⟩, boost⟩ = .ok text) ↔
      ∀ entry ∈ placed, entry.2 < Slots.maxSlots) ∧
    ((∀ entry ∈ placed, entry.2 < Slots.maxSlots) →
      (∃ slots : List Text,
        Query.render ⟨.phrase ⟨field, placed.terms, .int slop⟩, boost⟩ =
          .ok (field ++ ":\"" ++ Text.join " " slots ++ "\"" ++
            (if slop = 0 then [] else .char '~' :: Text.ofString (toString slop)) ++
            renderBoost boost) ∧
        (placed = [] → slots = []) ∧
        (∀ position, position < slots.length ↔ ∃ entry ∈ placed, position ≤ entry.2) ∧
        ∀ position < slots.length, slots[position]? = some
          (if placed.textsAt position = [] then Text.ofString "?"
            else Text.join "|" (placed.textsAt position))) ∧
      ∀ other : Placed, (∀ position, other.textsAt position = placed.textsAt position) →
        Query.render ⟨.phrase ⟨field, other.terms, .int slop⟩, boost⟩ =
          Query.render ⟨.phrase ⟨field, placed.terms, .int slop⟩, boost⟩) := by
  refine ⟨⟨fun ⟨_, written⟩ => (render_phrase_eq_ok_iff.mp written).1,
    fun fits => ⟨_, render_phrase_eq_ok_iff.mpr ⟨fits, rfl⟩⟩⟩, fun fits => ⟨?_, ?_⟩⟩
  · refine ⟨placed.slotTexts, render_phrase_eq_ok_iff.mpr ⟨fits, rfl⟩, ?_, fun position => ?_,
      fun position within => ?_⟩
    · rintro rfl
      rfl
    · rw [Placed.length_slotTexts, Placed.lt_width_iff]
    · rw [Placed.getElem?_slotTexts within, Placed.slotText_eq]
  · intro other same
    rw [render_phrase_eq_ok_iff.mpr ⟨(Placed.fits_congr same).mpr fits, rfl⟩,
      render_phrase_eq_ok_iff.mpr ⟨fits, rfl⟩, Placed.slotTexts_congr same]

/-- Three texts, two of them at the first position, and the last placed first. -/
theorem Query.render_placed_quick_fox :
    (∀ entry ∈ [(Text.ofString "quick", 0), (Text.ofString "fast", 0), (Text.ofString "fox", 2)],
      entry.2 < Slots.maxSlots) ∧
    (∀ position, Placed.textsAt [("fox", 2), ("quick", 0), ("fast", 0)] position =
      Placed.textsAt [("quick", 0), ("fast", 0), ("fox", 2)] position) ∧
    Query.render ⟨.phrase ⟨"body", Placed.terms [("fox", 2), ("quick", 0), ("fast", 0)], .int 3⟩,
        Query.defaultBoost⟩ =
      .ok (Text.ofString "body:\"quick|fast ? fox\"~3") := by
  have fits : ∀ entry ∈
      [(Text.ofString "quick", 0), (Text.ofString "fast", 0), (Text.ofString "fox", 2)],
      entry.2 < Slots.maxSlots := by
    simp [Slots.maxSlots, Slots.maxIndex]
  have same (position : Nat) : Placed.textsAt [("fox", 2), ("quick", 0), ("fast", 0)] position =
      Placed.textsAt [("quick", 0), ("fast", 0), ("fox", 2)] position := by
    by_cases first : 0 = position
    · subst first
      rfl
    · simp [Placed.textsAt, List.filter_cons, first]
  have written : (Query.render
      ⟨.phrase ⟨"body", Placed.terms [("quick", 0), ("fast", 0), ("fox", 2)], .int 3⟩,
        Query.defaultBoost⟩).toOption = some (Text.ofString "body:\"quick|fast ? fox\"~3") := by
    decide +kernel
  have alike := ((Query.render_placed "body" _ 3 Query.defaultBoost).2 fits).2 _ same
  exact ⟨fits, same, alike.trans (ok_of_toOption written)⟩

/-- A text at the greatest index: the slots up to it are more than an index can count. -/
theorem Query.render_eq_error_at_greatest_index :
    Query.render ⟨.phrase ⟨"f", Placed.terms [("a", 0x7FFFFFFFFFFFFFFF)], .int 0⟩,
      Query.defaultBoost⟩ = .error .tooManySlots :=
  rfl

end FieldSearch
