import FieldSearch.Proofs.Text.Ranges
import FieldSearch.Text.Lowercase

/-!
# Lower case is a fixed point

A text in lower case is not changed by lowering it again. Every target of the case data is the
number of a character that has no other lowercase form and is none of the two special capitals, so
that no rule that looks at the characters around it applies a second time.
-/

namespace FieldSearch.Text

/-- The number of the single lowercase form of the character of a number. -/
def lowerCode (code : Nat) : Nat :=
  match caseTree.find? CaseRun.bounds code with
  | some run => run.lower code
  | none => code

/-- The single lowercase form of a character is that of its number. -/
theorem lowerSingle_eq_ofNat (c : Char) : lowerSingle c = Char.ofNat (lowerCode c.toNat) := by
  unfold lowerSingle lowerCode
  cases caseTree.find? CaseRun.bounds c.toNat with
  | none => exact (Char.ofNat_toNat c).symm
  | some run => rfl

/-- The number of a character that the single lowercase forms keep, and that is neither the capital
sigma nor the dotted capital I. -/
structure IsLowerCode (code : Nat) : Prop where
  valid : code.isValidChar
  kept : lowerCode code = code
  notSigma : code ≠ 'Σ'.toNat
  notDottedI : code ≠ '\u0130'.toNat

/-- Whether no run of the case data has the numbers from `first` to `last` at multiples of `step`: no
run reaches there, or one of the same step that steps over them. -/
def steppedOver (first last step : Nat) : Bool :=
  match caseTree.findThroughout? CaseRun.bounds first last with
  | some none => true
  | some (some run) => run.step = step && (first - run.first) % step ≠ 0
  | none => false

/-- A number that is stepped over is kept. -/
theorem lowerCode_of_steppedOver {first last step distance : Nat}
    (passed : steppedOver first last step) (within : first + distance ≤ last)
    (hit : distance % step = 0) : lowerCode (first + distance) = first + distance := by
  unfold steppedOver at passed
  cases throughout : caseTree.findThroughout? CaseRun.bounds first last with
  | none =>
    rw [throughout] at passed
    cases passed
  | some found =>
    have lookup := SearchTree.find?_of_findThroughout? throughout (Nat.le_add_right _ _) within
    unfold lowerCode
    rw [lookup]
    cases found with
    | none => rfl
    | some run =>
      rw [throughout] at passed
      obtain ⟨rfl, missed⟩ : run.step = step ∧ (first - run.first) % step ≠ 0 := by
        simpa only [Bool.and_eq_true, decide_eq_true_eq] using passed
      have first_le : run.first ≤ first := (SearchTree.within_of_find?
        (SearchTree.find?_of_findThroughout? throughout (Nat.le_refl _) (by omega))).1
      have distances : first + distance - run.first = first - run.first + distance := by omega
      have missedToo : (first + distance - run.first) % run.step ≠ 0 := by
        rwa [distances, Nat.add_mod, hit, Nat.add_zero, Nat.mod_mod]
      exact if_neg missedToo

/-- All targets of the case data are lowercase. -/
theorem isLowerCode_target :
    ∀ run ∈ caseRuns, ∀ distance ≤ run.last - run.first, distance % run.step = 0 →
      IsLowerCode (run.target + distance) := by
  -- The last target of a run may lie where the run does not reach any more.
  have table : ∀ run ∈ caseRuns,
      (run.target + (run.last - run.first) < 0xD800 ∨
        0xDFFF < run.target ∧ run.target + (run.last - run.first) < 0x110000) ∧
      (run.target + (run.last - run.first) < 'Σ'.toNat ∨ 'Σ'.toNat < run.target) ∧
      (run.target + (run.last - run.first) < '\u0130'.toNat ∨ '\u0130'.toNat < run.target) ∧
      (run.last - run.first = 0 ∨
        steppedOver run.target (run.target + (run.last - run.first) - 1) run.step) ∧
      lowerCode (run.target + (run.last - run.first)) = run.target + (run.last - run.first) := by
    decide +kernel
  intro run member distance within hit
  obtain ⟨valid, sigma, dottedI, others, last⟩ := table run member
  refine ⟨by unfold Nat.isValidChar; omega, ?_, by omega, by omega⟩
  by_cases atEnd : distance = run.last - run.first
  · rw [atEnd, last]
  · have passed := others.resolve_left (by omega)
    exact lowerCode_of_steppedOver passed (by omega) hit

/-- A number is kept, or its lowercase form is lowercase. -/
theorem lowerCode_eq_or_isLowerCode (code : Nat) :
    lowerCode code = code ∨ IsLowerCode (lowerCode code) := by
  unfold lowerCode
  cases found : caseTree.find? CaseRun.bounds code with
  | none => exact Or.inl rfl
  | some run =>
    have member : run ∈ caseRuns := SearchTree.mem_of_find?_build found
    have within : code ≤ run.last := (SearchTree.within_of_find? found).2
    by_cases hit : (code - run.first) % run.step = 0
    · right
      simp only [CaseRun.lower, hit, ↓reduceIte]
      exact isLowerCode_target run member _ (by omega) hit
    · left
      simp only [CaseRun.lower, hit, ↓reduceIte]

/-- A code point that lowering keeps wherever it stands. -/
def IsLower : CodePoint → Prop
  | .char c => c ≠ 'Σ' ∧ lowerChar c = [c]
  | .surrogate _ => True

/-- The character of a valid number has that number. -/
theorem toNat_ofNat_of_isValidChar {code : Nat} (valid : code.isValidChar) :
    (Char.ofNat code).toNat = code := by
  rw [show Char.ofNat code = Char.ofNatAux code valid from dif_pos valid]
  rfl

/-- The character of a lowercase number is lowercase. -/
theorem IsLowerCode.isLower {code : Nat} (lower : IsLowerCode code) :
    IsLower (.char (Char.ofNat code)) := by
  have number := toNat_ofNat_of_isValidChar lower.valid
  have notSigma : Char.ofNat code ≠ 'Σ' := fun same => lower.notSigma (by rw [← number, same])
  have notDottedI : Char.ofNat code ≠ '\u0130' := fun same =>
    lower.notDottedI (by rw [← number, same])
  refine ⟨notSigma, ?_⟩
  rw [lowerChar, if_neg notDottedI, lowerSingle_eq_ofNat, number, lower.kept]

/-- The forms of the dotted capital I and of the capital sigma are lowercase. -/
theorem isLower_of_special {c : Char} (special : c ∈ ['i', '\u0307', 'σ', 'ς']) :
    IsLower (.char c) := by
  have kept : ['i', '\u0307', 'σ', 'ς'].all fun c => c ≠ 'Σ' ∧ lowerChar c = [c] := by
    decide +kernel
  have found := List.all_eq_true.mp kept c special
  rwa [decide_eq_true_eq] at found

/-- The lowercase forms of a character other than the capital sigma are lowercase. -/
theorem isLower_of_mem_lowerChar {c d : Char} (notSigma : c ≠ 'Σ') (member : d ∈ lowerChar c) :
    IsLower (.char d) := by
  by_cases dotted : c = '\u0130'
  · subst dotted
    have forms : d = 'i' ∨ d = '\u0307' := by simpa [lowerChar] using member
    exact isLower_of_special (by rcases forms with rfl | rfl <;> simp)
  · rw [lowerChar, if_neg dotted, List.mem_singleton, lowerSingle_eq_ofNat] at member
    rw [member]
    rcases lowerCode_eq_or_isLowerCode c.toNat with kept | lower
    · rw [kept, Char.ofNat_toNat]
      refine ⟨notSigma, ?_⟩
      rw [lowerChar, if_neg dotted, lowerSingle_eq_ofNat, kept, Char.ofNat_toNat]
    · exact lower.isLower

/-! ## Forms -/

/-- A code point and one that lowering may make of it. -/
inductive LowersTo : CodePoint → CodePoint → Prop
  | finalSigma : LowersTo (.char 'Σ') (.char 'ς')
  | sigma : LowersTo (.char 'Σ') (.char 'σ')
  | char {c d : Char} (notSigma : c ≠ 'Σ') (form : d ∈ lowerChar c) : LowersTo (.char c) (.char d)
  | surrogate (index : Fin 0x800) : LowersTo (.surrogate index) (.surrogate index)

/-- A capital sigma becomes one of the two small ones. -/
theorem lowersTo_lowerSigma (before after : Text) :
    LowersTo (.char 'Σ') (.char (lowerSigma before after)) := by
  unfold lowerSigma
  split
  · exact .finalSigma
  · exact .sigma

/-- The first code point of a text is replaced by its forms, and there is at least one. -/
theorem exists_lowerAfter_cons (before : Text) (head : CodePoint) (rest : Text) :
    ∃ forms ≠ [], (∀ point ∈ forms, LowersTo head point) ∧
      lowerAfter before (head :: rest) = forms ++ lowerAfter (head :: before) rest := by
  cases head with
  | surrogate index =>
    exact ⟨[_], List.cons_ne_nil _ _, List.forall_mem_singleton.mpr (.surrogate index), rfl⟩
  | char c =>
    by_cases sigma : c = 'Σ'
    · subst sigma
      exact ⟨[_], List.cons_ne_nil _ _,
        List.forall_mem_singleton.mpr (lowersTo_lowerSigma before rest), rfl⟩
    · refine ⟨ofChars (lowerChar c), ?_, ?_, ?_⟩
      · by_cases dotted : c = '\u0130' <;> simp [ofChars, lowerChar, dotted]
      · intro point member
        obtain ⟨d, ofC, rfl⟩ := List.mem_map.mp member
        exact .char sigma ofC
      · rw [lowerAfter]
        simpa using sigma

/-- All that is in a lowered text is made of a code point of the text. -/
theorem exists_lowersTo_of_mem_lowerAfter {before text : Text} {point : CodePoint}
    (member : point ∈ lowerAfter before text) : ∃ source ∈ text, LowersTo source point := by
  induction text generalizing before with
  | nil => simp [lowerAfter] at member
  | cons head rest ih =>
    obtain ⟨forms, _, made, whole⟩ := exists_lowerAfter_cons before head rest
    rw [whole, List.mem_append] at member
    rcases member with form | inRest
    · exact ⟨head, List.mem_cons_self, made point form⟩
    · exact (ih inRest).imp fun source => And.imp_left (List.mem_cons_of_mem head)

/-- Something in a lowered text is made of each code point of the text. -/
theorem exists_mem_lowerAfter {text : Text} {source : CodePoint} (member : source ∈ text)
    (before : Text) : ∃ point ∈ lowerAfter before text, LowersTo source point := by
  induction text generalizing before with
  | nil => cases member
  | cons head rest ih =>
    obtain ⟨forms, nonempty, made, whole⟩ := exists_lowerAfter_cons before head rest
    rw [whole]
    rcases List.mem_cons.mp member with rfl | inRest
    · obtain ⟨point, form⟩ := List.exists_mem_of_ne_nil forms nonempty
      exact ⟨point, List.mem_append_left _ form, made point form⟩
    · obtain ⟨point, later, lowers⟩ := ih inRest (head :: before)
      exact ⟨point, List.mem_append_right _ later, lowers⟩

/-- Lowering gives lowercase code points only. -/
theorem isLower_of_mem_lowerAfter {before text : Text} {point : CodePoint}
    (member : point ∈ lowerAfter before text) : IsLower point := by
  obtain ⟨source, _, form⟩ := exists_lowersTo_of_mem_lowerAfter member
  cases form with
  | finalSigma => exact isLower_of_special (by simp)
  | sigma => exact isLower_of_special (by simp)
  | char notSigma form => exact isLower_of_mem_lowerChar notSigma form
  | surrogate index => trivial

/-! ## Lowering twice -/

/-- Lowercase code points are kept, whatever stands before them. -/
theorem lowerAfter_eq_self {text : Text} (lower : ∀ point ∈ text, IsLower point) (before : Text) :
    lowerAfter before text = text := by
  induction text generalizing before with
  | nil => rfl
  | cons head rest ih =>
    have headLower := lower head List.mem_cons_self
    have restLower : ∀ point ∈ rest, IsLower point := fun point later =>
      lower point (List.mem_cons_of_mem _ later)
    cases head with
    | surrogate index => rw [lowerAfter, ih restLower]
    | char c =>
      rw [lowerAfter, headLower.2, ih restLower]
      · rfl
      · simpa using headLower.1

/-- A text in lower case is its own lowercase form. -/
theorem lower_lower (text : Text) : lower (lower text) = lower text :=
  lowerAfter_eq_self (fun _ => isLower_of_mem_lowerAfter) []

example : lower "ΟΔΟΣ" = Text.ofString "οδος" := by
  decide +kernel

end FieldSearch.Text
