import FieldSearch.Proofs.Text.Lowercase
import FieldSearch.Proofs.Text.Ranges
import FieldSearch.Proofs.Text.Runs
import FieldSearch.Text.Blank
import FieldSearch.Text.Word

/-!
# Classes of characters in lower case

A class ignores case when a character and its lowercase form are in it alike. Words, letters and
blanks are such classes. Two characters need care. The dotted capital I has a form of two
characters, the second of which belongs to no word. The form of the capital sigma depends on the
text around it. In a text without them lowering changes each code point by itself, so that it
changes the runs of such a class one by one.
-/

namespace FieldSearch.Text

/-- A class that a character and its single lowercase form are in alike, and the capital sigma and
its final form too. -/
structure IgnoresCase (p : Char → Bool) : Prop where
  single : ∀ c, p (lowerSingle c) = p c
  finalSigma : p 'ς' = p 'Σ'

/-- A class in which every target of the case data is alike with its source. -/
def AlikeAtTargets (p : Char → Bool) : Prop :=
  ∀ run ∈ caseRuns, ∀ distance < run.last - run.first + 1, distance % run.step = 0 →
    p (Char.ofNat (run.target + distance)) = p (Char.ofNat (run.first + distance))

/-- If a class is alike at the targets of the case data, it has a character exactly when it has the
character's lowercase form. -/
theorem AlikeAtTargets.single {p : Char → Bool} (alike : AlikeAtTargets p) (c : Char) :
    p (lowerSingle c) = p c := by
  unfold lowerSingle
  cases found : caseTree.find? CaseRun.bounds c.toNat with
  | none => rfl
  | some run =>
    have member : run ∈ caseRuns := SearchTree.mem_of_find?_build found
    obtain ⟨low, high⟩ : run.first ≤ c.toNat ∧ c.toNat ≤ run.last :=
      SearchTree.within_of_find? found
    by_cases hit : (c.toNat - run.first) % run.step = 0
    · have source : Char.ofNat (run.first + (c.toNat - run.first)) = c := by
        rw [Nat.add_sub_cancel' low, Char.ofNat_toNat]
      have same := alike run member (c.toNat - run.first) (by omega) hit
      rw [source] at same
      simpa only [CaseRun.lower, hit, ↓reduceIte] using same
    · simp only [CaseRun.lower, hit, ↓reduceIte, Char.ofNat_toNat]

/-- The sources of the case data are characters. -/
theorem isValidChar_source :
    ∀ run ∈ caseRuns, run.first ≤ run.last ∧
      ∀ code, run.first ≤ code → code ≤ run.last → code.isValidChar := by
  have table : ∀ run ∈ caseRuns, run.first ≤ run.last ∧
      (run.last < 0xD800 ∨ 0xDFFF < run.first ∧ run.last < 0x110000) := by
    decide +kernel
  intro run member
  obtain ⟨nonempty, aside⟩ := table run member
  refine ⟨nonempty, fun code low high => ?_⟩
  unfold Nat.isValidChar
  omega

/-- A class of ranges is alike at the targets when every run of the case data is in it or out of it
as a whole, and the targets of the run likewise. A run that steps over codes between ranges is gone
through. -/
theorem alikeAtTargets_contains {tree : RangeTree}
    (alike : ∀ run ∈ caseRuns,
      (tree.holds? run.first run.last).isSome ∧
        tree.holds? run.target (run.target + (run.last - run.first)) =
          tree.holds? run.first run.last ∨
      ∀ distance < run.last - run.first + 1, distance % run.step = 0 →
        tree.contains (run.target + distance) = tree.contains (run.first + distance)) :
    AlikeAtTargets fun c => tree.contains c.toNat := by
  intro run member distance within hit
  obtain ⟨nonempty, valid⟩ := isValidChar_source run member
  have target := isLowerCode_target run member distance (by omega) hit
  have source := valid (run.first + distance) (by omega) (by omega)
  dsimp only
  rw [toNat_ofNat_of_isValidChar target.valid, toNat_ofNat_of_isValidChar source]
  rcases alike run member with ⟨known, same⟩ | each
  · obtain ⟨held, known⟩ := Option.isSome_iff_exists.mp known
    rw [RangeTree.contains_of_holds? (same.trans known) (by omega) (by omega),
      RangeTree.contains_of_holds? known (by omega) (by omega)]
  · exact each distance within hit

/-- Whether a character is a word character does not depend on its case. -/
theorem ignoresCase_isWordChar : IgnoresCase isWordChar where
  single := (alikeAtTargets_contains (by decide +kernel)).single
  finalSigma := by decide +kernel

/-- Whether a character is a decimal digit does not depend on its case. -/
theorem ignoresCase_isDecimalDigit : IgnoresCase isDecimalDigit where
  single := (alikeAtTargets_contains (by decide +kernel)).single
  finalSigma := by decide +kernel

/-- The low line is a range of its own. -/
theorem isLowLine_iff {c : Char} : c = '_' ↔ Ranges.Has [('_'.toNat, '_'.toNat)] c.toNat := by
  rw [← Char.toNat_inj]
  simp only [Ranges.Has, List.mem_singleton, exists_eq_left]
  omega

/-- Only the low line has the low line as its lowercase form. -/
theorem lowerSingle_ne_lowLine (c : Char) : (lowerSingle c != '_') = (c != '_') := by
  have alike : AlikeAtTargets fun c =>
      RangeTree.contains (SearchTree.ofList [('_'.toNat, '_'.toNat)]) c.toNat :=
    alikeAtTargets_contains (by decide +kernel)
  have increasing : SearchTree.Increasing id [('_'.toNat, '_'.toNat)] :=
    Ranges.increasing_of_increaseFrom (by decide : Ranges.increaseFrom 0 _)
  have same := alike.single c
  rw [Bool.eq_iff_iff, Ranges.contains_iff increasing, Ranges.contains_iff increasing,
    ← isLowLine_iff, ← isLowLine_iff] at same
  rw [Bool.eq_iff_iff, bne_iff_ne, bne_iff_ne, Ne, Ne, same]

/-- Whether a character is a word letter does not depend on its case. -/
theorem ignoresCase_isWordLetter : IgnoresCase isWordLetter where
  single c := by
    rw [isWordLetter, isWordLetter, ignoresCase_isWordChar.single,
      ignoresCase_isDecimalDigit.single, lowerSingle_ne_lowLine]
  finalSigma := by
    rw [isWordLetter, isWordLetter, ignoresCase_isWordChar.finalSigma,
      ignoresCase_isDecimalDigit.finalSigma]
    rfl

/-- Whether a character is blank does not depend on its case. -/
theorem ignoresCase_isBlankChar : IgnoresCase isBlankChar where
  single := (alikeAtTargets_contains (by decide +kernel)).single
  finalSigma := by decide +kernel

/-! ## Texts without dotted capitals -/

/-- A text without the dotted capital I. -/
def Undotted (text : Text) : Prop :=
  .char '\u0130' ∉ text

instance (text : Text) : Decidable (Undotted text) :=
  inferInstanceAs (Decidable (_ ∉ text))

/-- Runs of a text without dotted capitals have none. -/
theorem Undotted.of_mem_runs {p : CodePoint → Bool} {text run : Text} (undotted : Undotted text)
    (member : run ∈ runs p text) : Undotted run :=
  mt (mem_of_mem_runs member) undotted

/-- No lowercase form has a dotted capital. -/
theorem undotted_lower (text : Text) : Undotted (lower text) := by
  intro member
  have kept := (isLower_of_mem_lowerAfter member).2
  exact absurd kept (by decide)

section Classes

variable {p : Char → Bool}

/-- A code point and its lowercase form are in the class alike, unless it is the dotted capital
I. -/
theorem IgnoresCase.isIn_eq (ignores : IgnoresCase p) {source point : CodePoint}
    (lowers : LowersTo source point) (undotted : source ≠ .char '\u0130') :
    point.isIn p = source.isIn p := by
  cases lowers with
  | finalSigma => exact ignores.finalSigma
  | sigma =>
    have form : lowerSingle 'Σ' = 'σ' := by decide +kernel
    have same := ignores.single 'Σ'
    rwa [form] at same
  | @char c d notSigma form =>
    have plain : c ≠ '\u0130' := fun same => undotted (congrArg CodePoint.char same)
    rw [lowerChar, if_neg plain, List.mem_singleton] at form
    rw [form]
    exact ignores.single c
  | surrogate index => rfl

/-- The lowercase form of an undotted text of the class is of the class. -/
theorem IgnoresCase.forall_mem_lower (ignores : IgnoresCase p) {text : Text}
    (undotted : Undotted text) (inside : ∀ point ∈ text, point.isIn p) :
    ∀ point ∈ lower text, point.isIn p := by
  intro point member
  obtain ⟨source, inText, lowers⟩ := exists_lowersTo_of_mem_lowerAfter member
  have plain : source ≠ .char '\u0130' := fun same => undotted (same ▸ inText)
  rw [ignores.isIn_eq lowers plain]
  exact inside source inText

/-- All code points of a run in lower case are in the class of the run. -/
theorem IgnoresCase.forall_mem_lower_run (ignores : IgnoresCase p) {text run : Text}
    (undotted : Undotted text) (member : run ∈ runs (·.isIn p) text) :
    ∀ point ∈ lower run, point.isIn p :=
  ignores.forall_mem_lower (undotted.of_mem_runs member) (forall_of_mem_runs member)

end Classes

/-! ## Plain texts -/

/-- A text without the two capitals that are not put in lower case one by one: the dotted capital I
and the capital sigma. -/
structure IsPlain (text : Text) : Prop where
  undotted : Undotted text
  noSigma : .char 'Σ' ∉ text

instance (text : Text) : Decidable (IsPlain text) :=
  decidable_of_iff (Undotted text ∧ .char 'Σ' ∉ text) ⟨fun ⟨undotted, noSigma⟩ =>
    ⟨undotted, noSigma⟩, fun plain => ⟨plain.undotted, plain.noSigma⟩⟩

/-- Lowering changes each code point of a plain text by itself. -/
theorem IsPlain.lowerAfter_eq {text : Text} (plain : IsPlain text) (before : Text) :
    lowerAfter before text = text.map (·.mapChar lowerSingle) := by
  induction text generalizing before with
  | nil => rfl
  | cons head rest ih =>
    have later : IsPlain rest :=
      ⟨mt (List.mem_cons_of_mem head) plain.undotted, mt (List.mem_cons_of_mem head) plain.noSigma⟩
    cases head with
    | surrogate index => rw [lowerAfter, ih later, List.map_cons, CodePoint.mapChar]
    | char c =>
      have notSigma : c ≠ 'Σ' := fun same => plain.noSigma (same ▸ List.mem_cons_self)
      have undotted : c ≠ '\u0130' := fun same => plain.undotted (same ▸ List.mem_cons_self)
      rw [lowerAfter, lowerChar, if_neg undotted, ih later]
      · rfl
      · simpa using notSigma

/-- A plain text is lowered character by character. -/
theorem IsPlain.lower_eq {text : Text} (plain : IsPlain text) :
    lower text = text.map (·.mapChar lowerSingle) :=
  plain.lowerAfter_eq []

/-- A class that ignores case has a code point when it has its lowercase form. -/
theorem IgnoresCase.isIn_mapChar {p : Char → Bool} (ignores : IgnoresCase p) (point : CodePoint) :
    (point.mapChar lowerSingle).isIn p = point.isIn p := by
  cases point with
  | char c => exact ignores.single c
  | surrogate index => rfl

/-- The runs of a plain text in lower case are its runs in lower case. -/
theorem IgnoresCase.runs_lower {p : Char → Bool} (ignores : IgnoresCase p) {text : Text}
    (plain : IsPlain text) : runs (·.isIn p) (lower text) = (runs (·.isIn p) text).map lower := by
  rw [plain.lower_eq, runs_map fun point _ => ignores.isIn_mapChar point]
  apply List.map_congr_left
  intro run member
  have part : IsPlain run :=
    ⟨plain.undotted.of_mem_runs member, mt (mem_of_mem_runs member) plain.noSigma⟩
  exact part.lower_eq.symm

/-- A plain text is blank exactly when its lowercase form is. -/
theorem isBlank_lower {text : Text} (plain : IsPlain text) :
    isBlank (lower text) = isBlank text := by
  rw [plain.lower_eq, isBlank, isBlank, List.all_map]
  congr 1
  funext point
  exact ignoresCase_isBlankChar.isIn_mapChar point

end FieldSearch.Text
