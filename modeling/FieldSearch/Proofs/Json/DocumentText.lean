import FieldSearch.Proofs.Condition.Reading
import FieldSearch.Proofs.Json.LongInteger
import FieldSearch.Proofs.Schema.Construction

/-!
# Documents in JSON text

A text gives a condition, or a schema, or a report of what is wrong with it. This fails in a single
case: when a reader meets an integer with too many digits, its failure is passed on as it is.
-/

namespace FieldSearch

open Json (BeginsWithLongInteger MeetsLongInteger maxIntegerDigits read_eq_longInteger_iff)

/-- An operation on a text that passes on integers with too many digits, and is orderly on all
other texts, is orderly exactly on those where the reader does not meet such an integer. -/
theorem endsInOrder_iff_of_read {α : Type} {known : SearchError → Prop}
    {result : Except Failure α} {text : Text}
    (long : ∀ digits, Json.read text = .error (.longInteger digits) →
      result = .error (.longInteger digits))
    (short : (∀ digits, Json.read text ≠ .error (.longInteger digits)) →
      EndsInOrder known (fun _ => True) result) :
    (EndsInOrder known (fun _ => True) result ↔ ∀ digits, ¬MeetsLongInteger digits text) ∧
      ∀ digits, result = .error (.longInteger digits) ↔ MeetsLongInteger digits text := by
  have orderly : (∀ digits, ¬MeetsLongInteger digits text) →
      EndsInOrder known (fun _ => True) result := by
    intro none
    exact short fun digits failed => none digits (read_eq_longInteger_iff.mp failed)
  have passedOn : ∀ digits, MeetsLongInteger digits text → result = .error (.longInteger digits) :=
    fun digits meets => long digits (read_eq_longInteger_iff.mpr meets)
  refine ⟨⟨?_, orderly⟩, fun digits => ⟨?_, passedOn digits⟩⟩
  · intro ends digits meets
    exact ends.ne_longInteger digits (passedOn digits meets)
  · intro failed
    by_cases meets : ∃ other, MeetsLongInteger other text
    · obtain ⟨other, meets⟩ := meets
      cases failed.symm.trans (passedOn other meets)
      exact meets
    · exact ((orderly (not_exists.mp meets)).ne_longInteger digits failed).elim

/-! ## Conditions -/

/-- No condition is read from a text with an integer of too many digits. -/
theorem Condition.ofText_of_read_longInteger {text : Text} {digits : Nat}
    (failed : Json.read text = .error (.longInteger digits)) :
    ofText text = .error (.longInteger digits) := by
  rw [ofText, failed]

/-- A text without such an integer gives a condition or the report of a malformed document. -/
theorem Condition.endsInOrder_ofText {text : Text}
    (short : ∀ digits, Json.read text ≠ .error (.longInteger digits)) :
    EndsInOrder SearchError.OfConditionDocument (fun _ => True) (ofText text) := by
  unfold ofText
  split
  next document read =>
    exact .of_mapError fun report failed => ofConditionDocument_of_ofDocument failed
  next => exact .report _ (.malformed _ _ _)
  next digits failed => exact (short digits failed).elim

/-- A condition is read in order exactly from the texts in which no such integer is met. -/
theorem Condition.endsInOrder_ofText_iff (text : Text) :
    (EndsInOrder SearchError.OfConditionDocument (fun _ => True) (ofText text) ↔
      ∀ digits, ¬MeetsLongInteger digits text) ∧
    ∀ digits, ofText text = .error (.longInteger digits) ↔ MeetsLongInteger digits text :=
  endsInOrder_iff_of_read (fun _ => ofText_of_read_longInteger) endsInOrder_ofText

/-! ## Schemas -/

variable {α : Type} [TextAnalyzer α]

/-- No schema is read from a text with an integer of too many digits. -/
theorem Schema.ofText_of_read_longInteger {text : Text} {digits : Nat}
    (failed : Json.read text = .error (.longInteger digits)) (custom : List (Text × α)) :
    ofText text custom = .error (.longInteger digits) := by
  rw [ofText, failed]

/-- A text without such an integer gives a schema or the report of one. -/
theorem Schema.endsInOrder_ofText {text : Text}
    (short : ∀ digits, Json.read text ≠ .error (.longInteger digits))
    (custom : List (Text × α)) :
    EndsInOrder SearchError.OfSchema (fun _ => True) (ofText text custom) := by
  unfold ofText
  split
  next members read => exact .of_mapError fun report failed => ofSchema_of_ofDocument failed
  next => exact .report _ (.schema _)
  next => exact .report _ (.schema _)
  next digits failed => exact (short digits failed).elim

/-- A schema is read in order exactly from the texts in which no such integer is met. -/
theorem Schema.endsInOrder_ofText_iff (text : Text) (custom : List (Text × α)) :
    (EndsInOrder SearchError.OfSchema (fun _ => True) (ofText text custom) ↔
      ∀ digits, ¬MeetsLongInteger digits text) ∧
    ∀ digits, ofText text custom = .error (.longInteger digits) ↔ MeetsLongInteger digits text :=
  endsInOrder_iff_of_read (fun _ failed => ofText_of_read_longInteger failed custom)
    fun short => endsInOrder_ofText short custom

/-! ## Texts -/

/-- A text without more digits in a row than an integer may have is safe. -/
theorem endsInOrder_ofText_of_digits {text : Text}
    (short : ∀ whole, whole <:+: text → (∀ point ∈ whole, point.isIn Char.isDigit) →
      whole.length ≤ maxIntegerDigits) (custom : List (Text × α)) :
    EndsInOrder SearchError.OfConditionDocument (fun _ => True) (Condition.ofText text) ∧
      EndsInOrder SearchError.OfSchema (fun _ => True) (Schema.ofText text custom) := by
  have unmet : ∀ digits, ¬MeetsLongInteger digits text := by
    intro digits meets
    obtain ⟨whole, inside, rfl, long, allDigits⟩ := meets.digits_infix
    exact Nat.not_le_of_lt long (short whole inside allDigits)
  exact ⟨(Condition.endsInOrder_ofText_iff text).1.mpr unmet,
    (Schema.endsInOrder_ofText_iff text custom).1.mpr unmet⟩

/-- **Every text but those with an integer of too many digits.** A text gives a condition or the
report of a malformed document exactly when the reader does not meet an integer with more digits
than are allowed, and the same holds of schemas and their reports. Otherwise neither gives a report:
both fail with the failure of the reader, which tells the number of digits. -/
theorem endsInOrder_ofText_iff_not_meetsLongInteger (text : Text)
    (custom : List (Text × α)) :
    (EndsInOrder SearchError.OfConditionDocument (fun _ => True) (Condition.ofText text) ↔
      ∀ digits, ¬MeetsLongInteger digits text) ∧
    (EndsInOrder SearchError.OfSchema (fun _ => True) (Schema.ofText text custom) ↔
      ∀ digits, ¬MeetsLongInteger digits text) ∧
    ∀ digits,
      (Condition.ofText text = .error (.longInteger digits) ↔ MeetsLongInteger digits text) ∧
      (Schema.ofText text custom = .error (.longInteger digits) ↔
        MeetsLongInteger digits text) := by
  have conditions := Condition.endsInOrder_ofText_iff text
  have schemas := Schema.endsInOrder_ofText_iff text custom
  exact ⟨conditions.1, schemas.1, fun digits => ⟨conditions.2 digits, schemas.2 digits⟩⟩

/-- A row of ones that is longer than an integer may be begins with a long integer. -/
theorem beginsWithLongInteger_ones {count : Nat} (long : maxIntegerDigits < count) :
    BeginsWithLongInteger count (List.replicate count (.char '1')) := by
  have unsigned : Json.afterSign ['-'] (List.replicate count (.char '1')) =
      List.replicate count (.char '1') := by
    cases count <;> rfl
  have ones : ∀ point ∈ List.replicate count (CodePoint.char '1'), point.isIn Char.isDigit := by
    intro point member
    rw [List.eq_of_mem_replicate member]
    decide
  refine ⟨List.replicate count (.char '1'), [], ?_, List.length_replicate, long, ones, ?_, ?_⟩
  · rw [unsigned, List.append_nil]
  · cases count <;> simp [List.replicate_succ]
  · exact ⟨by rintro ⟨_, ⟨⟩, _⟩, by rintro ⟨_, ⟨⟩, _⟩, by rintro ⟨_, _, ⟨⟩, _⟩⟩

/-- An integer of as many ones as are one too many. -/
theorem not_endsInOrder_ofText_ones :
    ¬EndsInOrder SearchError.OfConditionDocument (fun _ => True)
        (Condition.ofText (List.replicate 4301 (.char '1'))) ∧
      ¬EndsInOrder SearchError.OfSchema (fun _ => True)
        (Schema.ofText (List.replicate 4301 (.char '1')) []) := by
  have begins : BeginsWithLongInteger 4301 (List.replicate 4301 (.char '1')) :=
    beginsWithLongInteger_ones (by decide)
  have failed : Json.read (List.replicate 4301 (.char '1')) = .error (.longInteger 4301) :=
    read_eq_longInteger_iff.mpr (Json.meetsLongInteger_of_begins begins)
  constructor
  · intro ends
    exact ends.ne_longInteger 4301 (Condition.ofText_of_read_longInteger failed)
  · intro ends
    exact ends.ne_longInteger 4301 (Schema.ofText_of_read_longInteger failed [])

end FieldSearch
