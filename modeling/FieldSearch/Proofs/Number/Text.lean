import FieldSearch.Number.Shortest

/-!
# The texts of numbers

The text of an integer tells the integer. The text of a binary64 number is a word for a number that
is not finite, or it is made of digits, a point, and the letter and the sign of an exponent.
-/

namespace FieldSearch

/-! ## Integers -/

/-- A number from zero on is written by its digits. -/
theorem toList_toString_ofNat (n : Nat) : (toString (Int.ofNat n)).toList = Nat.toDigits 10 n := by
  rw [Int.toString_eq_repr]
  exact Nat.toList_repr

/-- A number below zero is written by a minus and its digits. -/
theorem toList_toString_negSucc (n : Nat) :
    (toString (Int.negSucc n)).toList = '-' :: Nat.toDigits 10 (n + 1) := by
  rw [Int.toString_eq_repr]
  change ("-" ++ (n + 1).repr).toList = _
  rw [String.toList_append, Nat.toList_repr]
  rfl

/-- Numbers with the same digits are the same. -/
theorem eq_of_toDigits_eq {first second : Nat}
    (same : Nat.toDigits 10 first = Nat.toDigits 10 second) : first = second := by
  have read := congrArg (fun digits => Nat.ofDigitChars 10 digits 0) same
  simpa only [Nat.ofDigitChars_ten_toDigits] using read

/-- There is no minus among digits. -/
theorem minus_notMem_toDigits (n : Nat) : '-' ∉ Nat.toDigits 10 n := by
  intro member
  cases Nat.isDigit_of_mem_toDigits (by decide) (by decide) member

/-- Numbers with the same text are the same. -/
theorem eq_of_toString_eq {first second : Int} (same : toString first = toString second) :
    first = second := by
  replace same := congrArg String.toList same
  cases first with
  | ofNat first =>
    cases second with
    | ofNat second =>
      rw [toList_toString_ofNat, toList_toString_ofNat] at same
      exact congrArg Int.ofNat (eq_of_toDigits_eq same)
    | negSucc second =>
      rw [toList_toString_ofNat, toList_toString_negSucc] at same
      exact absurd (by rw [same]; exact List.mem_cons_self) (minus_notMem_toDigits first)
  | negSucc first =>
    cases second with
    | ofNat second =>
      rw [toList_toString_negSucc, toList_toString_ofNat] at same
      exact absurd (by rw [← same]; exact List.mem_cons_self) (minus_notMem_toDigits second)
    | negSucc second =>
      rw [toList_toString_negSucc, toList_toString_negSucc] at same
      exact congrArg Int.negSucc (Nat.succ.inj (eq_of_toDigits_eq (List.cons.inj same).2))

/-! ## Binary64 numbers -/

namespace Binary64

/-- A character of a finite number. -/
def IsNumeral (c : Char) : Prop :=
  c.isDigit ∨ c ∈ ['.', 'e', '-', '+']

/-- A padded number is written with numerals only. -/
theorem isNumeral_of_mem_padded {width n : Nat} {c : Char} (member : c ∈ padded width n) :
    IsNumeral c := by
  rw [padded, List.mem_append] at member
  rcases member with zero | digit
  · rw [List.eq_of_mem_replicate zero]
    exact .inl rfl
  · exact .inl (Nat.isDigit_of_mem_toDigits (by decide) (by decide) digit)

/-- A decimal is written with numerals only. -/
theorem isNumeral_of_mem_write {layout : DecimalLayout} {digits : List Char} {leading : Int}
    {c : Char} (numerals : ∀ digit ∈ digits, IsNumeral digit)
    (member : c ∈ layout.write digits leading) : IsNumeral c := by
  have zero : IsNumeral '0' := .inl rfl
  have point : IsNumeral '.' := .inr (by decide)
  have exponent : IsNumeral 'e' := .inr (by decide)
  have minus : IsNumeral '-' := .inr (by decide)
  have plus : IsNumeral '+' := .inr (by decide)
  have taken {count : Nat} : ∀ digit ∈ digits.take count, IsNumeral digit := fun digit inside =>
    numerals digit (List.mem_of_mem_take inside)
  have dropped {count : Nat} : ∀ digit ∈ digits.drop count, IsNumeral digit := fun digit inside =>
    numerals digit (List.mem_of_mem_drop inside)
  have padding := @isNumeral_of_mem_padded layout.exponentDigits leading.natAbs
  revert c
  unfold DecimalLayout.write
  split
  · split <;> grind
  · grind

/-- The significant digits of a number are digits. -/
theorem isDigit_of_mem_significantDigits {n : Nat} {c : Char}
    (member : c ∈ (significantDigits n).1) : c.isDigit := by
  have inDigits : c ∈ Nat.toDigits 10 n := by
    rw [significantDigits, List.mem_reverse] at member
    exact List.mem_reverse.mp (List.dropWhile_subset _ member)
  exact Nat.isDigit_of_mem_toDigits (by decide) (by decide) inDigits

/-- A finite number is written in numerals. -/
theorem isNumeral_of_mem_text {negative : Bool} {mantissa : Nat} {exponent : Int} {c : Char}
    (member : c ∈ (text (.finite negative mantissa exponent)).toList) : IsNumeral c := by
  have signed {magnitude : List Char}
      (member : c ∈ if negative then '-' :: magnitude else magnitude) :
      c = '-' ∨ c ∈ magnitude := by
    split at member
    · exact List.mem_cons.mp member
    · exact .inr member
  rw [text, String.toList_ofList] at member
  rcases signed member with rfl | unsigned
  · exact .inr (by decide)
  · split at unsigned
    · have zero : ∀ c ∈ ['0', '.', '0'], IsNumeral c := by simp [IsNumeral]
      exact zero c unsigned
    · exact isNumeral_of_mem_write (fun _ digit => .inl (isDigit_of_mem_significantDigits digit))
        unsigned

/-- No number is written with a caret. -/
theorem caret_notMem_text (x : Binary64) : '^' ∉ (text x).toList := by
  cases x with
  | nan payload =>
    change '^' ∉ "nan".toList
    decide
  | infinite negative => cases negative <;> decide
  | finite negative mantissa exponent =>
    intro member
    have numeral := isNumeral_of_mem_text member
    revert numeral
    simp [IsNumeral]

end Binary64

end FieldSearch
