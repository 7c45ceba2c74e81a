import FieldSearch.Json.Reader
import FieldSearch.Proofs.Failure
import FieldSearch.Proofs.Json.Lexeme

/-!
# Integers with too many digits

Reading a text ends in one of three ways: with a value, with a fault, or at an integer that has more
digits than are allowed. The last happens at an integer literal that stands where a value may come
next, after lexemes that can be read.
-/

namespace FieldSearch.Json

/-! ## Lexemes -/

/-- A text begins with an integer of more digits than are allowed: a sign or none, then the digits,
not with a zero in front, and after them nothing that belongs to the number. -/
def BeginsWithLongInteger (digits : Nat) (text : Text) : Prop :=
  ∃ whole rest, afterSign ['-'] text = whole ++ rest ∧ whole.length = digits ∧
    maxIntegerDigits < digits ∧ (∀ point ∈ whole, point.isIn Char.isDigit) ∧
    whole.head? ≠ some (.char '0') ∧ ¬BeginsWithDigit rest ∧ ¬BeginsWithFraction rest ∧
    ¬BeginsWithExponent rest

/-- A text that begins with a long integer gives no other number. -/
theorem numberLexeme_of_beginsWithLongInteger {digits : Nat} {text : Text}
    (begins : BeginsWithLongInteger digits text) :
    numberLexeme text = (.longInteger digits, []) := by
  obtain ⟨whole, rest, parts, rfl, long, allDigits, nonzero, ends, fraction, exponent⟩ := begins
  have several : 1 < whole.length := Nat.lt_trans (by decide) long
  have nonempty : whole.isEmpty = false := by
    rw [List.isEmpty_eq_false_iff]
    rintro rfl
    exact absurd several (by decide)
  have taken : takeWhole (afterSign ['-'] text) = (whole, rest) :=
    (takeWhole_eq_iff several).mpr ⟨takeDigits_eq_iff.mpr ⟨parts, allDigits, ends⟩, nonzero⟩
  have noFraction := (takeFraction_eq_or rest).resolve_left fun found => fraction found.1
  have noExponent := (takeExponent_eq_or rest).resolve_left fun found => exponent found.1
  obtain ⟨negative, same⟩ := numberLexeme_eq text
  rw [same]
  simp only [taken, nonempty, noFraction.2, noExponent.2, long, List.isEmpty_nil,
    Option.isNone_none, Bool.and_self, Bool.false_eq_true, ↓reduceIte]

/-- Where the number that is read is a long integer the text begins with one. -/
theorem beginsWithLongInteger_of_numberLexeme {digits : Nat} {text : Text}
    (read : (numberLexeme text).1 = .longInteger digits) : BeginsWithLongInteger digits text := by
  obtain ⟨negative, same⟩ := numberLexeme_eq text
  rw [same] at read
  cases taken : takeWhole (afterSign ['-'] text) with
  | mk whole rest =>
  rw [taken] at read
  by_cases empty : whole.isEmpty = true
  · simp only [empty, ↓reduceIte] at read
    cases read
  · rcases takeFraction_eq_or rest with ⟨_, more⟩ | ⟨fraction, noFraction⟩
    · simp only [empty, more, Bool.false_and, Bool.false_eq_true, ↓reduceIte] at read
      cases read
    · rcases takeExponent_eq_or rest with ⟨_, more⟩ | ⟨exponent, noExponent⟩
      · simp only [empty, noFraction, more, Bool.and_false, Bool.false_eq_true, ↓reduceIte] at read
        cases read
      · simp only [empty, noFraction, noExponent, List.isEmpty_nil, Option.isNone_none,
          Bool.and_self, Bool.false_eq_true, ↓reduceIte] at read
        split at read
        next long =>
          cases read
          have several : 1 < whole.length := Nat.lt_trans (by decide) long
          obtain ⟨digitsTaken, nonzero⟩ := (takeWhole_eq_iff several).mp taken
          obtain ⟨parts, allDigits, ends⟩ := takeDigits_eq_iff.mp digitsTaken
          exact ⟨whole, rest, parts, rfl, long, allDigits, nonzero, ends, fraction, exponent⟩
        next => cases read

/-- A long integer begins with a digit, perhaps after a minus. -/
theorem BeginsWithLongInteger.first_digit {digits : Nat} {text : Text}
    (begins : BeginsWithLongInteger digits text) :
    ∃ digit rest, digit.isDigit = true ∧
      (text = .char digit :: rest ∨ text = .char '-' :: .char digit :: rest) := by
  obtain ⟨whole, rest, parts, rfl, long, allDigits, -⟩ := begins
  match whole with
  | [] => exact absurd long (by decide)
  | .surrogate _ :: _ => exact nomatch allDigits _ List.mem_cons_self
  | .char digit :: whole =>
    refine ⟨digit, whole ++ rest, allDigits _ List.mem_cons_self, ?_⟩
    rcases afterSign_eq_or ['-'] text with same | ⟨sign, member, signed⟩
    · exact Or.inl (same.symm.trans parts)
    · cases List.mem_singleton.mp member
      exact Or.inr (by rw [signed, parts]; rfl)

/-- No literal begins with a digit or with a minus before one. -/
theorem literals_find?_eq_none {digit : Char} (isDigit : digit.isDigit = true) {text rest : Text}
    (begins : text = .char digit :: rest ∨ text = .char '-' :: .char digit :: rest) :
    literals.find? (fun literal => literal.1.isPrefixOf text) = none := by
  have digitless : ∀ literal ∈ literals, 2 ≤ literal.1.length ∧
      ∀ point ∈ literal.1, ¬point.isIn Char.isDigit := by
    decide
  rw [List.find?_eq_none]
  rintro ⟨name, value⟩ member found
  obtain ⟨long, none⟩ := digitless (name, value) member
  obtain ⟨later, same⟩ := List.isPrefixOf_iff_prefix.mp found
  match name with
  | [] => exact absurd long (Nat.not_succ_le_zero 1)
  | [_] => exact absurd long (Nat.lt_irrefl 1)
  | first :: second :: others =>
    rcases begins with rfl | rfl
    · cases same
      exact none _ List.mem_cons_self isDigit
    · cases same
      exact none _ (List.mem_cons_of_mem _ List.mem_cons_self) isDigit

/-- A text that begins with a long integer gives it as its first lexeme. -/
theorem lexeme_of_beginsWithLongInteger {digits : Nat} {text : Text}
    (begins : BeginsWithLongInteger digits text) : lexeme text = (.longInteger digits, []) := by
  obtain ⟨digit, rest, isDigit, first⟩ := begins.first_digit
  have word : wordLexeme text = (.longInteger digits, []) := by
    rw [wordLexeme, literals_find?_eq_none isDigit first]
    exact numberLexeme_of_beginsWithLongInteger begins
  rcases first with rfl | rfl
  · have unquoted : digit ≠ '"' := by
      rintro rfl
      exact absurd isDigit (by decide)
    have digitless : ∀ mark ∈ ['\x7b', '\x7d', '[', ']', ',', ':'], ¬mark.isDigit := by simp
    have unmarked : ¬isMark digit := fun marked =>
      digitless digit (List.contains_iff_mem.mp marked) isDigit
    rw [lexeme, if_neg unquoted, if_neg unmarked]
    exact word
  · exact word

/-- Where the first lexeme is a long integer the text begins with one. -/
theorem beginsWithLongInteger_of_lexeme {digits : Nat} {text : Text}
    (read : (lexeme text).1 = .longInteger digits) : BeginsWithLongInteger digits text := by
  unfold lexeme at read
  split at read
  next c rest =>
    split at read
    · unfold stringLexeme at read
      split at read <;> cases read
    · split at read
      · cases read
      · unfold wordLexeme at read
        split at read
        · cases read
        · exact beginsWithLongInteger_of_numberLexeme read
  next => cases read

/-- An integer with too many digits is the last lexeme of a text. -/
theorem longInteger_of_firstLexemes {count digits : Nat} {text place : Text}
    {earlier later : List (Lexeme × Text)}
    (lexed : firstLexemes count text = earlier ++ (.longInteger digits, place) :: later) :
    BeginsWithLongInteger digits place ∧ later = [] := by
  induction count generalizing text earlier with
  | zero => simp [firstLexemes] at lexed
  | succ count ih =>
    cases dropped : text.dropWhile (·.isIn isBlank) with
    | nil => simp [firstLexemes, dropped] at lexed
    | cons point others =>
      rw [firstLexemes_succ dropped] at lexed
      cases earlier with
      | nil =>
        -- The integer is the first lexeme here, and leaves nothing to read after it.
        simp only [List.nil_append, List.cons.injEq, Prod.mk.injEq] at lexed
        obtain ⟨⟨read, rfl⟩, rest⟩ := lexed
        have begins := beginsWithLongInteger_of_lexeme read
        rw [lexeme_of_beginsWithLongInteger begins, firstLexemes_nil] at rest
        exact ⟨begins, rest.symm⟩
      | cons entry earlier =>
        simp only [List.cons_append, List.cons.injEq] at lexed
        exact ih lexed.2

/-! ## Reading -/

namespace ReadState

/-- Only where a value is expected does an integer with too many digits end the reading. -/
theorem step_eq_longInteger_iff {state : ReadState} {lexeme : Lexeme} {place : Text}
    {digits : Nat} :
    state.step (lexeme, place) = .error (.longInteger digits) ↔
      lexeme = .longInteger digits ∧ ∃ mayClose, state.stage = .value mayClose := by
  obtain ⟨frames, stage⟩ := state
  cases stage with
  | value mayClose =>
    simp only [step]
    cases lexeme with
    | mark symbol =>
      -- A closing bracket is read by what is open, and so is a case of its own.
      unfold readValue
      split <;> try split
      all_goals simp_all
    | string text => simp [readValue]
    | scalar value => simp [readValue]
    | brokenString fault place => simp [readValue]
    | longInteger digits => simp [readValue]
    | stray => simp [readValue]
  | name members mayClose =>
    simp only [step, readName]
    split <;> try split
    all_goals simp
  | colon members name =>
    simp only [step, readColon]
    split <;> simp
  | complete value =>
    simp only [step, readDelimiter]
    split <;> try split
    all_goals simp

/-- At the end of a text no long integer is met any more. -/
theorem finish_ne_longInteger (state : ReadState) (digits : Nat) :
    state.finish ≠ .error (.longInteger digits) := by
  unfold finish
  split <;> simp

end ReadState

/-- The reader meets an integer with too many digits: it can read the lexemes before the integer,
and after them a value may come. The integer stands in the text, and is its last lexeme. -/
def MeetsLongInteger (digits : Nat) (text : Text) : Prop :=
  text.head? ≠ some (.char '\uFEFF') ∧ ∃ earlier place state mayClose,
    place <:+ text ∧ BeginsWithLongInteger digits place ∧
      lexemes text = earlier ++ [(.longInteger digits, place)] ∧
      earlier.foldlM ReadState.step .initial = .ok state ∧ state.stage = .value mayClose

/-- Reading fails with a long integer exactly when the reader meets it. -/
theorem read_eq_longInteger_iff {digits : Nat} {text : Text} :
    read text = .error (.longInteger digits) ↔ MeetsLongInteger digits text := by
  unfold read
  by_cases marked : text.head? = some (.char '\uFEFF')
  · simp [marked, MeetsLongInteger]
  · rw [if_neg marked]
    constructor
    · intro failed
      have folded : (lexemes text).foldlM ReadState.step .initial =
          .error (.longInteger digits) := by
        cases run : (lexemes text).foldlM ReadState.step .initial with
        | error fault =>
          rw [run] at failed
          cases failed
          rfl
        | ok state =>
          rw [run] at failed
          exact (state.finish_ne_longInteger digits failed).elim
      obtain ⟨earlier, ⟨lexeme, place⟩, later, state, lexed, passed, failed⟩ :=
        foldlM_eq_error_iff.mp folded
      obtain ⟨rfl, mayClose, expected⟩ := ReadState.step_eq_longInteger_iff.mp failed
      obtain ⟨begins, rfl⟩ := longInteger_of_firstLexemes lexed
      have last : (.longInteger digits, place) ∈ lexemes text := by
        rw [lexed]
        exact List.mem_append_right earlier List.mem_cons_self
      have inside : place <:+ text := suffix_of_mem_firstLexemes last
      exact ⟨marked, earlier, place, state, mayClose, inside, begins, lexed, passed, expected⟩
    · rintro ⟨_, earlier, place, state, mayClose, _, _, lexed, passed, expected⟩
      have folded : (lexemes text).foldlM ReadState.step .initial =
          .error (.longInteger digits) :=
        foldlM_eq_error_iff.mpr ⟨earlier, _, [], state, lexed, passed,
          ReadState.step_eq_longInteger_iff.mpr ⟨rfl, mayClose, expected⟩⟩
      rw [folded]
      rfl

/-- A long integer at the front of a text is met. -/
theorem meetsLongInteger_of_begins {digits : Nat} {text : Text}
    (begins : BeginsWithLongInteger digits text) : MeetsLongInteger digits text := by
  obtain ⟨digit, rest, isDigit, first⟩ := begins.first_digit
  have unblank : isBlank digit = false := by
    have digitless : ∀ blank ∈ [' ', '\t', '\n', '\r'], ¬blank.isDigit := by simp
    rw [← Bool.not_eq_true]
    intro blank
    refine digitless digit ?_ isDigit
    simpa [isBlank, or_assoc] using blank
  obtain ⟨point, others, rfl, kept, unmarked⟩ : ∃ point others, text = point :: others ∧
      point.isIn isBlank = false ∧ point ≠ .char '\uFEFF' := by
    rcases first with rfl | rfl
    · refine ⟨_, _, rfl, unblank, ?_⟩
      rintro ⟨⟩
      exact absurd isDigit (by decide)
    · exact ⟨_, _, rfl, by decide, by decide⟩
  have dropped : (point :: others).dropWhile (·.isIn isBlank) = point :: others :=
    List.dropWhile_cons_of_neg (by simp [kept])
  have lexed : lexemes (point :: others) = [(.longInteger digits, point :: others)] := by
    rw [lexemes, List.length_cons, firstLexemes_succ dropped,
      lexeme_of_beginsWithLongInteger begins, firstLexemes_nil]
  exact ⟨fun mark => unmarked (Option.some.inj mark), [], _, .initial, false, List.suffix_refl _,
    begins, lexed, rfl, rfl⟩

/-- Only a text with more digits in a row than are allowed makes the reader meet such an integer. -/
theorem MeetsLongInteger.digits_infix {digits : Nat} {text : Text}
    (meets : MeetsLongInteger digits text) :
    ∃ whole, whole <:+: text ∧ whole.length = digits ∧ maxIntegerDigits < digits ∧
      ∀ point ∈ whole, point.isIn Char.isDigit := by
  obtain ⟨_, _, place, _, _, inside, begins, _⟩ := meets
  obtain ⟨whole, rest, parts, length, long, allDigits, _⟩ := begins
  have front : whole <+: afterSign ['-'] place := ⟨rest, parts.symm⟩
  have unsigned : afterSign ['-'] place <:+ text := (suffix_afterSign ['-'] place).trans inside
  exact ⟨whole, front.isInfix.trans unsigned.isInfix, length, long, allDigits⟩

end FieldSearch.Json
