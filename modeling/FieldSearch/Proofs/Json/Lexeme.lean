import FieldSearch.Json.Lexeme
import Mathlib.Data.List.TakeDrop

/-!
# Lexemes from the front

A lexeme is taken from the front of a text, and so what follows it is an end of the text. Digits are
taken as far as they go; a fraction or an exponent is taken exactly when the text begins with one.
-/

namespace FieldSearch.Json

/-! ## Parts of numbers -/

/-- A text begins with a decimal digit. -/
def BeginsWithDigit (text : Text) : Prop :=
  ∃ point ∈ text.head?, point.isIn Char.isDigit

/-- A text begins with a digit when its first code point is one. -/
theorem beginsWithDigit_cons_iff (point : CodePoint) (rest : Text) :
    BeginsWithDigit (point :: rest) ↔ point.isIn Char.isDigit := by
  simp [BeginsWithDigit]

/-- The digits at the front of a text are taken, and the rest is left. -/
theorem takeDigits_eq (text : Text) :
    takeDigits text =
      (text.takeWhile (·.isIn Char.isDigit), text.dropWhile (·.isIn Char.isDigit)) :=
  List.span_eq_takeWhile_dropWhile _ text

/-- Digits are taken from the front until there are no more. -/
theorem takeDigits_eq_iff {text digits rest : Text} :
    takeDigits text = (digits, rest) ↔
      text = digits ++ rest ∧ (∀ point ∈ digits, point.isIn Char.isDigit) ∧
        ¬BeginsWithDigit rest := by
  rw [takeDigits_eq]
  constructor
  · intro taken
    obtain ⟨rfl, rfl⟩ := Prod.mk.inj taken
    refine ⟨List.takeWhile_append_dropWhile.symm, List.all_eq_true.mp List.all_takeWhile, ?_⟩
    rintro ⟨point, first, digit⟩
    have stopped := List.head?_dropWhile_not (·.isIn Char.isDigit) text
    rw [Option.mem_def.mp first] at stopped
    simp [digit] at stopped
  · rintro ⟨rfl, digit, ends⟩
    rw [List.takeWhile_append_of_pos digit, List.dropWhile_append_of_pos digit]
    cases rest with
    | nil => simp
    | cons point rest =>
      rw [beginsWithDigit_cons_iff] at ends
      rw [List.takeWhile_cons_of_neg ends, List.dropWhile_cons_of_neg ends, List.append_nil]

/-- No digits are taken from a text that does not begin with one. -/
theorem takeDigits_isEmpty_iff (text : Text) :
    (takeDigits text).1.isEmpty = true ↔ ¬BeginsWithDigit text := by
  rw [takeDigits_eq]
  cases text with
  | nil => simp [BeginsWithDigit]
  | cons point rest =>
    rw [beginsWithDigit_cons_iff]
    by_cases digit : point.isIn Char.isDigit <;> simp [digit]

/-- A text begins with a fraction: a point and a digit. -/
def BeginsWithFraction (text : Text) : Prop :=
  ∃ rest, text = .char '.' :: rest ∧ BeginsWithDigit rest

/-- A fraction is taken where there is one, and nothing otherwise. -/
theorem takeFraction_eq_or (text : Text) :
    BeginsWithFraction text ∧ (takeFraction text).1.isEmpty = false ∨
      ¬BeginsWithFraction text ∧ takeFraction text = ([], text) := by
  unfold takeFraction
  split
  next rest =>
    rw [← Bool.not_eq_true]
    cases taken : takeDigits rest with
    | mk digits later =>
      have empty := takeDigits_isEmpty_iff rest
      rw [taken] at empty
      by_cases digit : BeginsWithDigit rest
      · left
        have nonempty : ¬digits.isEmpty = true := fun found => empty.mp found digit
        exact ⟨⟨rest, rfl, digit⟩, by simp [nonempty]⟩
      · right
        refine ⟨?_, by simp [empty.mpr digit]⟩
        rintro ⟨_, same, begins⟩
        cases same
        exact digit begins
  next other =>
    exact Or.inr ⟨fun ⟨rest, same, _⟩ => other rest same, rfl⟩

/-- The text after a sign at the front, if there is one. -/
def afterSign (signs : List Char) (text : Text) : Text :=
  match text with
  | point :: rest => if point.isIn signs.contains then rest else text
  | [] => text

/-- A text begins with an exponent: a letter, a sign or none, and a digit. -/
def BeginsWithExponent (text : Text) : Prop :=
  ∃ letter rest, text = letter :: rest ∧ (letter = .char 'e' ∨ letter = .char 'E') ∧
    BeginsWithDigit (afterSign ['-', '+'] rest)

/-- One of the signs is skipped, or nothing is. -/
theorem afterSign_eq_or (signs : List Char) (text : Text) :
    afterSign signs text = text ∨ ∃ sign ∈ signs, text = .char sign :: afterSign signs text := by
  match text with
  | [] => exact Or.inl rfl
  | .surrogate _ :: _ => exact Or.inl rfl
  | .char sign :: rest =>
    by_cases member : sign ∈ signs
    · have same : afterSign signs (.char sign :: rest) = rest :=
        if_pos (List.contains_iff_mem.mpr member)
      exact Or.inr ⟨sign, member, by rw [same]⟩
    · exact Or.inl (if_neg fun signed => member (List.contains_iff_mem.mp signed))

/-- Nothing is skipped where there is no sign. -/
theorem afterSign_eq_self {signs : List Char} {text : Text}
    (unsigned : ∀ sign ∈ signs, ∀ rest, text = .char sign :: rest → False) :
    afterSign signs text = text := by
  rcases afterSign_eq_or signs text with same | ⟨sign, member, signed⟩
  · exact same
  · exact (unsigned sign member _ signed).elim

/-- After the letter of an exponent there have to be digits, perhaps after a sign. -/
theorem takeExponent_cons {letter : CodePoint} (rest : Text)
    (lettered : letter = .char 'e' ∨ letter = .char 'E') :
    ∃ exponent, takeExponent (letter :: rest) =
      if (takeDigits (afterSign ['-', '+'] rest)).1.isEmpty then (none, letter :: rest)
      else (some exponent, (takeDigits (afterSign ['-', '+'] rest)).2) := by
  have marked : (decide (letter = .char 'e') || decide (letter = .char 'E')) = true := by
    simpa only [Bool.or_eq_true, decide_eq_true_eq] using lettered
  simp only [takeExponent, marked, ↓reduceIte]
  split
  next => exact ⟨_, rfl⟩
  next => exact ⟨_, rfl⟩
  next minus plus =>
    have same : afterSign ['-', '+'] rest = rest := by
      apply afterSign_eq_self
      simpa only [List.forall_mem_cons] using ⟨minus, plus, List.forall_mem_nil _⟩
    rw [same]
    exact ⟨_, rfl⟩

/-- An exponent is taken where there is one, and nothing otherwise. -/
theorem takeExponent_eq_or (text : Text) :
    BeginsWithExponent text ∧ (takeExponent text).1.isNone = false ∨
      ¬BeginsWithExponent text ∧ takeExponent text = (none, text) := by
  cases text with
  | nil =>
    refine Or.inr ⟨?_, rfl⟩
    rintro ⟨_, _, same, _⟩
    cases same
  | cons letter rest =>
    by_cases lettered : letter = .char 'e' ∨ letter = .char 'E'
    · obtain ⟨exponent, taken⟩ := takeExponent_cons rest lettered
      by_cases digit : BeginsWithDigit (afterSign ['-', '+'] rest)
      · rw [if_neg (fun empty => (takeDigits_isEmpty_iff _).mp empty digit)] at taken
        refine Or.inl ⟨⟨letter, rest, rfl, lettered, digit⟩, ?_⟩
        rw [taken]
        rfl
      · rw [if_pos ((takeDigits_isEmpty_iff _).mpr digit)] at taken
        refine Or.inr ⟨?_, taken⟩
        rintro ⟨_, _, same, _, begins⟩
        cases same
        exact digit begins
    · refine Or.inr ⟨?_, ?_⟩
      · rintro ⟨_, _, same, given, _⟩
        cases same
        exact lettered given
      · have marked : (decide (letter = .char 'e') || decide (letter = .char 'E')) = false := by
          simpa only [Bool.or_eq_false_iff, decide_eq_false_iff_not, not_or] using lettered
        simp only [takeExponent, marked, Bool.false_eq_true, ↓reduceIte]

/-- A whole part of several digits is all digits at the front, of which the first is not zero. -/
theorem takeWhole_eq_iff {text whole rest : Text} (long : 1 < whole.length) :
    takeWhole text = (whole, rest) ↔
      takeDigits text = (whole, rest) ∧ whole.head? ≠ some (.char '0') := by
  unfold takeWhole
  split
  next later =>
    constructor
    · rintro ⟨⟩
      exact absurd long (Nat.lt_irrefl 1)
    · rintro ⟨taken, nonzero⟩
      obtain ⟨same, _, _⟩ := takeDigits_eq_iff.mp taken
      cases whole with
      | nil => exact absurd long (by decide)
      | cons first whole =>
        cases same
        exact absurd rfl nonzero
  next other =>
    refine ⟨fun taken => ⟨taken, fun zero => ?_⟩, And.left⟩
    obtain ⟨same, _, _⟩ := takeDigits_eq_iff.mp taken
    cases whole with
    | nil => cases zero
    | cons first whole =>
      cases zero
      exact other _ same

/-- A number is taken apart after its sign. -/
theorem numberLexeme_eq (text : Text) :
    ∃ negative, numberLexeme text =
      let (whole, rest) := takeWhole (afterSign ['-'] text)
      if whole.isEmpty then (.stray, [])
      else
        let (fraction, rest) := takeFraction rest
        let (exponent, rest) := takeExponent rest
        if fraction.isEmpty && exponent.isNone then
          if maxIntegerDigits < whole.length then (.longInteger whole.length, [])
          else
            let magnitude : Int := digitsValue whole
            (.scalar (.int (if negative then -magnitude else magnitude)), rest)
        else
          (.scalar (.float (Binary64.ofDecimal negative (digitsValue (whole ++ fraction))
            (exponent.getD 0 - fraction.length))), rest) := by
  unfold numberLexeme
  split
  next negative unsigned signed =>
    refine ⟨negative, ?_⟩
    have same : afterSign ['-'] text = unsigned := by
      revert signed
      split
      · rintro ⟨⟩
        rfl
      next other =>
        rintro ⟨⟩
        apply afterSign_eq_self
        simpa only [List.forall_mem_singleton] using other
    rw [same]

/-! ## What follows a lexeme -/

/-- After one unit of a string the others are read from the rest. -/
theorem stringUnits_of_unit {opening later rest : Text} {unit : StringUnit}
    {units : List StringUnit}
    (read : (do
      let (units, rest) ← stringUnits opening later
      return (unit :: units, rest)) = Except.ok (units, rest)) :
    ∃ others, stringUnits opening later = .ok (others, rest) := by
  cases taken : stringUnits opening later with
  | error fault =>
    rw [taken] at read
    cases read
  | ok found =>
    rw [taken] at read
    cases read
    exact ⟨found.1, rfl⟩

/-- What is left after a string is an end of the text. -/
theorem suffix_of_stringUnits {opening text rest : Text} {units : List StringUnit}
    (read : stringUnits opening text = .ok (units, rest)) : rest <:+ text := by
  -- Only four of the ways to go on reach a closing quote; the others end at once with a fault.
  fun_induction stringUnits opening text generalizing units with
  | case2 later =>
    cases read
    exact List.suffix_cons _ _
  | case5 a b c d later _ _ ih =>
    obtain ⟨others, taken⟩ := stringUnits_of_unit read
    exact (ih taken).trans ⟨[_, _, a, b, c, d], rfl⟩
  | case6 letter later _ _ _ ih =>
    obtain ⟨others, taken⟩ := stringUnits_of_unit read
    exact (ih taken).trans ⟨[_, letter], rfl⟩
  | case10 point later _ _ _ _ _ ih =>
    obtain ⟨others, taken⟩ := stringUnits_of_unit read
    exact (ih taken).trans (List.suffix_cons _ _)
  | _ => cases read

/-- What is left after digits is an end of the text. -/
theorem suffix_takeDigits (text : Text) : (takeDigits text).2 <:+ text := by
  rw [takeDigits_eq]
  exact List.dropWhile_suffix _

/-- What is left after a whole part is an end of the text. -/
theorem suffix_takeWhole (text : Text) : (takeWhole text).2 <:+ text := by
  unfold takeWhole
  split
  · exact List.suffix_cons _ _
  · exact suffix_takeDigits text

/-- What is left after a fraction is an end of the text. -/
theorem suffix_takeFraction (text : Text) : (takeFraction text).2 <:+ text := by
  unfold takeFraction
  split
  next rest =>
    dsimp only
    split
    · exact List.suffix_refl _
    · exact (suffix_takeDigits rest).trans (List.suffix_cons _ _)
  · exact List.suffix_refl _

/-- What is left after a sign is an end of the text. -/
theorem suffix_afterSign (signs : List Char) (text : Text) : afterSign signs text <:+ text := by
  rcases afterSign_eq_or signs text with same | ⟨sign, _, same⟩
  · simp only [same, List.suffix_refl]
  · exact ⟨[.char sign], same.symm⟩

/-- What is left after an exponent is an end of the text. -/
theorem suffix_takeExponent (text : Text) : (takeExponent text).2 <:+ text := by
  rcases takeExponent_eq_or text with ⟨⟨letter, rest, rfl, lettered, _⟩, _⟩ | ⟨_, none⟩
  · obtain ⟨exponent, taken⟩ := takeExponent_cons rest lettered
    rw [taken]
    split
    · exact List.suffix_refl _
    · exact (suffix_takeDigits _).trans ((suffix_afterSign _ rest).trans (List.suffix_cons _ _))
  · simp only [none, List.suffix_refl]

/-- What is left after a number is an end of the text. -/
theorem suffix_numberLexeme (text : Text) : (numberLexeme text).2 <:+ text := by
  have whole := (suffix_takeWhole (afterSign ['-'] text)).trans (suffix_afterSign ['-'] text)
  have fraction := (suffix_takeFraction _).trans whole
  have exponent := (suffix_takeExponent _).trans fraction
  obtain ⟨negative, same⟩ := numberLexeme_eq text
  rw [same]
  dsimp only
  split
  · exact List.nil_suffix
  · split
    · split
      · exact List.nil_suffix
      · exact exponent
    · exact exponent

/-- What follows a lexeme is an end of the text. -/
theorem suffix_lexeme (text : Text) : (lexeme text).2 <:+ text := by
  unfold lexeme
  split
  next c rest =>
    split
    · unfold stringLexeme
      split
      next units later read => exact (suffix_of_stringUnits read).trans (List.suffix_cons _ _)
      next => exact List.nil_suffix
    · split
      · exact List.suffix_cons _ _
      · unfold wordLexeme
        split
        · exact List.drop_suffix _ _
        · exact suffix_numberLexeme _
  next => exact List.nil_suffix

theorem firstLexemes_nil (count : Nat) : firstLexemes count [] = [] := by
  cases count <;> rfl

/-- The first lexeme is read after the blanks, and the others from what it leaves. -/
theorem firstLexemes_succ {count : Nat} {text others : Text} {point : CodePoint}
    (dropped : text.dropWhile (·.isIn isBlank) = point :: others) :
    firstLexemes (count + 1) text =
      ((lexeme (point :: others)).1, point :: others) ::
        firstLexemes count (lexeme (point :: others)).2 := by
  rw [firstLexemes, dropped]

/-- The place of a lexeme is an end of the text. -/
theorem suffix_of_mem_firstLexemes {count : Nat} {text : Text} {entry : Lexeme × Text}
    (member : entry ∈ firstLexemes count text) : entry.2 <:+ text := by
  induction count generalizing text with
  | zero => cases member
  | succ count ih =>
    have unblanked : text.dropWhile (·.isIn isBlank) <:+ text := List.dropWhile_suffix _
    cases dropped : text.dropWhile (·.isIn isBlank) with
    | nil => simp [firstLexemes, dropped] at member
    | cons point others =>
      rw [dropped] at unblanked
      rw [firstLexemes_succ dropped, List.mem_cons] at member
      rcases member with rfl | later
      · exact unblanked
      · exact (ih later).trans ((suffix_lexeme _).trans unblanked)

end FieldSearch.Json
