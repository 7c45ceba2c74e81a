import FieldSearch.Wire.IntegerText
import FieldSearch.Wire.Problem

/-!
# Accepted scalars

A parameter of a document accepts more than the values of its own type. An integer may be written
as a truth value, as a number without a fractional part or as a text, a number likewise, and a
truth value as zero or one or by one of a few words. A text must be a text. Each function says
what is accepted and, of everything else, why it is not. A text that has to denote something must
be well-formed.
-/

namespace FieldSearch.Wire

open Json (digitsValue takeDigits takeExponent)

/-- Accepts strings only. -/
def acceptText : Json → Checked Text
  | .str text => .accepted text
  | _ => .refuse .notText

/-- Accepts strings and null. -/
def acceptOptionalText : Json → Checked (Option Text)
  | .null => .accepted none
  | value => (acceptText value).map some

/-- Accepts what a text denotes, if the text is well-formed. -/
def acceptDenoted {α : Type} (text : Text) (accept : Text → Checked α) : Checked α :=
  if text.isWellFormed then accept text else .refuse .notUnicode

/-- Accepts as an integer a text that denotes one. -/
def acceptIntegerText (text : Text) : Checked Int :=
  match IntegerText.read text with
  | .value n => .accepted n
  | .tooLong => .refuse .integerTooLarge
  | .malformed => .refuse .notIntegerText

/-- Whether an integer lies strictly between `-2 ^ 63` and `2 ^ 63`. -/
def isWordSized (n : Int) : Bool :=
  -0x8000000000000000 < n && n < 0x8000000000000000

/-- Accepts integers, truth values, numbers that equal an integer of word size, and integer
texts. -/
def acceptInteger : Json → Checked Int
  | .int n => .accepted n
  | .bool b => .accepted (if b then 1 else 0)
  | .float x =>
    if !x.isFinite then .refuse .notFinite
    else
      match x.toInt? with
      | none => .refuse .fractional
      | some n => if isWordSized n then .accepted n else .refuse .integerTooLarge
  | .str text => acceptDenoted text acceptIntegerText
  | _ => .refuse .notInteger

/-- The number that an unsigned text denotes: decimal digits with a point before, between or after
them and perhaps an exponent, or a word for an infinity or for what is not a number. The last has a
payload that values of JSON text do not have. -/
def unsignedNumber? (negative : Bool) (text : Text) : Option Binary64 :=
  let word := text.map (·.mapChar Char.toLower)
  if word = Text.ofString "inf" || word = Text.ofString "infinity" then some (.infinite negative)
  else if word = Text.ofString "nan" then some (.nan 1)
  else
    let (whole, rest) := takeDigits text
    let (fraction, rest) :=
      match rest with
      | .char '.' :: rest => takeDigits rest
      | _ => ([], rest)
    let (exponent, rest) := takeExponent rest
    if (whole ++ fraction).isEmpty || !rest.isEmpty then none
    else
      some (Binary64.ofDecimal negative (digitsValue (whole ++ fraction))
        (exponent.getD 0 - fraction.length))

/-- The number that a text with or without a sign denotes. -/
def signedNumber? (text : Text) : Option Binary64 :=
  let (negative, unsigned) := takeSign text
  unsignedNumber? negative unsigned

/-- The number that a text denotes. There may be spaces around it or single low lines in it, but
not both. -/
def numberText? (text : Text) : Option Binary64 :=
  match signedNumber? text.trimSpaces with
  | some x => some x
  | none => (joinGroups? text).bind signedNumber?

/-- Accepts as a number a text that denotes one. -/
def acceptNumberText (text : Text) : Checked Binary64 :=
  match numberText? text with
  | some x => .accepted x
  | none => .refuse .notNumberText

/-- Accepts numbers, truth values and number texts. An integer is rounded, and one beyond all
finite numbers is refused. -/
def acceptNumber : Json → Checked Binary64
  | .float x => .accepted x
  | .int n =>
    let x := Binary64.ofInt n
    if x.isFinite then .accepted x else .refuse .notNumber
  | .bool b => .accepted (Binary64.ofInt (if b then 1 else 0))
  | .str text => acceptDenoted text acceptNumberText
  | _ => .refuse .notNumber

/-- The words for true. -/
def trueWords : List Text :=
  ["1", "on", "t", "true", "y", "yes"]

/-- The words for false. -/
def falseWords : List Text :=
  ["0", "off", "f", "false", "n", "no"]

/-- Accepts an integer as a truth value. -/
def acceptBooleanInteger (n : Int) : Checked Bool :=
  if n = 0 then .accepted false
  else if n = 1 then .accepted true
  else if -0x8000000000000000 ≤ n ∧ n < 0x8000000000000000 then .refuse .notBooleanValue
  else .refuse .notBoolean

/-- Accepts as a truth value a word for one, in any case of its letters. -/
def acceptBooleanWord (text : Text) : Checked Bool :=
  let word := text.map (·.mapChar Char.toLower)
  if trueWords.contains word then .accepted true
  else if falseWords.contains word then .accepted false
  else .refuse .notBooleanValue

/-- Accepts truth values, zero and one as integers or other numbers, and the words for true and
false. -/
def acceptBoolean : Json → Checked Bool
  | .bool b => .accepted b
  | .int n => acceptBooleanInteger n
  | .float x =>
    match x.toInt? with
    | some n => if isWordSized n then acceptBooleanInteger n else .refuse .notBoolean
    | none => .refuse .notBoolean
  | .str text => acceptDenoted text acceptBooleanWord
  | _ => .refuse .notBoolean

/-- Accepts null and an array whose items are texts or null. -/
def acceptOptionalTexts : Json → Checked (Option (List (Option Text)))
  | .null => .accepted none
  | .arr items =>
    (Checked.collect (items.mapIdx fun index item =>
      (acceptOptionalText item).under (.item index))).map some
  | _ => .refuse .notSequence

/-- Accepts one text only. -/
def acceptLiteral (expected : Text) : Json → Checked Text
  | .str text =>
    acceptDenoted text fun text =>
      if text = expected then .accepted text else .refuse (.notOneOf [expected])
  | _ => .refuse (.notOneOf [expected])

end FieldSearch.Wire
