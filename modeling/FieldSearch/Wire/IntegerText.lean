import FieldSearch.Json.Lexeme
import FieldSearch.Text.Blank

/-!
# Integers as texts

A plain integer is a zero or a row of digits that begins with another, perhaps after a minus sign.
A text that is not a plain integer is tidied and read again: spaces around it, a plus sign, zeros
at its front, a fraction of zeros and single low lines are left out. Only a text that begins like
a plain integer as it stands can be too long; one that would be too long after tidying is as
malformed as any other.
-/

namespace FieldSearch.Wire

open Json (digitsValue takeWhole)

/-- Splits off a sign at the front; the first part says whether it is a minus. -/
def takeSign (text : Text) : Bool × Text :=
  match text with
  | .char '-' :: rest => (true, rest)
  | .char '+' :: rest => (false, rest)
  | _ => (false, text)

/-- Whether the low lines of a text stand singly and none stands at its end. -/
def hasSingleLowLines : Text → Bool
  | [] => true
  | [.char '_'] => false
  | .char '_' :: .char '_' :: _ => false
  | _ :: rest => hasSingleLowLines rest

/-- A text without its low lines, if each stands singly between other characters. -/
def joinGroups? (text : Text) : Option (Text) :=
  if text.head? ≠ some (.char '_') && hasSingleLowLines text then
    some (text.filter (· ≠ .char '_'))
  else none

/-- What a text denotes that should denote an integer. -/
inductive IntegerText
  | value (n : Int)
  | tooLong
  | malformed
deriving DecidableEq, Repr

namespace IntegerText

/-- The greatest number of characters of a plain integer, its minus sign included. -/
def maxCharacters : Nat := 4300

/-- Reads a plain integer. Its length is looked at before what follows it. -/
def readPlain (text : Text) : IntegerText :=
  let (negative, unsigned) :=
    match text with
    | .char '-' :: rest => (true, rest)
    | _ => (false, text)
  let (digits, rest) := takeWhole unsigned
  if digits.isEmpty then .malformed
  else if maxCharacters < text.length - rest.length then .tooLong
  else if rest.isEmpty then
    let magnitude : Int := digitsValue digits
    .value (if negative then -magnitude else magnitude)
  else .malformed

/-- A text without the zeros at its front and the low lines among them. Unless a digit or a minus
sign comes next, the last of these characters is kept. -/
def dropLeadingZeros (text : Text) : Text :=
  if text.head? = some (.char '0') then
    let (zeros, rest) := text.span (·.isIn fun c => c = '0' || c = '_')
    if rest.head?.any (·.isIn fun c => c.isDigit || c = '-') then rest
    else zeros.drop (zeros.length - 1) ++ rest
  else text

/-- A text without its part from the first point on, if that is a point and zeros. -/
def dropZeroFraction (text : Text) : Text :=
  let (whole, fraction) := text.span (· ≠ .char '.')
  match fraction with
  | _ :: zeros => if !zeros.isEmpty && zeros.all (· = .char '0') then whole else text
  | [] => text

/-- A text without what may be left out of an integer. A sign is followed by no minus sign. -/
def tidy? (text : Text) : Option (Text) :=
  let (negative, unsigned) := takeSign (Text.trimSpaces text)
  if unsigned.head? = some (.char '-') then none
  else
    let digits := dropZeroFraction (dropLeadingZeros unsigned)
    let digits := (joinGroups? digits).getD digits
    some (if negative then .char '-' :: digits else digits)

/-- Reads a text as a plain integer, or else tidied as one. -/
def read (text : Text) : IntegerText :=
  match readPlain text with
  | .malformed =>
    match (tidy? text).map readPlain with
    | some (.value n) => .value n
    | _ => .malformed
  | reading => reading

end IntegerText

end FieldSearch.Wire
