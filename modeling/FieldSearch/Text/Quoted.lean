import FieldSearch.Text.Basic
import FieldSearch.Text.Printable

/-!
# Quoted texts

A quoted text stands between apostrophes, or between double quotes when it holds an apostrophe
and no double quote. Inside, the backslash and the chosen quote are escaped by a backslash, line
feed, carriage return and tab by their letters, and every other code point that is not a printable
character by its hexadecimal number in two, four or eight digits.
-/

namespace FieldSearch.Text

/-- The last `count` hexadecimal digits of a number, in lower case. -/
def hexDigits : (count : Nat) → Nat → List Char
  | 0, _ => []
  | count + 1, n => hexDigits count (n / 16) ++ [Nat.digitChar (n % 16)]

/-- The escape by code point: `\xhh`, `\uhhhh` or `\Uhhhhhhhh`, the shortest that has room. -/
def escapeCode (code : Nat) : List Char :=
  if code < 0x100 then '\\' :: 'x' :: hexDigits 2 code
  else if code < 0x10000 then '\\' :: 'u' :: hexDigits 4 code
  else '\\' :: 'U' :: hexDigits 8 code

/-- One character as it stands between the given quotes. -/
def quotedChar (quote c : Char) : List Char :=
  if c = quote ∨ c = '\\' then ['\\', c]
  else if c = '\n' then ['\\', 'n']
  else if c = '\r' then ['\\', 'r']
  else if c = '\t' then ['\\', 't']
  else if isPrintable c then [c]
  else escapeCode c.toNat

/-- One code point as it stands between the given quotes. -/
def quotedPoint (quote : Char) : CodePoint → List Char
  | .char c => quotedChar quote c
  | .surrogate index => escapeCode (CodePoint.surrogate index).toNat

/-- The quote that a text is written in. -/
def quoteFor (text : Text) : Char :=
  if text.contains (.char '\'') && !text.contains (.char '"') then '"' else '\''

/-- A text between quotes. -/
def quoted (text : Text) : Text :=
  let quote := quoteFor text
  ofChars (quote :: text.flatMap (quotedPoint quote) ++ [quote])

end FieldSearch.Text
