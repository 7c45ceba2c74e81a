import FieldSearch.Json.Basic

/-!
# Lexemes of JSON text

Lexemes are read from the front of a text, with blanks between them left out. A place where no
lexeme can be read gives a lexeme of its own that says why, so that a reader reports it only when
it gets there. A place in a text is given by the text from there on.
-/

namespace FieldSearch.Json

/-- What can be wrong with JSON text at one place. -/
inductive SyntaxFault
  | expectingValue
  | expectingName
  | expectingColon
  | expectingComma
  | unterminatedString
  | controlCharacter
  | unknownEscape
  | brokenUnicodeEscape
  | extraData
  | byteOrderMark
deriving DecidableEq, Repr

/-- How a fault is described. -/
def SyntaxFault.text : SyntaxFault → Text
  | .expectingValue => "Expecting value"
  | .expectingName => "Expecting property name enclosed in double quotes"
  | .expectingColon => "Expecting ':' delimiter"
  | .expectingComma => "Expecting ',' delimiter"
  | .unterminatedString => "Unterminated string starting at"
  | .controlCharacter => "Invalid control character at"
  | .unknownEscape => "Invalid \\escape"
  | .brokenUnicodeEscape => "Invalid \\uXXXX escape"
  | .extraData => "Extra data"
  | .byteOrderMark => "Unexpected UTF-8 BOM (decode using utf-8-sig)"

/-- A lexeme: a bracket or delimiter, a string, another scalar, or a place where reading fails. A
broken string gives the fault and its place, an integer that is too long the number of its digits,
and anything else is stray. -/
inductive Lexeme
  | mark (symbol : Char)
  | string (text : Text)
  | scalar (value : Json)
  | brokenString (fault : SyntaxFault) (place : Text)
  | longInteger (digits : Nat)
  | stray

/-- Whether a character is blank between lexemes. -/
def isBlank (c : Char) : Bool :=
  c = ' ' || c = '\t' || c = '\n' || c = '\r'

/-- The value of a hexadecimal digit. -/
def hexValue? : CodePoint → Option Nat
  | .surrogate _ => none
  | .char c =>
    if '0' ≤ c && c ≤ '9' then some (c.toNat - 48)
    else if 'a' ≤ c && c ≤ 'f' then some (c.toNat - 87)
    else if 'A' ≤ c && c ≤ 'F' then some (c.toNat - 55)
    else none

/-- The number that four hexadecimal digits denote. -/
def hexQuad? (a b c d : CodePoint) : Option Nat := do
  let a ← hexValue? a
  let b ← hexValue? b
  let c ← hexValue? c
  let d ← hexValue? d
  return ((a * 16 + b) * 16 + c) * 16 + d

/-- The character that a letter after a backslash stands for. -/
def escaped? : CodePoint → Option Char
  | .char '"' => some '"'
  | .char '\\' => some '\\'
  | .char '/' => some '/'
  | .char 'b' => some '\x08'
  | .char 'f' => some '\x0c'
  | .char 'n' => some '\n'
  | .char 'r' => some '\r'
  | .char 't' => some '\t'
  | _ => none

/-- A part of a string: a code point, or a unit that a hexadecimal escape gives. -/
inductive StringUnit
  | point (point : CodePoint)
  | escape (number : Nat)
deriving DecidableEq, Repr

/-- The units of a string after its opening quote, and the text after its closing one. `opening` is
the place of the opening quote. A hexadecimal escape that ends the text is broken. -/
def stringUnits (opening : Text) : Text → Except (SyntaxFault × Text) (List StringUnit × Text)
  | [] => .error (.unterminatedString, opening)
  | .char '"' :: rest => .ok ([], rest)
  | [.char '\\'] => .error (.unterminatedString, opening)
  | .char '\\' :: .char 'u' :: a :: b :: c :: d :: rest =>
    match (if rest.isEmpty then none else hexQuad? a b c d) with
    | none => .error (.brokenUnicodeEscape, .char 'u' :: a :: b :: c :: d :: rest)
    | some number => do
      let (units, rest) ← stringUnits opening rest
      return (.escape number :: units, rest)
  | .char '\\' :: letter :: rest =>
    match escaped? letter with
    | some c => do
      let (units, rest) ← stringUnits opening rest
      return (.point (.char c) :: units, rest)
    | none =>
      if letter = .char 'u' then .error (.brokenUnicodeEscape, letter :: rest)
      else .error (.unknownEscape, .char '\\' :: letter :: rest)
  | point :: rest =>
    if point.toNat < 0x20 then .error (.controlCharacter, point :: rest)
    else do
      let (units, rest) ← stringUnits opening rest
      return (.point point :: units, rest)

/-- Whether a number is that of a surrogate that begins a pair. -/
def isHighSurrogate (number : Nat) : Bool :=
  0xD800 ≤ number && number < 0xDC00

/-- Whether a number is that of a surrogate that ends a pair. -/
def isLowSurrogate (number : Nat) : Bool :=
  0xDC00 ≤ number && number < 0xE000

/-- The code point that a pair of surrogates denotes. -/
def pairedPoint (high low : Nat) : CodePoint :=
  .ofNat (0x10000 + (high - 0xD800) * 0x400 + (low - 0xDC00))

/-- The text of the units of a string. Two escapes that follow each other and are a pair of
surrogates denote one character. -/
def unitsText : List StringUnit → Text
  | [] => []
  | .point point :: rest => point :: unitsText rest
  | [.escape number] => [.ofNat number]
  | .escape high :: .escape low :: rest =>
    if isHighSurrogate high && isLowSurrogate low then pairedPoint high low :: unitsText rest
    else .ofNat high :: unitsText (.escape low :: rest)
  | .escape number :: .point point :: rest => .ofNat number :: point :: unitsText rest

/-- The string at the front of a text, which begins with the opening quote. -/
def stringLexeme (text : Text) : Lexeme × Text :=
  match stringUnits text text.tail with
  | .ok (units, rest) => (.string (unitsText units), rest)
  | .error (fault, place) => (.brokenString fault place, [])

/-- The number that decimal digits denote. -/
def digitsValue (digits : Text) : Nat :=
  digits.foldl (fun value digit => 10 * value + (digit.toNat - 48)) 0

/-- Splits off the decimal digits at the front. -/
def takeDigits (text : Text) : Text × Text :=
  text.span (·.isIn Char.isDigit)

/-- The digits after a decimal point at the front; none when no digit follows the point. -/
def takeFraction (text : Text) : Text × Text :=
  match text with
  | .char '.' :: rest =>
    let (digits, rest) := takeDigits rest
    if digits.isEmpty then ([], text) else (digits, rest)
  | _ => ([], text)

/-- The exponent at the front, with a sign or not; none when no digit follows. -/
def takeExponent (text : Text) : Option Int × Text :=
  match text with
  | mark :: rest =>
    if mark = .char 'e' || mark = .char 'E' then
      let (negative, rest') :=
        match rest with
        | .char '-' :: rest => (true, rest)
        | .char '+' :: rest => (false, rest)
        | _ => (false, rest)
      let (digits, rest') := takeDigits rest'
      if digits.isEmpty then (none, text)
      else
        let magnitude : Int := digitsValue digits
        (some (if negative then -magnitude else magnitude), rest')
    else (none, text)
  | [] => (none, text)

/-- The digits of the whole part of a number: a zero alone, or digits that begin with another. -/
def takeWhole (text : Text) : Text × Text :=
  match text with
  | .char '0' :: rest => ([.char '0'], rest)
  | _ => takeDigits text

/-- The greatest number of digits of an integer. -/
def maxIntegerDigits : Nat := 4300

/-- A number at the front of a text. It is an integer if it has neither fraction nor exponent. -/
def numberLexeme (text : Text) : Lexeme × Text :=
  let (negative, unsigned) :=
    match text with
    | .char '-' :: rest => (true, rest)
    | _ => (false, text)
  let (whole, rest) := takeWhole unsigned
  if whole.isEmpty then (.stray, [])
  else
    let (fraction, rest) := takeFraction rest
    let (exponent, rest) := takeExponent rest
    if fraction.isEmpty && exponent.isNone then
      if maxIntegerDigits < whole.length then (.longInteger whole.length, [])
      else
        let magnitude : Int := digitsValue whole
        (.scalar (.int (if negative then -magnitude else magnitude)), rest)
    else
      (.scalar (.float (Binary64.ofDecimal negative (digitsValue (whole ++ fraction))
        (exponent.getD 0 - fraction.length))), rest)

/-- The words that are values. The one for what is not a number always denotes the same value. -/
def literals : List (Text × Json) :=
  [("null", .null), ("true", .bool true), ("false", .bool false), ("NaN", .float (.nan 0)),
   ("Infinity", .float (.infinite false)), ("-Infinity", .float (.infinite true))]

/-- Whether a character is a bracket or delimiter. -/
def isMark (c : Char) : Bool :=
  ['\x7b', '\x7d', '[', ']', ',', ':'].contains c

/-- The word at the front of a text, and the text after it, or else the number there. -/
def wordLexeme (text : Text) : Lexeme × Text :=
  match literals.find? (fun literal => literal.1.isPrefixOf text) with
  | some literal => (.scalar literal.2, text.drop literal.1.length)
  | none => numberLexeme text

/-- The lexeme at the front of a text, and the text after it. -/
def lexeme (text : Text) : Lexeme × Text :=
  match text with
  | .char c :: rest =>
    if c = '"' then stringLexeme text
    else if isMark c then (.mark c, rest)
    else wordLexeme text
  | _ => (.stray, [])

/-- The first lexemes of a text, each with its place. -/
def firstLexemes : (count : Nat) → Text → List (Lexeme × Text)
  | 0, _ => []
  | count + 1, text =>
    match text.dropWhile (·.isIn isBlank) with
    | [] => []
    | place =>
      let (lexeme, rest) := lexeme place
      (lexeme, place) :: firstLexemes count rest

/-- The lexemes of a text, each with its place. Every lexeme but a last failing one takes at least
one code point, so a text has at most as many as code points. -/
def lexemes (text : Text) : List (Lexeme × Text) :=
  firstLexemes text.length text

end FieldSearch.Json
