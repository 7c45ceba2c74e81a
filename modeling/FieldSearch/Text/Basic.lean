/-!
# Texts

A text is a sequence of code points. A code point is a character or a surrogate: a document can
escape a surrogate that has no partner, and texts keep it. A surrogate belongs to no class of
characters.
-/

namespace FieldSearch

/-- A code point: a character, or one of the surrogates, counted from the first. -/
inductive CodePoint
  | char (c : Char)
  | surrogate (index : Fin 0x800)
deriving DecidableEq, Repr

namespace CodePoint

/-- The number of the first surrogate. -/
def firstSurrogate : Nat := 0xD800

/-- The number of a code point. -/
def toNat : CodePoint → Nat
  | char c => c.toNat
  | surrogate index => firstSurrogate + index

/-- The code point of a number. -/
def ofNat (n : Nat) : CodePoint :=
  if range : firstSurrogate ≤ n ∧ n < firstSurrogate + 0x800 then
    surrogate ⟨n - firstSurrogate, by omega⟩
  else char (Char.ofNat n)

/-- A code point is the one of its number. -/
theorem ofNat_toNat (point : CodePoint) : ofNat point.toNat = point := by
  cases point with
  | char c =>
    have outside : ¬(firstSurrogate ≤ c.toNat ∧ c.toNat < firstSurrogate + 0x800) := by
      have valid : c.toNat.isValidChar := c.valid
      simp only [Nat.isValidChar, firstSurrogate] at valid ⊢
      omega
    simp only [toNat, ofNat, dif_neg outside, Char.ofNat_toNat]
  | surrogate index =>
    have inside : firstSurrogate ≤ firstSurrogate + index.val ∧
        firstSurrogate + index.val < firstSurrogate + 0x800 := by
      have bound := index.isLt
      omega
    simp only [toNat, ofNat, dif_pos inside, Nat.add_sub_cancel_left]

/-- Whether a code point is a character of the class `p`. -/
def isIn (p : Char → Bool) : CodePoint → Bool
  | char c => p c
  | surrogate _ => false

/-- A code point with a character changed by `f`. -/
def mapChar (f : Char → Char) : CodePoint → CodePoint
  | char c => char (f c)
  | surrogate index => surrogate index

end CodePoint

/-- A sequence of code points. -/
abbrev Text := List CodePoint

namespace Text

/-- The text of a list of characters. -/
def ofChars (chars : List Char) : Text :=
  chars.map .char

/-- The text of a string. -/
def ofString (string : String) : Text :=
  ofChars string.toList

instance : Coe String Text := ⟨ofString⟩

/-- Texts one after the other with a separator between them. -/
def join (separator : Text) (texts : List Text) : Text :=
  List.intercalate separator texts

/-- Whether all code points of a text are characters. -/
def isWellFormed (text : Text) : Bool :=
  text.all (·.isIn fun _ => true)

/-- A text with its surrogates replaced. A surrogate would take three bytes, none of which can be
read by itself, so that each is replaced by three replacement characters. -/
def mended (text : Text) : Text :=
  text.flatMap fun
    | .char c => [.char c]
    | .surrogate _ => List.replicate 3 (.char '\uFFFD')

/-- Whether a text is not after another in the order of code points. -/
def notAfter : Text → Text → Bool
  | [], _ => true
  | _ :: _, [] => false
  | first :: firsts, second :: seconds =>
    first.toNat < second.toNat || (first = second && notAfter firsts seconds)

end Text

end FieldSearch
