import FieldSearch.Text.Basic

/-!
# Similar texts

Two texts are compared by the code points they have in common blocks. The longest block that both
contain is matched first, of equally long ones the first in the first text and then the first in
the second; the parts on its left and the parts on its right are matched in the same way. The
similarity is twice the number of matched code points over the number of all code points.

In a second text of 200 code points or more, one that is very frequent is *popular*. A popular code
point does not count when the longest block is sought, but the block found is extended over it.
-/

namespace FieldSearch.Text

/-- How many code points two texts begin with in common, as far as they satisfy `p`. -/
def commonStart (p : CodePoint → Bool) : Text → Text → Nat
  | c :: first, d :: second => if c = d && p c then commonStart p first second + 1 else 0
  | _, _ => 0

/-- A block that two texts have in common: where it begins in each, and its length. -/
structure Block where
  inFirst : Nat
  inSecond : Nat
  length : Nat
deriving DecidableEq, Repr

/-- The longer of two blocks, the first if they are equally long. -/
def Block.longer (block other : Block) : Block :=
  if block.length < other.length then other else block

/-- The longest block that begins at the beginning of the first text, and at `offset` or later in
the second. -/
def longestAt (p : CodePoint → Bool) (inFirst : Nat) (first : Text) :
    (offset : Nat) → Text → Block
  | offset, [] => ⟨inFirst, offset, 0⟩
  | offset, d :: second =>
    Block.longer ⟨inFirst, offset, commonStart p first (d :: second)⟩
      (longestAt p inFirst first (offset + 1) second)

/-- The longest block of two texts, the first of which begins at `offset`. -/
def longestFrom (p : CodePoint → Bool) (second : Text) : (offset : Nat) → Text → Block
  | offset, [] => ⟨offset, 0, 0⟩
  | offset, c :: first =>
    Block.longer (longestAt p offset (c :: first) 0 second)
      (longestFrom p second (offset + 1) first)

/-- The longest block of code points that satisfy `p`; an empty one lies at the start of both
texts. -/
def longestBlock (p : CodePoint → Bool) (first second : Text) : Block :=
  let block := longestFrom p second 0 first
  if block.length = 0 then ⟨0, 0, 0⟩ else block

/-- Extends a block over equal neighbours on both sides, whatever code points they are. -/
def Block.extend (block : Block) (first second : Text) : Block :=
  let left :=
    commonStart (fun _ => true) (first.take block.inFirst).reverse
      (second.take block.inSecond).reverse
  let right :=
    commonStart (fun _ => true) (first.drop (block.inFirst + block.length))
      (second.drop (block.inSecond + block.length))
  ⟨block.inFirst - left, block.inSecond - left, left + block.length + right⟩

/-- The number of code points in matched blocks, where blocks are sought by those that satisfy `p`.
Each match takes at least one code point of the first text, so its length bounds the number of
matches on the way to any part. -/
def matchedWithin (p : CodePoint → Bool) : (depth : Nat) → Text → Text → Nat
  | 0, _, _ => 0
  | depth + 1, first, second =>
    let block := (longestBlock p first second).extend first second
    if block.length = 0 then 0
    else
      matchedWithin p depth (first.take block.inFirst) (second.take block.inSecond) +
        block.length +
        matchedWithin p depth (first.drop (block.inFirst + block.length))
          (second.drop (block.inSecond + block.length))

/-- The popular code points of a text: none if the text is short, and otherwise those that occur
more often than once in a hundred, and once more. -/
def popularPoints (text : Text) : Text :=
  if text.length < 200 then []
  else text.eraseDups.filter fun c => text.length / 100 + 1 < text.count c

/-- The number of code points of two texts in matched blocks. -/
def matched (first second : Text) : Nat :=
  let popular := popularPoints second
  matchedWithin (!popular.contains ·) first.length first second

/-- A ratio of natural numbers. -/
structure Similarity where
  part : Nat
  whole : Nat
deriving DecidableEq, Repr

/-- The similarity of two texts. Two empty texts are equal and so wholly similar. -/
def similarity (first second : Text) : Similarity :=
  let whole := first.length + second.length
  if whole = 0 then ⟨1, 1⟩ else ⟨2 * matched first second, whole⟩

/-- Whether one similarity is less than another. -/
def Similarity.less (similarity other : Similarity) : Bool :=
  similarity.part * other.whole < other.part * similarity.whole

/-- A similarity of at least three fifths makes a text a close match. -/
def Similarity.isClose (similarity : Similarity) : Bool :=
  3 * similarity.whole ≤ 5 * similarity.part

/-- Whether a scored candidate goes before another: it is more similar, or equally similar and not
before the other in the order of code points. -/
def ranksBefore (candidate other : Similarity × Text) : Bool :=
  if other.1.less candidate.1 then true
  else if candidate.1.less other.1 then false
  else other.2.notAfter candidate.2

/-- The greatest number of suggestions. -/
def maxSuggestions : Nat := 3

/-- The candidates that match a word closely, the best first; of equally similar ones, the last in
the order of code points first. -/
def closeMatches (word : Text) (candidates : List Text) : List Text :=
  let scored := candidates.map fun candidate => (similarity candidate word, candidate)
  let close := scored.filter (·.1.isClose)
  ((close.mergeSort ranksBefore).take maxSuggestions).map Prod.snd

end FieldSearch.Text
