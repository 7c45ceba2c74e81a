import FieldSearch.Text.Basic
import FieldSearch.Text.Casing

/-!
# Texts in lower case

Lowering replaces each character by its lowercase form. Two characters are special. The dotted
capital I becomes a small i with a combining dot. The capital sigma becomes the final small sigma
when a cased character stands before it and none after it, both found by looking through
case-ignorable characters; otherwise it becomes the ordinary small sigma. A surrogate is kept; it
is neither cased nor case-ignorable.
-/

namespace FieldSearch.Text

/-- The single lowercase form that the runs give to a character: itself if it lies in none. -/
def lowerSingle (c : Char) : Char :=
  match caseTree.find? CaseRun.bounds c.toNat with
  | some run => Char.ofNat (run.lower c.toNat)
  | none => c

/-- The lowercase form of a character apart from any context. -/
def lowerChar (c : Char) : List Char :=
  if c = '\u0130' then ['i', '\u0307'] else [lowerSingle c]

/-- Whether the first code point that case rules do not look through is cased. -/
def meetsCased (text : Text) : Bool :=
  match text.find? (!·.isIn isCaseIgnorable) with
  | some point => point.isIn isCased
  | none => false

/-- The small form of a capital sigma, given the text before it, nearest first, and the text after
it. -/
def lowerSigma (before after : Text) : Char :=
  if meetsCased before && !meetsCased after then 'ς' else 'σ'

/-- The lowercase form of a text that follows the text `before`, which is given nearest first. -/
def lowerAfter (before : Text) : Text → Text
  | [] => []
  | .char 'Σ' :: rest =>
    .char (lowerSigma before rest) :: lowerAfter (.char 'Σ' :: before) rest
  | .char c :: rest => ofChars (lowerChar c) ++ lowerAfter (.char c :: before) rest
  | .surrogate index :: rest => .surrogate index :: lowerAfter (.surrogate index :: before) rest

/-- The lowercase form of a text. -/
def lower (text : Text) : Text :=
  lowerAfter [] text

end FieldSearch.Text
