import FieldSearch.Text.Basic

/-!
# Plural stems

The stem of an English word is the word without the *s* of a plural. The ending *ies* becomes *y*,
and endings that are rarely plurals are kept: *us*, *ss*, *ees*, *aes*, *oes*, and *ies* after *a*
or *e* or without a letter before it. Words of fewer than three characters are kept.
-/

namespace FieldSearch

/-- Whether a letter before *es* keeps the ending. -/
def isKeptBefore (c : Char) : Bool :=
  ['i', 'a', 'o', 'e'].contains c

/-- The stem of a word, both written backwards. -/
def stemBackwards : Text → Text
  | .char 's' :: before :: third :: rest =>
    let word := .char 's' :: before :: third :: rest
    let stripped := before :: third :: rest
    if before = .char 'u' ∨ before = .char 's' then word
    else if before = .char 'e' then
      match rest with
      | fourth :: _ =>
        if third = .char 'i' ∧ fourth ≠ .char 'a' ∧ fourth ≠ .char 'e' then .char 'y' :: rest
        else if third.isIn isKeptBefore then word
        else stripped
      | [] => if third.isIn isKeptBefore then word else stripped
    else stripped
  | word => word

/-- The stem of a word. -/
def stemPlural (word : Text) : Text :=
  (stemBackwards word.reverse).reverse

end FieldSearch
