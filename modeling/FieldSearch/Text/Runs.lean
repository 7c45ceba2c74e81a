import FieldSearch.Text.Basic

/-!
# Runs of characters

The runs of a class in a text are its longest stretches of code points of that class, in order.
-/

namespace FieldSearch.Text

/-- Puts a code point in front of the first run. -/
def extendFirst (c : CodePoint) : List Text → List Text
  | [] => [[c]]
  | run :: runs => (c :: run) :: runs

/-- The maximal runs of code points that satisfy `p`, in order. A code point joins the run that
begins right after it, or forms one of its own. -/
def runs (p : CodePoint → Bool) : Text → List Text
  | [] => []
  | c :: rest =>
    if p c then
      if rest.head?.any p then extendFirst c (runs p rest) else [c] :: runs p rest
    else runs p rest

/-- The runs hold exactly the code points of the class, in order. -/
theorem flatten_runs (p : CodePoint → Bool) (text : Text) :
    (runs p text).flatten = text.filter p := by
  have extend (c : CodePoint) (found : List Text) :
      (extendFirst c found).flatten = c :: found.flatten := by
    cases found <;> simp [extendFirst]
  induction text with
  | nil => rfl
  | cons c rest ih =>
    by_cases member : p c
    · by_cases next : rest.head?.any p <;> simp [runs, member, next, extend, ih]
    · simp [runs, member, ih]

end FieldSearch.Text
