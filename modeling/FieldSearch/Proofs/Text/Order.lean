import FieldSearch.Text.Basic
import Mathlib.Data.List.Lex
import Mathlib.Data.List.Nodup

/-!
# The order of texts

Texts are compared by the numbers of their code points, the first difference deciding. Texts that
are sorted and distinct stand in strictly increasing order.
-/

namespace FieldSearch.Text

/-- Different code points have different numbers. -/
theorem toNat_injective : Function.Injective CodePoint.toNat :=
  Function.LeftInverse.injective CodePoint.ofNat_toNat

/-- The numbers of the code points of a text. -/
def codes (text : Text) : List Nat :=
  text.map CodePoint.toNat

/-- A text is told by the numbers of its code points. -/
theorem codes_injective : Function.Injective codes :=
  List.map_injective_iff.mpr toNat_injective

/-- The order of texts is that of the lists of their numbers. -/
theorem notAfter_iff (first second : Text) :
    notAfter first second = true ↔ first.codes ≤ second.codes := by
  induction first generalizing second with
  | nil => cases second <;> simp [notAfter, codes, le_iff_lt_or_eq]
  | cons point points ih =>
    cases second with
    | nil => simp [notAfter, codes, le_iff_lt_or_eq]
    | cons other others =>
      have head : point = other ↔ point.toNat = other.toNat := toNat_injective.eq_iff.symm
      have tail : notAfter points others = true ↔
          codes points < codes others ∨ codes points = codes others :=
        (ih others).trans le_iff_lt_or_eq
      have split : codes (point :: points) ≤ codes (other :: others) ↔
          (point.toNat < other.toNat ∨ point.toNat = other.toNat ∧ codes points < codes others) ∨
            point.toNat = other.toNat ∧ codes points = codes others := by
        rw [le_iff_lt_or_eq, codes, codes, List.map_cons, List.map_cons, List.cons_lt_cons_iff,
          List.cons.injEq]
        rfl
      simp only [notAfter, Bool.or_eq_true, Bool.and_eq_true, decide_eq_true_eq, tail, split, head,
        and_or_left, or_assoc]

/-- Sorted distinct texts are in strictly increasing order. -/
theorem pairwise_mergeSort_notAfter {texts : List Text} (distinct : texts.Nodup) :
    (texts.mergeSort notAfter).Pairwise fun first second => first.codes < second.codes := by
  have sorted : (texts.mergeSort notAfter).Pairwise fun first second =>
      notAfter first second = true := by
    apply List.pairwise_mergeSort
    · intro first second third
      simp only [notAfter_iff]
      exact le_trans
    · intro first second
      simp only [Bool.or_eq_true, notAfter_iff]
      exact le_total first.codes second.codes
  refine (sorted.and (List.nodup_mergeSort.mpr distinct)).imp fun {first second} ordered => ?_
  exact lt_of_le_of_ne ((notAfter_iff first second).mp ordered.1) (codes_injective.ne ordered.2)

end FieldSearch.Text
