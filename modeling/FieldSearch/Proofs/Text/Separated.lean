import FieldSearch.Text.Basic
import Mathlib.Data.List.Basic

/-!
# Texts around separators

A text can be cut in one way only at the first place of a separator, and in one way only at the
last. Texts that are not empty and do not have the separator are told by their join.
-/

namespace FieldSearch.Text

/-- Different strings are different texts. -/
theorem ofString_injective : Function.Injective ofString := by
  intro first second same
  exact String.toList_inj.mp (List.map_injective_iff.mpr (fun _ _ => CodePoint.char.inj) same)

/-- There is one way to cut a text at the first place of a separator. -/
theorem cut_first {separator : CodePoint} {first second rest others : Text}
    (absent : separator ∉ first) (absentToo : separator ∉ second)
    (same : first ++ separator :: rest = second ++ separator :: others) :
    first = second ∧ rest = others := by
  induction first generalizing second with
  | nil =>
    cases second with
    | nil => exact ⟨rfl, (List.cons.inj same).2⟩
    | cons head tail =>
      cases (List.cons.inj same).1
      exact absurd List.mem_cons_self absentToo
  | cons point points ih =>
    cases second with
    | nil =>
      cases (List.cons.inj same).1
      exact absurd List.mem_cons_self absent
    | cons head tail =>
      obtain ⟨rfl, later⟩ := List.cons.inj same
      obtain ⟨rfl, rests⟩ := ih (mt (List.mem_cons_of_mem _) absent)
        (mt (List.mem_cons_of_mem _) absentToo) later
      exact ⟨rfl, rests⟩

/-- There is one way to cut a text at the last place of a separator. -/
theorem cut_last {separator : CodePoint} {first second rest others : Text}
    (absent : separator ∉ rest) (absentToo : separator ∉ others)
    (same : first ++ separator :: rest = second ++ separator :: others) :
    first = second ∧ rest = others := by
  have reversed := congrArg List.reverse same
  rw [List.reverse_append, List.reverse_append, List.reverse_cons, List.reverse_cons,
    List.append_assoc, List.append_assoc, List.singleton_append, List.singleton_append] at reversed
  obtain ⟨rests, firsts⟩ := cut_first (mt List.mem_reverse.mp absent)
    (mt List.mem_reverse.mp absentToo) reversed
  exact ⟨List.reverse_injective firsts, List.reverse_injective rests⟩

/-- Texts that are not empty give nothing only when there are none. -/
theorem join_eq_nil_iff {separator : Text} {texts : List Text}
    (nonempty : ∀ text ∈ texts, text ≠ []) : join separator texts = [] ↔ texts = [] := by
  cases texts with
  | nil => simp [join]
  | cons first rest =>
    have filled := nonempty first List.mem_cons_self
    cases rest with
    | nil => simpa [join] using filled
    | cons second rest => simp [join, List.intercalate_cons_cons, filled]

/-- What is in joined texts is in the separator or in one of the texts. -/
theorem mem_or_exists_of_mem_join {separator : Text} {texts : List Text} {point : CodePoint}
    (member : point ∈ join separator texts) : point ∈ separator ∨ ∃ text ∈ texts, point ∈ text := by
  induction texts with
  | nil => cases member
  | cons first rest ih =>
    cases rest with
    | nil =>
      rw [join, List.intercalate_singleton] at member
      exact .inr ⟨first, List.mem_singleton_self first, member⟩
    | cons second rest =>
      rw [join, List.intercalate_cons_cons, List.append_assoc, List.mem_append,
        List.mem_append] at member
      rcases member with own | between | later
      · exact .inr ⟨first, List.mem_cons_self, own⟩
      · exact .inl between
      · exact (ih later).imp_right fun ⟨text, among, inside⟩ =>
          ⟨text, List.mem_cons_of_mem first among, inside⟩

/-- Texts are told by their join. -/
theorem join_injOn {separator : CodePoint} {first second : List Text}
    (plain : ∀ text ∈ first, text ≠ [] ∧ separator ∉ text)
    (plainToo : ∀ text ∈ second, text ≠ [] ∧ separator ∉ text)
    (same : join [separator] first = join [separator] second) : first = second := by
  have empty := @join_eq_nil_iff [separator] first fun text member => (plain text member).1
  have emptyToo := @join_eq_nil_iff [separator] second fun text member => (plainToo text member).1
  by_cases nothing : first = []
  · rw [nothing, ← emptyToo.mp (same.symm.trans (empty.mpr nothing))]
  · have something : second ≠ [] := fun none =>
      nothing (empty.mp (same.trans (emptyToo.mpr none)))
    calc
      first = (join [separator] first).splitOn separator :=
        (List.splitOn_intercalate separator (fun text member => (plain text member).2)
          nothing).symm
      _ = (join [separator] second).splitOn separator := by rw [same]
      _ = second :=
        List.splitOn_intercalate separator (fun text member => (plainToo text member).2) something

end FieldSearch.Text
