/-!
# Search trees of intervals

A table of intervals of code points is searched through a balanced tree. The tree of a list of
intervals that are in increasing order and disjoint finds what a search of the list finds.
-/

namespace FieldSearch.Text

/-- A binary tree of items. -/
inductive SearchTree (α : Type)
  | leaf
  | node (left : SearchTree α) (item : α) (right : SearchTree α)

namespace SearchTree

variable {α : Type}

/-- The tree of at most `depth` levels whose items are those of the list, in order, from the middle
one down. -/
def build : (depth : Nat) → List α → SearchTree α
  | 0, _ => leaf
  | depth + 1, items =>
    match items.drop (items.length / 2) with
    | [] => leaf
    | item :: after => node (build depth (items.take (items.length / 2))) item (build depth after)

/-- The tree of a list, with as many levels as its length needs. -/
def ofList (items : List α) : SearchTree α :=
  build (items.length.log2 + 1) items

/-- The item whose interval contains the code. `bounds` gives the ends of the interval of an item,
both included. -/
def find? (bounds : α → Nat × Nat) (code : Nat) : SearchTree α → Option α
  | leaf => none
  | node left item right =>
    if code < (bounds item).1 then find? bounds code left
    else if code ≤ (bounds item).2 then some item
    else find? bounds code right

/-- Whether a code lies in the interval of an item. -/
def covers (bounds : α → Nat × Nat) (code : Nat) (item : α) : Bool :=
  (bounds item).1 ≤ code && code ≤ (bounds item).2

/-- The intervals of the items are not empty, in increasing order and disjoint. -/
def Increasing (bounds : α → Nat × Nat) (items : List α) : Prop :=
  (∀ item ∈ items, (bounds item).1 ≤ (bounds item).2) ∧
    items.Pairwise fun item later => (bounds item).2 < (bounds later).1

/-- The tree finds an item of the list. -/
theorem mem_of_find?_build {bounds : α → Nat × Nat} {code depth : Nat} {items : List α} {item : α}
    (found : (build depth items).find? bounds code = some item) : item ∈ items := by
  induction depth generalizing items with
  | zero => simp [build, find?] at found
  | succ depth ih =>
    unfold build at found
    split at found
    · simp [find?] at found
    next middle after rest =>
      have whole := List.take_append_drop (items.length / 2) items
      rw [rest] at whole
      rw [← whole]
      unfold find? at found
      split at found
      · exact List.mem_append_left _ (ih found)
      · split at found
        · cases found
          simp
        · exact List.mem_append_right _ (List.mem_cons_of_mem _ (ih found))

/-- The interval of the item that a tree finds contains the code. -/
theorem within_of_find? {bounds : α → Nat × Nat} {code : Nat} {tree : SearchTree α} {item : α}
    (found : tree.find? bounds code = some item) :
    (bounds item).1 ≤ code ∧ code ≤ (bounds item).2 := by
  induction tree with
  | leaf => simp [find?] at found
  | node left middle right leftIh rightIh =>
    unfold find? at found
    split at found
    · exact leftIh found
    next low =>
      split at found
      next high =>
        cases found
        exact ⟨Nat.le_of_not_lt low, high⟩
      next => exact rightIh found

/-- Items left out of a list of increasing intervals leave the others increasing. -/
theorem Increasing.sublist {bounds : α → Nat × Nat} {fewer items : List α}
    (increasing : Increasing bounds items) (sub : fewer.Sublist items) : Increasing bounds fewer :=
  ⟨fun item member => increasing.1 item (sub.subset member), increasing.2.sublist sub⟩

/-- No item before one whose interval begins at the code or earlier contains the code. -/
theorem find?_before_eq_none {bounds : α → Nat × Nat} {code : Nat} {before after : List α}
    {item : α} (increasing : Increasing bounds (before ++ item :: after))
    (low : (bounds item).1 ≤ code) : before.find? (covers bounds code) = none := by
  rw [List.find?_eq_none]
  intro earlier member
  have order := (List.pairwise_append.mp increasing.2).2.2 earlier member item (by simp)
  simp only [covers, Bool.and_eq_true, decide_eq_true_eq]
  omega

/-- No item from one on contains the code if the interval of that one begins after the code. -/
theorem find?_eq_none_of_lt {bounds : α → Nat × Nat} {code : Nat} {item : α} {after : List α}
    (increasing : Increasing bounds (item :: after)) (low : code < (bounds item).1) :
    (item :: after).find? (covers bounds code) = none := by
  rw [List.find?_eq_none]
  intro other member
  have above : (bounds item).1 ≤ (bounds other).1 := by
    rcases List.mem_cons.mp member with rfl | later
    · exact Nat.le_refl _
    · have order := (List.pairwise_cons.mp increasing.2).1 other later
      have nonempty := increasing.1 item List.mem_cons_self
      omega
  simp only [covers, Bool.and_eq_true, decide_eq_true_eq]
  omega

/-- In a list of increasing intervals, an item whose interval contains the code is the first one
that does. -/
theorem find?_eq_of_covers {bounds : α → Nat × Nat} {code : Nat} {before after : List α} {item : α}
    (increasing : Increasing bounds (before ++ item :: after)) (low : (bounds item).1 ≤ code)
    (high : code ≤ (bounds item).2) :
    (before ++ item :: after).find? (covers bounds code) = some item := by
  rw [List.find?_append, find?_before_eq_none increasing low, Option.none_or,
    List.find?_cons_of_pos (by simp [covers, low, high])]

/-- A tree that has enough levels finds what a search of the list finds. -/
theorem find?_build {bounds : α → Nat × Nat} {code depth : Nat} {items : List α}
    (increasing : Increasing bounds items) (deep : items.length < Nat.pow 2 depth) :
    (build depth items).find? bounds code = items.find? (covers bounds code) := by
  induction depth generalizing items with
  | zero =>
    have empty : items = [] := List.length_eq_zero_iff.mp (Nat.lt_one_iff.mp deep)
    simp [empty, build, find?]
  | succ depth ih =>
    unfold build
    split
    next rest =>
      have short := List.drop_eq_nil_iff.mp rest
      have empty : items = [] := List.length_eq_zero_iff.mp (by omega)
      simp [empty, find?]
    next middle after rest =>
      have whole := List.take_append_drop (items.length / 2) items
      rw [rest] at whole
      generalize cut : items.take (items.length / 2) = before at *
      have lengths : before.length + after.length + 1 = items.length := by
        rw [← whole]; simp; omega
      have half : before.length = items.length / 2 := by
        rw [← cut, List.length_take]; omega
      have halved : items.length < Nat.pow 2 depth * 2 := deep
      rw [← whole] at increasing ⊢
      have upper : Increasing bounds (middle :: after) :=
        increasing.sublist (List.sublist_append_right _ _)
      have left : (build depth before).find? bounds code = before.find? (covers bounds code) :=
        ih (increasing.sublist (List.sublist_append_left _ _)) (by omega)
      have right : (build depth after).find? bounds code = after.find? (covers bounds code) :=
        ih (upper.sublist (List.sublist_cons_self _ _)) (by omega)
      unfold find?
      split
      next low =>
        rw [left, List.find?_append, find?_eq_none_of_lt upper low, Option.or_none]
      next low =>
        have reached := Nat.le_of_not_lt low
        split
        next high => exact (find?_eq_of_covers increasing reached high).symm
        next high =>
          rw [right, List.find?_append, find?_before_eq_none increasing reached, Option.none_or,
            List.find?_cons_of_neg (by simp [covers, high])]

/-- The tree of a list finds what a search of the list finds. -/
theorem find?_ofList {bounds : α → Nat × Nat} {code : Nat} {items : List α}
    (increasing : Increasing bounds items) :
    (ofList items).find? bounds code = items.find? (covers bounds code) :=
  find?_build increasing Nat.lt_log2_self

end SearchTree

/-- Closed ranges of code points, in increasing order and disjoint. -/
abbrev Ranges := List (Nat × Nat)

/-- A search tree of ranges. -/
abbrev RangeTree := SearchTree (Nat × Nat)

/-- Whether a code point lies in one of the ranges. -/
def RangeTree.contains (tree : RangeTree) (code : Nat) : Bool :=
  (tree.find? id code).isSome

end FieldSearch.Text
