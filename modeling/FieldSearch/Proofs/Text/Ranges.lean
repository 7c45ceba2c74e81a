import FieldSearch.Text.SearchTree
import Mathlib.Data.List.Perm.Basic

/-!
# Classes given by ranges

A class of code points is given by ranges in increasing order. Ranges of several classes can be
merged into one list. When that list is increasing too, no code is in two of the classes; and where
ranges follow each other without a gap, they can be put into one. In this way a class is shown to be
made up of others by going through their ranges once. An interval between whose codes no range
begins or ends is looked up as a whole.
-/

namespace FieldSearch.Text

namespace Ranges

/-- Whether a code lies in one of the ranges. -/
def Has (ranges : Ranges) (code : Nat) : Prop :=
  ∃ range ∈ ranges, range.1 ≤ code ∧ code ≤ range.2

variable {ranges others : Ranges} {code : Nat}

/-- A number is in the first range or in the others. -/
theorem has_cons_iff {range : Nat × Nat} :
    Has (range :: ranges) code ↔ (range.1 ≤ code ∧ code ≤ range.2) ∨ ranges.Has code := by
  simp only [Has, List.mem_cons, exists_eq_or_imp]

/-- The order of ranges does not matter to what is in them. -/
theorem has_congr (perm : ranges.Perm others) : ranges.Has code ↔ others.Has code := by
  simp only [Has, perm.mem_iff]

/-! ## Increasing ranges -/

/-- Whether ranges are not empty, in increasing order and disjoint, with all codes from `bound`
on. -/
def increaseFrom : (bound : Nat) → Ranges → Bool
  | _, [] => true
  | bound, range :: rest =>
    bound ≤ range.1 && range.1 ≤ range.2 && increaseFrom (range.2 + 1) rest

/-- Ranges increase from a bound when the first begins at it or later and the others increase from
its end. -/
theorem increaseFrom_cons_iff {bound : Nat} {range : Nat × Nat} :
    increaseFrom bound (range :: ranges) ↔
      bound ≤ range.1 ∧ range.1 ≤ range.2 ∧ increaseFrom (range.2 + 1) ranges := by
  simp only [increaseFrom, Bool.and_eq_true, decide_eq_true_eq, and_assoc]

/-- No range begins before the bound from which they increase. -/
theorem bound_le {bound : Nat} (increase : increaseFrom bound ranges) :
    ∀ range ∈ ranges, bound ≤ range.1 := by
  induction ranges generalizing bound with
  | nil => exact List.forall_mem_nil _
  | cons range rest ih =>
    obtain ⟨low, nonempty, later⟩ := increaseFrom_cons_iff.mp increase
    have above : ∀ other ∈ rest, bound ≤ other.1 := fun other member => by
      have := ih later other member
      omega
    exact List.forall_mem_cons.mpr ⟨low, above⟩

/-- Ranges that increase from a bound are in order and apart. -/
theorem increasing_of_increaseFrom {bound : Nat} (increase : increaseFrom bound ranges) :
    SearchTree.Increasing id ranges := by
  induction ranges generalizing bound with
  | nil => exact ⟨List.forall_mem_nil _, List.Pairwise.nil⟩
  | cons range rest ih =>
    obtain ⟨_, nonempty, later⟩ := increaseFrom_cons_iff.mp increase
    obtain ⟨others, order⟩ := ih later
    exact ⟨List.forall_mem_cons.mpr ⟨nonempty, others⟩,
      List.pairwise_cons.mpr ⟨bound_le later, order⟩⟩

/-- The tree of increasing ranges has the codes of the ranges. -/
theorem contains_iff (increasing : SearchTree.Increasing id ranges) :
    RangeTree.contains (SearchTree.ofList ranges) code ↔ ranges.Has code := by
  rw [RangeTree.contains, SearchTree.find?_ofList increasing, List.find?_isSome]
  simp only [SearchTree.covers, id, Bool.and_eq_true, decide_eq_true_eq, Has]

/-! ## Merging -/

/-- The ranges of two lists, where those that begin earlier come earlier for the first `steps`
ranges. -/
def merge : (steps : Nat) → Ranges → Ranges → Ranges
  | _, [], others => others
  | _, ranges, [] => ranges
  | 0, ranges, others => ranges ++ others
  | steps + 1, range :: ranges, other :: others =>
    if range.1 < other.1 then range :: merge steps ranges (other :: others)
    else other :: merge steps (range :: ranges) others

/-- Merging rearranges the ranges of two lists. -/
theorem merge_perm (steps : Nat) (ranges others : Ranges) :
    (merge steps ranges others).Perm (ranges ++ others) := by
  fun_induction merge steps ranges others with
  | case1 => exact .refl _
  | case2 => rw [List.append_nil]
  | case3 => exact .refl _
  | case4 steps range ranges other others _ ih => exact ih.cons range
  | case5 steps range ranges other others _ ih => exact (ih.cons other).trans List.perm_middle.symm

/-- The ranges of several classes, merged one after the other. -/
def mergeAll (steps : Nat) (classes : List Ranges) : Ranges :=
  classes.foldr (merge steps) []

/-- Merging rearranges the ranges of all lists. -/
theorem mergeAll_perm (steps : Nat) (classes : List Ranges) :
    (mergeAll steps classes).Perm classes.flatten := by
  induction classes with
  | nil => exact .refl _
  | cons ranges classes ih => exact (merge_perm steps ranges _).trans (ih.append_left ranges)

/-- A number is in merged ranges when it is in those of some list. -/
theorem has_mergeAll_iff {steps : Nat} {classes : List Ranges} :
    (mergeAll steps classes).Has code ↔ ∃ ranges ∈ classes, ranges.Has code := by
  rw [has_congr (mergeAll_perm steps classes)]
  simp only [Has, List.mem_flatten]
  grind

/-- No code is in two classes whose merged ranges are increasing. -/
theorem pairwise_not_has_of_increasing {steps : Nat} {classes : List Ranges}
    (increasing : SearchTree.Increasing id (mergeAll steps classes)) :
    classes.Pairwise fun ranges others => ∀ code, ranges.Has code → ¬others.Has code := by
  have apart : classes.flatten.Pairwise fun range other =>
      range.2 < other.1 ∨ other.2 < range.1 :=
    (mergeAll_perm steps classes).pairwise (increasing.2.imp .inl) .symm
  refine (List.pairwise_flatten.mp apart).2.imp ?_
  rintro ranges others apart code ⟨range, member, low, high⟩ ⟨other, memberToo, lowToo, highToo⟩
  have := apart range member other memberToo
  omega

/-! ## Closing gaps -/

/-- Puts a range and those that follow it without a gap into one, and so on. -/
def coalesceFrom (range : Nat × Nat) : Ranges → Ranges
  | [] => [range]
  | next :: rest =>
    if range.2 + 1 = next.1 then coalesceFrom (range.1, next.2) rest
    else range :: coalesceFrom next rest

/-- Puts ranges that follow each other without a gap into one. -/
def coalesce : Ranges → Ranges
  | [] => []
  | range :: rest => coalesceFrom range rest

/-- Joining a range with those that it touches changes nothing about what is in them. -/
theorem has_coalesceFrom_iff {range : Nat × Nat} (nonempty : range.1 ≤ range.2)
    (increase : increaseFrom (range.2 + 1) ranges) :
    (coalesceFrom range ranges).Has code ↔ Has (range :: ranges) code := by
  induction ranges generalizing range with
  | nil => rfl
  | cons next rest ih =>
    obtain ⟨low, nextNonempty, later⟩ := increaseFrom_cons_iff.mp increase
    rw [coalesceFrom]
    split
    next follows =>
      have whole : range.1 ≤ next.2 := by omega
      have both : (range.1 ≤ code ∧ code ≤ next.2) ↔
          (range.1 ≤ code ∧ code ≤ range.2) ∨ (next.1 ≤ code ∧ code ≤ next.2) := by omega
      rw [@ih (range.1, next.2) whole later, has_cons_iff, has_cons_iff, has_cons_iff, ← or_assoc,
        ← both]
    next => rw [has_cons_iff, has_cons_iff, ih nextNonempty later]

/-- Joining ranges that touch changes nothing about what is in them. -/
theorem has_coalesce_iff {bound : Nat} (increase : increaseFrom bound ranges) :
    (coalesce ranges).Has code ↔ ranges.Has code := by
  cases ranges with
  | nil => rfl
  | cons range rest =>
    obtain ⟨_, nonempty, later⟩ := increaseFrom_cons_iff.mp increase
    exact has_coalesceFrom_iff nonempty later

end Ranges

/-! ## Whole intervals -/

/-- What a tree finds for each code from `first` to `last`, if no interval of the items that it comes
by begins or ends between them. -/
def SearchTree.findThroughout? {α : Type} (bounds : α → Nat × Nat) (first last : Nat) :
    SearchTree α → Option (Option α)
  | leaf => some none
  | node left item right =>
    if last < (bounds item).1 then findThroughout? bounds first last left
    else if first < (bounds item).1 then none
    else if last ≤ (bounds item).2 then some (some item)
    else if first ≤ (bounds item).2 then none
    else findThroughout? bounds first last right

/-- What is found throughout an interval is found at every number in it. -/
theorem SearchTree.find?_of_findThroughout? {α : Type} {bounds : α → Nat × Nat}
    {tree : SearchTree α} {first last code : Nat} {found : Option α}
    (throughout : tree.findThroughout? bounds first last = some found) (low : first ≤ code)
    (high : code ≤ last) : tree.find? bounds code = found := by
  induction tree with
  | leaf =>
    cases throughout
    rfl
  | node left item right leftIh rightIh =>
    unfold findThroughout? at throughout
    unfold find?
    split at throughout
    next before =>
      have goesLeft : code < (bounds item).1 := by omega
      rw [if_pos goesLeft]
      exact leftIh throughout
    next =>
      split at throughout
      · cases throughout
      next notBefore =>
        have notLeft : ¬code < (bounds item).1 := by omega
        rw [if_neg notLeft]
        split at throughout
        next inside =>
          have here : code ≤ (bounds item).2 := by omega
          rw [if_pos here]
          exact Option.some.inj throughout
        next =>
          split at throughout
          · cases throughout
          next after =>
            have notHere : ¬code ≤ (bounds item).2 := by omega
            rw [if_neg notHere]
            exact rightIh throughout

/-- Whether a tree contains the codes from `first` to `last`, if it finds the same for all of
them. -/
def RangeTree.holds? (tree : RangeTree) (first last : Nat) : Option Bool :=
  (tree.findThroughout? id first last).map Option.isSome

/-- What holds throughout an interval holds at every number in it. -/
theorem RangeTree.contains_of_holds? {tree : RangeTree} {first last code : Nat} {held : Bool}
    (known : tree.holds? first last = some held) (low : first ≤ code) (high : code ≤ last) :
    tree.contains code = held := by
  obtain ⟨found, throughout, rfl⟩ := Option.map_eq_some_iff.mp known
  rw [contains, SearchTree.find?_of_findThroughout? throughout low high]

end FieldSearch.Text
