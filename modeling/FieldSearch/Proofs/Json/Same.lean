import FieldSearch.Json.Same
import FieldSearch.Proofs.Entries
import FieldSearch.Proofs.Number.Value

/-!
# Equality of arrays and objects

Arrays are the same when their items are the same one by one. Objects whose members have the same
distinct names in order are the same when their values are the same one by one. Values of one kind
other than arrays, objects and binary64 numbers are the same when they are equal.
-/

namespace FieldSearch.Json

/-! ## Values without parts -/

/-- Integers are the same only if they are equal. -/
theorem same_int_iff {first second : Int} : (int first).same (.int second) ↔ first = second := by
  simp [same, numericValue?, NumericValue.ofInt_injective.eq_iff]

/-- Truth values are the same only if they are equal. -/
theorem same_bool_iff {first second : Bool} :
    (bool first).same (.bool second) ↔ first = second := by
  cases first <;> cases second <;>
    simp [same, numericValue?, NumericValue.ofInt_injective.eq_iff]

/-- Texts that may be missing are the same only if they are equal. -/
theorem same_ofText?_iff {first second : Option Text} :
    (ofText? first).same (ofText? second) ↔ first = second := by
  cases first <;> cases second <;> simp [ofText?, same, numericValue?]

/-! ## Arrays -/

/-- Arrays of things are the same when the things are, if the form of a thing tells it. -/
theorem same_arr_map {α : Type} {toJson : α → Json} {alike : α → α → Bool}
    (tells : ∀ first second, (toJson first).same (toJson second) = alike first second)
    (first second : List α) :
    (arr (first.map toJson)).same (.arr (second.map toJson)) = first.isEqv second alike := by
  rw [same]
  induction first generalizing second with
  | nil => cases second <;> rfl
  | cons item items ih =>
    cases second with
    | nil => rfl
    | cons other others =>
      rw [List.map_cons, List.map_cons, sameItems, List.isEqv, tells, ih]

/-! ## Objects -/

/-- A member under a name that is not looked for makes no difference. -/
theorem sameMembers_cons_of_notMem {members others : List (Text × Json)} {name : Text}
    (absent : name ∉ Entries.names members) (value : Json) :
    sameMembers members ((name, value) :: others) = sameMembers members others := by
  induction members with
  | nil => rfl
  | cons member rest ih =>
    obtain ⟨other, later⟩ := not_or.mp (mt List.mem_cons.mpr absent)
    rw [sameMembers, sameMembers, Entries.find?, if_neg other, ih later]

/-- Objects with the same names are the same when the values under each name are. -/
theorem same_obj_of_names {first second : List (Text × Json)}
    (names : Entries.names first = Entries.names second)
    (distinct : (Entries.names first).Nodup) :
    (obj first).same (.obj second) =
      (first.map Prod.snd).isEqv (second.map Prod.snd) same := by
  have members : sameMembers first second =
      (first.map Prod.snd).isEqv (second.map Prod.snd) same := by
    -- The first name is found at once, and it is none of the names looked for later.
    induction first generalizing second with
    | nil =>
      cases second with
      | nil => rfl
      | cons member rest => cases names
    | cons member rest ih =>
      cases second with
      | nil => cases names
      | cons other others =>
        obtain ⟨absent, later⟩ := List.nodup_cons.mp distinct
        obtain ⟨name, value⟩ := member
        obtain ⟨otherName, otherValue⟩ := other
        obtain ⟨rfl, namesLater⟩ := List.cons.inj names
        rw [sameMembers, Entries.find?, if_pos rfl, sameMembers_cons_of_notMem absent,
          ih namesLater later]
        rfl
  have count : first.length = second.length := by
    simpa [Entries.names] using congrArg List.length names
  rw [same, members, decide_eq_true count, Bool.true_and]

/-- Objects with one member each are the same when the names are equal and the values the same. -/
theorem same_obj_singleton (name other : Text) (value another : Json) :
    (obj [(name, value)]).same (.obj [(other, another)]) =
      (decide (name = other) && value.same another) := by
  by_cases equal : name = other
  · subst equal
    have names : Entries.names [(name, value)] = Entries.names [(name, another)] := rfl
    rw [same_obj_of_names names (by simp [Entries.names])]
    simp [List.isEqv]
  · simp [same, sameMembers, Entries.find?, equal, Ne.symm equal]

end FieldSearch.Json
