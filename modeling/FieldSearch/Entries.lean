import FieldSearch.Text.Basic

/-!
# Named entries in order

A list of entries has distinct names and keeps the order in which the names were first put. Putting
a name again changes its value in place.
-/

namespace FieldSearch

/-- Values under distinct names, in the order in which the names were first put. -/
abbrev Entries (α : Type) := List (Text × α)

namespace Entries

variable {α : Type}

/-- The value under a name. -/
def find? : Entries α → Text → Option α
  | [], _ => none
  | (other, value) :: rest, name => if other = name then some value else find? rest name

/-- The names, in order. -/
def names (entries : Entries α) : List Text :=
  List.map Prod.fst entries

/-- Gives a name a value, in place if the name is there and at the end otherwise. -/
def put : Entries α → Text → α → Entries α
  | [], name, value => [(name, value)]
  | (other, old) :: rest, name, value =>
    if other = name then (name, value) :: rest else (other, old) :: put rest name value

/-- Puts all entries of a list, from the first to the last. -/
def putAll (entries : Entries α) (added : List (Text × α)) : Entries α :=
  added.foldl (fun entries entry => entries.put entry.1 entry.2) entries

/-- The entries of a list of pairs: of several values under one name, the last. -/
def ofList (pairs : List (Text × α)) : Entries α :=
  putAll [] pairs

/-- A name that has been put is found with its new value, and any other name as before. -/
theorem find?_put (entries : Entries α) (name other : Text) (value : α) :
    (entries.put name value).find? other =
      if name = other then some value else entries.find? other := by
  induction entries with
  | nil => rfl
  | cons entry rest ih =>
    obtain ⟨first, old⟩ := entry
    by_cases same : first = name
    · subst same
      by_cases again : first = other <;> simp [put, find?, again]
    · by_cases again : first = other
      · subst again
        simp [put, find?, same, Ne.symm same]
      · simp [put, find?, same, again, ih]

/-- A value found under a name is the value of an entry. -/
theorem mem_of_find? {entries : Entries α} {name : Text} {value : α}
    (found : entries.find? name = some value) : (name, value) ∈ entries := by
  induction entries with
  | nil => simp [find?] at found
  | cons entry rest ih =>
    obtain ⟨other, old⟩ := entry
    by_cases same : other = name
    · subst same
      simp_all [find?]
    · simp only [find?, if_neg same] at found
      exact List.mem_cons_of_mem _ (ih found)

/-- Of entries with distinct names each is found under its name. -/
theorem find?_of_mem {entries : Entries α} {name : Text} {value : α}
    (distinct : entries.names.Nodup) (member : (name, value) ∈ entries) :
    entries.find? name = some value := by
  induction entries with
  | nil => simp at member
  | cons entry rest ih =>
    obtain ⟨absent, distinct⟩ := List.nodup_cons.mp distinct
    rcases List.mem_cons.mp member with rfl | later
    · simp [find?]
    · have other : entry.1 ≠ name := by
        intro same
        exact absent (List.mem_map.mpr ⟨_, later, same.symm⟩)
      rw [find?, if_neg other]
      exact ih distinct later

end Entries

end FieldSearch
