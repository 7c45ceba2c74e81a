import FieldSearch.Text.Basic

/-!
# Kinds of conditions

A condition matches approximately, by a pattern or by a phrase. The name of the kind is the type
tag of the condition's document.
-/

namespace FieldSearch

/-- How a condition matches. -/
inductive Kind
  | fuzzy
  | regexp
  | phrase
deriving DecidableEq, Repr

namespace Kind

/-- All kinds, in the order in which they are declared and suggested. -/
def all : List Kind :=
  [.fuzzy, .regexp, .phrase]

/-- The name of a kind, which is its type tag. -/
def name : Kind → Text
  | .fuzzy => "fuzzy"
  | .regexp => "regexp"
  | .phrase => "phrase"

/-- The kind of exactly this name. -/
def ofName? (name : Text) : Option Kind :=
  all.find? (·.name = name)

/-- The names of all kinds. -/
def names : List Text :=
  all.map name

/-- Every kind is found under its name. -/
theorem ofName?_name (kind : Kind) : ofName? kind.name = some kind := by
  cases kind <;> decide

/-- The names are those of the kinds. -/
theorem mem_names_iff {name : Text} : name ∈ names ↔ ∃ kind : Kind, kind.name = name := by
  constructor
  · intro member
    obtain ⟨kind, _, named⟩ := List.mem_map.mp member
    exact ⟨kind, named⟩
  · rintro ⟨kind, rfl⟩
    cases kind <;> decide

/-- A name that is not listed names no kind. -/
theorem ofName?_eq_none_iff {name : Text} : ofName? name = none ↔ name ∉ names := by
  rw [ofName?, List.find?_eq_none, names, List.mem_map]
  simp

end Kind

end FieldSearch
