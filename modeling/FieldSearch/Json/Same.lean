import FieldSearch.Json.Basic
import FieldSearch.Number.Value

/-!
# Equality of JSON values

Two JSON values are the same when they agree up to the kinds of their numbers and the order of
their members. Numbers are compared by value, and the truth values count as one and zero, so that
`1`, `1.0` and true are the same.
-/

namespace FieldSearch.Json

/-- The value of a number; true counts as one and false as zero. -/
def numericValue? : Json → Option NumericValue
  | .bool b => some (.ofInt (if b then 1 else 0))
  | .int n => some (.ofInt n)
  | .float x => some x.value
  | _ => none

mutual

/-- Whether two values are the same. -/
def same : Json → Json → Bool
  | .null, .null => true
  | .str first, .str second => first = second
  | .arr first, .arr second => sameItems first second
  | .obj first, .obj second => first.length = second.length && sameMembers first second
  | first, second =>
    match first.numericValue?, second.numericValue? with
    | some first, some second => first = second
    | _, _ => false

/-- Whether two arrays have the same items in order. -/
def sameItems : List Json → List Json → Bool
  | [], [] => true
  | first :: rest, second :: others => same first second && sameItems rest others
  | _, _ => false

/-- Whether all members are among those of an object, with the same values. -/
def sameMembers : List (Text × Json) → Entries Json → Bool
  | [], _ => true
  | (name, value) :: rest, others =>
    (match others.find? name with
      | some other => same value other
      | none => false) &&
      sameMembers rest others

end

/-- Whether a value equals one. -/
def isOne (value : Json) : Bool :=
  value.same (.int 1)

/-- Whether a value counts as nothing: null, false, zero, or an empty text, array or object. -/
def isNothing : Json → Bool
  | .null => true
  | .str text => text.isEmpty
  | .arr items => items.isEmpty
  | .obj members => members.isEmpty
  | value => value.same (.int 0)

end FieldSearch.Json
