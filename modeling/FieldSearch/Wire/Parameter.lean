import FieldSearch.Json.Basic
import FieldSearch.Wire.Problem

/-!
# Parameters of a document

A parameter has a name and a spelling of its own in documents. A document may give it under either,
and the document's own spelling goes before the name. A parameter that is not given takes its
default.
-/

namespace FieldSearch.Wire

/-- A parameter by its name and its spelling in documents. -/
structure Parameter where
  name : Text
  spelling : Text
deriving DecidableEq, Repr

namespace Parameter

/-- A parameter with one name everywhere. -/
def plain (name : Text) : Parameter :=
  ⟨name, name⟩

/-- The key under which a document gives a parameter, and the value. -/
def find? (parameter : Parameter) (members : Entries Json) : Option (Text × Json) :=
  match members.find? parameter.spelling with
  | some value => some (parameter.spelling, value)
  | none => (members.find? parameter.name).map (parameter.name, ·)

/-- Reads a parameter; its problems are located at the key that the document uses. -/
def read {α : Type} (parameter : Parameter) (members : Entries Json) (default : α)
    (accept : Json → Checked α) : Checked α :=
  match parameter.find? members with
  | some (key, value) => (accept value).under (.member key)
  | none => .accepted default

/-- Reads a parameter that has to be given. -/
def require {α : Type} (parameter : Parameter) (members : Entries Json)
    (accept : Json → Checked α) : Checked α :=
  match parameter.find? members with
  | some (key, value) => (accept value).under (.member key)
  | none => .rejected [⟨[.member parameter.spelling], .missing⟩]

end Parameter

/-- Takes null for the default and reads everything else. -/
def nullMeansDefault {α : Type} (default : α) (accept : Json → Checked α) : Json → Checked α
  | .null => .accepted default
  | value => accept value

end FieldSearch.Wire
