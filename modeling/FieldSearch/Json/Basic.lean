import FieldSearch.Entries
import FieldSearch.Number.Shortest
import FieldSearch.Text.Quoted

/-!
# JSON values

A JSON value keeps integers apart from numbers with a fraction or an exponent. Integers have any
size; the others are binary64 numbers and may be infinite or not a number. Besides its written form
a value has a displayed form, in which messages show it.
-/

namespace FieldSearch

/-- A JSON value. The members of an object have distinct names. -/
inductive Json
  | null
  | bool (value : Bool)
  | int (value : Int)
  | float (value : Binary64)
  | str (value : Text)
  | arr (items : List Json)
  | obj (members : List (Text × Json))
deriving Repr

namespace Json

instance : Inhabited Json := ⟨.null⟩

/-- A text or null. -/
def ofText? : Option Text → Json
  | some text => .str text
  | none => .null

/-- The name of a value's kind in messages. -/
def kindName : Json → Text
  | .null => "NoneType"
  | .bool _ => "bool"
  | .int _ => "int"
  | .float _ => "float"
  | .str _ => "str"
  | .arr _ => "list"
  | .obj _ => "dict"

mutual

/-- A value as messages display it: texts are quoted, null and the truth values have names of
their own. -/
def display : Json → Text
  | .null => "None"
  | .bool b => if b then "True" else "False"
  | .int n => toString n
  | .float x => x.text
  | .str text => text.quoted
  | .arr items => "[" ++ Text.join ", " (displayItems items) ++ "]"
  | .obj members => "\x7b" ++ Text.join ", " (displayMembers members) ++ "\x7d"

/-- The displays of the items of an array. -/
def displayItems : List Json → List Text
  | [] => []
  | item :: items => display item :: displayItems items

/-- The displays of the members of an object. -/
def displayMembers : List (Text × Json) → List Text
  | [] => []
  | (name, value) :: members =>
    (name.quoted ++ ": " ++ display value) :: displayMembers members

end

/-- A value as plain text: a text stands for itself, everything else as displayed. -/
def plain : Json → Text
  | .str text => text
  | value => value.display

end Json

end FieldSearch
