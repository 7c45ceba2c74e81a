import FieldSearch.Text.Basic

/-!
# Problems of a document

A document can have several problems at once. Each is a mismatch between a value and what its place
asks for, together with the location of the value in the document.
-/

namespace FieldSearch.Wire

/-- How a value fails to be what its place asks for. -/
inductive Mismatch
  | missing
  | extra
  | frozen
  | notText
  | notUnicode
  | notInteger
  | notIntegerText
  | fractional
  | notFinite
  | integerTooLarge
  | notNumber
  | notNumberText
  | notBoolean
  | notBooleanValue
  | notSequence
  | notDictionary
  | notInstance (name : Text)
  | notOneOf (names : List Text)
deriving DecidableEq, Repr

/-- Quoted names as alternatives: the last one follows the word "or". -/
def alternatives : List Text → Text
  | [] => ""
  | [name] => "'" ++ name ++ "'"
  | [name, last] => "'" ++ name ++ "' or '" ++ last ++ "'"
  | name :: rest => "'" ++ name ++ "', " ++ alternatives rest

/-- How a mismatch is described. -/
def Mismatch.text : Mismatch → Text
  | .missing => "Field required"
  | .extra => "Extra inputs are not permitted"
  | .frozen => "Instance is frozen"
  | .notText => "Input should be a valid string"
  | .notUnicode => "Input should be a valid string, unable to parse raw data as a unicode string"
  | .notInteger => "Input should be a valid integer"
  | .notIntegerText => "Input should be a valid integer, unable to parse string as an integer"
  | .fractional => "Input should be a valid integer, got a number with a fractional part"
  | .notFinite => "Input should be a finite number"
  | .integerTooLarge => "Unable to parse input string as an integer, exceeded maximum size"
  | .notNumber => "Input should be a valid number"
  | .notNumberText => "Input should be a valid number, unable to parse string as a number"
  | .notBoolean => "Input should be a valid boolean"
  | .notBooleanValue => "Input should be a valid boolean, unable to interpret input"
  | .notSequence => "Input should be a valid tuple"
  | .notDictionary => "Input should be a valid dictionary"
  | .notInstance name => "Input should be a valid dictionary or instance of " ++ name
  | .notOneOf names => "Input should be " ++ alternatives names

/-- A step into a document: to a member of an object or to an item of an array. -/
inductive Segment
  | member (name : Text)
  | item (index : Nat)
deriving DecidableEq, Repr

/-- How a step is written. -/
def Segment.text : Segment → Text
  | .member name => name.mended
  | .item index => toString index

/-- The steps from the document to a value in it. -/
abbrev Location := List Segment

/-- The steps joined by points. -/
def Location.text (location : Location) : Text :=
  Text.join "." (location.map Segment.text)

/-- A mismatch and the place where it occurs. -/
structure Problem where
  location : Location
  mismatch : Mismatch
deriving DecidableEq, Repr

/-- The same problem seen from one step further out. -/
def Problem.under (segment : Segment) (problem : Problem) : Problem :=
  { problem with location := segment :: problem.location }

/-- What is read from a document, or all problems that prevent it. -/
inductive Checked (α : Type)
  | accepted (value : α)
  | rejected (problems : List Problem)
deriving DecidableEq, Repr

namespace Checked

variable {α β : Type}

/-- Changes what is read. -/
def map (f : α → β) : Checked α → Checked β
  | accepted value => accepted (f value)
  | rejected problems => rejected problems

/-- Applies what is read first to what is read next. The problems of both are kept, the first ones
first. -/
def apply (first : Checked (α → β)) (next : Checked α) : Checked β :=
  match first, next with
  | accepted f, accepted value => accepted (f value)
  | accepted _, rejected problems => rejected problems
  | rejected problems, accepted _ => rejected problems
  | rejected problems, rejected further => rejected (problems ++ further)

instance : Functor Checked where
  map f reading := reading.map f

instance : Applicative Checked where
  pure := accepted
  seq first next := first.apply (next ())

/-- The refusal of the value itself. -/
def refuse (mismatch : Mismatch) : Checked α :=
  rejected [⟨[], mismatch⟩]

/-- A reading of a part, seen from one step further out. -/
def under (segment : Segment) : Checked α → Checked α
  | accepted value => accepted value
  | rejected problems => rejected (problems.map (Problem.under segment))

/-- The readings of the parts in order, with the problems of all. -/
def collect : List (Checked α) → Checked (List α)
  | [] => accepted []
  | reading :: rest => List.cons <$> reading <*> collect rest

/-- The problems that prevent a reading. -/
def problems : Checked α → List Problem
  | accepted _ => []
  | rejected problems => problems

/-- Changing what is read changes no problem. -/
theorem problems_map (f : α → β) (reading : Checked α) :
    (f <$> reading).problems = reading.problems := by
  cases reading <;> rfl

/-- Readings one after the other have the problems of both, in order. -/
theorem problems_seq (first : Checked (α → β)) (next : Checked α) :
    (first <*> next).problems = first.problems ++ next.problems := by
  cases first <;> cases next <;> simp [Seq.seq, apply, problems]

end Checked

end FieldSearch.Wire
