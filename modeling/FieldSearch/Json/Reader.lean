import FieldSearch.Json.Lexeme

/-!
# Reading JSON text

A text is read one lexeme at a time. What has been read is a stack of open arrays and objects
together with a stage, which says what may come next. The first lexeme that may not come next gives
the fault that is reported, with its place in the text. A text that ends too early is at fault where
it ends.
-/

namespace FieldSearch.Json

/-- Why a text cannot be read: a fault at a place, or an integer with too many digits. -/
inductive ReadError
  | malformed (fault : SyntaxFault) (place : Text)
  | longInteger (digits : Nat)
deriving DecidableEq, Repr

/-- An open array with the items read so far, the last one first, or an open object with the
members read so far and the name of the next one. -/
inductive Frame
  | array (items : List Json)
  | object (members : Entries Json) (name : Text)

/-- What may come next: a value, where the array just opened may also close; the name of a member,
where the object just opened may also close; the colon after a name; or what follows a complete
value. -/
inductive Stage
  | value (mayClose : Bool)
  | name (members : Entries Json) (mayClose : Bool)
  | colon (members : Entries Json) (name : Text)
  | complete (value : Json)

/-- The open arrays and objects, innermost first, and the stage. -/
structure ReadState where
  frames : List Frame
  stage : Stage

/-- The state before any lexeme. -/
def ReadState.initial : ReadState :=
  ⟨[], .value false⟩

namespace ReadState

/-- Reads a lexeme where a value is expected. -/
def readValue (frames : List Frame) (mayClose : Bool) (place : Text) :
    Lexeme → Except ReadError ReadState
  | .scalar value => .ok ⟨frames, .complete value⟩
  | .string text => .ok ⟨frames, .complete (.str text)⟩
  | .mark '\x7b' => .ok ⟨frames, .name [] true⟩
  | .mark '[' => .ok ⟨.array [] :: frames, .value true⟩
  | .mark ']' =>
    match mayClose, frames with
    | true, .array items :: outer => .ok ⟨outer, .complete (.arr items.reverse)⟩
    | _, _ => .error (.malformed .expectingValue place)
  | .brokenString fault place => .error (.malformed fault place)
  | .longInteger digits => .error (.longInteger digits)
  | _ => .error (.malformed .expectingValue place)

/-- Reads a lexeme where the name of a member is expected. -/
def readName (frames : List Frame) (members : Entries Json) (mayClose : Bool) (place : Text) :
    Lexeme → Except ReadError ReadState
  | .string name => .ok ⟨frames, .colon members name⟩
  | .mark '\x7d' =>
    if mayClose then .ok ⟨frames, .complete (.obj members)⟩
    else .error (.malformed .expectingName place)
  | .brokenString fault place => .error (.malformed fault place)
  | _ => .error (.malformed .expectingName place)

/-- Reads a lexeme after the name of a member. -/
def readColon (frames : List Frame) (members : Entries Json) (name : Text) (place : Text) :
    Lexeme → Except ReadError ReadState
  | .mark ':' => .ok ⟨.object members name :: frames, .value false⟩
  | _ => .error (.malformed .expectingColon place)

/-- Reads a lexeme after a complete value. -/
def readDelimiter (frames : List Frame) (value : Json) (place : Text) (lexeme : Lexeme) :
    Except ReadError ReadState :=
  match frames with
  | [] => .error (.malformed .extraData place)
  | .array items :: outer =>
    match lexeme with
    | .mark ',' => .ok ⟨.array (value :: items) :: outer, .value false⟩
    | .mark ']' => .ok ⟨outer, .complete (.arr (value :: items).reverse)⟩
    | _ => .error (.malformed .expectingComma place)
  | .object members name :: outer =>
    match lexeme with
    | .mark ',' => .ok ⟨outer, .name (members.put name value) false⟩
    | .mark '\x7d' => .ok ⟨outer, .complete (.obj (members.put name value))⟩
    | _ => .error (.malformed .expectingComma place)

/-- Reads one lexeme. -/
def step (state : ReadState) (lexeme : Lexeme × Text) : Except ReadError ReadState :=
  let (lexeme, place) := lexeme
  match state.stage with
  | .value mayClose => readValue state.frames mayClose place lexeme
  | .name members mayClose => readName state.frames members mayClose place lexeme
  | .colon members name => readColon state.frames members name place lexeme
  | .complete value => readDelimiter state.frames value place lexeme

/-- The value that has been read when the text ends. -/
def finish (state : ReadState) : Except ReadError Json :=
  match state.stage, state.frames with
  | .complete value, [] => .ok value
  | .complete _, _ :: _ => .error (.malformed .expectingComma [])
  | .value _, _ => .error (.malformed .expectingValue [])
  | .name .., _ => .error (.malformed .expectingName [])
  | .colon .., _ => .error (.malformed .expectingColon [])

end ReadState

/-- Reads a text that must consist of one value and blanks. Of several members of an object with
one name, the last gives the value. -/
def read (text : Text) : Except ReadError Json :=
  if text.head? = some (.char '\uFEFF') then .error (.malformed .byteOrderMark text)
  else do
    let state ← (lexemes text).foldlM ReadState.step .initial
    state.finish

/-- How a fault in a text is described together with its place: the number of the line and the
number in that line, both from one, and the number in the text, from zero. -/
def SyntaxFault.describe (fault : SyntaxFault) (text place : Text) : Text :=
  let before := text.take (text.length - place.length)
  let line := before.count (.char '\n') + 1
  let column := (before.reverse.takeWhile (· ≠ .char '\n')).length + 1
  fault.text ++ ": line " ++ toString line ++ " column " ++ toString column ++
    " (char " ++ toString before.length ++ ")"

end FieldSearch.Json
