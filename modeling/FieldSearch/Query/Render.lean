import FieldSearch.Failure
import FieldSearch.Query.Basic

/-!
# Queries as text

A query is written in the query language of the engine: a term with its edit distance, a pattern
between slashes, or a phrase between quotes, followed by the boost unless that is one. Nothing in
a term is escaped. A phrase is written slot by slot: a slot no term occupies is a question mark,
terms at one position are joined by bars, and a negative position counts from the last slot there
is when the term is placed. Positions have to be integers or truth values, which count as one and
zero, and a text alone at its position has to be a text. A position so far on that there cannot be
as many slots has none.
-/

namespace FieldSearch

/-- The slots of a phrase; an empty one is null. -/
abbrev Slots := List Json

namespace Slots

/-- The greatest index. -/
def maxIndex : Nat := 0x7FFFFFFFFFFFFFFF

/-- The greatest number of slots that there can be: each takes eight bytes, and an index counts the
bytes. -/
def maxSlots : Nat := maxIndex / 8

/-- Appends empty slots until there is one at the position. A negative position needs none. An index
has to count the slots that are missing, and there cannot be more than the greatest number of slots;
memory for up to as many is taken to be there. -/
def growTo (slots : Slots) (position : Int) : Except Failure Slots :=
  let missing := (position + 1).toNat - slots.length
  if maxIndex < missing then .error .tooManySlots
  else if maxSlots < (position + 1).toNat then .error .outOfMemory
  else .ok (slots ++ List.replicate missing .null)

/-- The index of the slot that a position names. -/
def index? (slots : Slots) (position : Int) : Option Nat :=
  if 0 ≤ position then some position.toNat
  else if -position ≤ slots.length then some (position + slots.length).toNat
  else none

/-- The integer that a position is or stands for. -/
def position (slots : Slots) : Json → Except Failure Int
  | .int n => .ok n
  | .bool b => .ok (if b then 1 else 0)
  | value => .error (.notPosition value slots.length)

/-- A slot after one more text has been put into it. -/
def join (slot text : Json) : Json :=
  match slot with
  | .null => text
  | texts => .str (texts.plain ++ "|" ++ text.plain)

/-- Places a term. A position that counts back beyond the first slot names none. -/
def place (slots : Slots) (term : PhraseTerm) : Except Failure Slots := do
  let position ← slots.position term.position
  let slots ← slots.growTo position
  match slots.index? position with
  | some index => return slots.modify index (join · term.text)
  | none => throw (.noSlot position)

/-- A slot as text, given its index. -/
def renderSlot (index : Nat) : Json → Except Failure Text
  | .null => .ok "?"
  | .str text => .ok text
  | value => .error (.notSlotText index value)

/-- The slots as they stand between the quotes. -/
def render (slots : Slots) : Except Failure Text := do
  let texts ← slots.zipIdx.mapM fun (slot, index) => renderSlot index slot
  return Text.join " " texts

end Slots

namespace PhraseClause

/-- The slots of a phrase, with its terms placed in order. -/
def slots (clause : PhraseClause) : Except Failure Slots :=
  clause.terms.foldlM Slots.place []

/-- A phrase as text, with its slop unless that counts as nothing. -/
def render (clause : PhraseClause) : Except Failure Text := do
  let phrase ← (← clause.slots).render
  let slop : Text := if clause.slop.isNothing then [] else "~" ++ clause.slop.plain
  return clause.field ++ ":\"" ++ phrase ++ "\"" ++ slop

end PhraseClause

/-- A clause as text. -/
def Clause.render : Clause → Except Failure Text
  | .fuzzy clause => .ok (clause.term.render ++ "~" ++ clause.maxEdits.plain)
  | .regexp term => .ok (term.field ++ ":/" ++ term.text.plain ++ "/")
  | .phrase clause => clause.render

/-- The boost of a query as text: nothing if it is one. -/
def renderBoost (boost : Json) : Text :=
  if boost.isOne then "" else "^" ++ boost.plain

/-- A query as text. -/
def Query.render (query : Query) : Except Failure Text :=
  (query.clause.render).map (· ++ renderBoost query.boost)

end FieldSearch
