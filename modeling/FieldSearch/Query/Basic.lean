import FieldSearch.Json.Same

/-!
# Queries

A query is what the search engine executes: a clause and a boost. The texts, positions and settings
of a query keep the values they are given, whatever their kinds. A query can be rendered as a
document of the query language.
-/

namespace FieldSearch

/-- A field and the text of a term of the index; a missing text is null. -/
structure Term where
  field : Text
  text : Json
deriving Repr

/-- Whether two terms have the same field and the same text. -/
def Term.same (first second : Term) : Bool :=
  first.field = second.field && first.text.same second.text

/-- A field and a term text joined by a colon; a text that counts as nothing is left out. -/
def Term.render (term : Term) : Text :=
  term.field ++ ":" ++ if term.text.isNothing then [] else term.text.plain

/-- Terms within `maxEdits` of a term. -/
structure FuzzyClause where
  term : Term
  maxEdits : Json
  prefixLength : Json
  maxExpansions : Json
  transpositions : Json
deriving Repr

/-- The text of a term at a position of a phrase. -/
structure PhraseTerm where
  text : Json
  position : Json
deriving Repr

/-- Whether two terms of phrases have the same text and stand at the same position. -/
def PhraseTerm.same (first second : PhraseTerm) : Bool :=
  first.text.same second.text && first.position.same second.position

/-- Terms at their positions relative to each other, give or take `slop` moves. -/
structure PhraseClause where
  field : Text
  terms : List PhraseTerm
  slop : Json
deriving Repr

/-- What a query looks for. The term of a `regexp` clause holds the pattern. -/
inductive Clause
  | fuzzy (clause : FuzzyClause)
  | regexp (term : Term)
  | phrase (clause : PhraseClause)
deriving Repr

/-- A clause and the weight of what it finds. -/
structure Query where
  clause : Clause
  boost : Json
deriving Repr

/-- Whether two clauses are of one kind and agree in all parameters, settings and positions by
value. -/
def Clause.same : Clause → Clause → Bool
  | .fuzzy first, .fuzzy second =>
    first.term.same second.term && first.maxEdits.same second.maxEdits &&
      first.prefixLength.same second.prefixLength &&
      first.maxExpansions.same second.maxExpansions &&
      first.transpositions.same second.transpositions
  | .regexp first, .regexp second => first.same second
  | .phrase first, .phrase second =>
    first.field = second.field && first.terms.isEqv second.terms PhraseTerm.same &&
      first.slop.same second.slop
  | _, _ => false

/-- The field that a clause looks into. -/
def Clause.field : Clause → Text
  | .fuzzy clause => clause.term.field
  | .regexp term => term.field
  | .phrase clause => clause.field

namespace Query

/-- The boost of a query that is given none. -/
def defaultBoost : Json := .float .one

/-- The field that a query looks into. -/
def field (query : Query) : Text :=
  query.clause.field

/-- Whether two queries have the same clause and the same boost. -/
def same (first second : Query) : Bool :=
  first.clause.same second.clause && first.boost.same second.boost

/-- The same query with another boost. -/
def withBoost (query : Query) (boost : Json) : Query :=
  { query with boost }

end Query

/-- A term of a phrase as a document. -/
def PhraseTerm.toJson (term : PhraseTerm) : Json :=
  .obj [("text", term.text), ("position", term.position)]

/-- The name of a clause's kind and the parameters of the clause, as documents give them. -/
def Clause.body : Clause → Text × List (Text × Json)
  | .fuzzy clause =>
    ("fuzzy",
      [("value", clause.term.text),
       ("fuzziness", clause.maxEdits),
       ("prefix_length", clause.prefixLength),
       ("max_expansions", clause.maxExpansions),
       ("transpositions", clause.transpositions)])
  | .regexp term => ("regexp", [("value", term.text)])
  | .phrase clause =>
    ("phrase",
      [("terms", .arr (clause.terms.map PhraseTerm.toJson)), ("slop", clause.slop)])

/-- A query as a document: the kind, in it the field, and in that the parameters and the boost. -/
def Query.toJson (query : Query) : Json :=
  let (kind, parameters) := query.clause.body
  .obj [(kind, .obj [(query.field, .obj (parameters.concat ("boost", query.boost)))])]

end FieldSearch
