import FieldSearch.Proofs.Json.Same
import FieldSearch.Proofs.Number.Text
import FieldSearch.Proofs.Query.Legible

/-!
# What the text of a query tells

Legible clauses on one field are told by their text, whatever the field is: the first code point
after the field gives the kind, and the rest gives the term and the distance of a fuzzy clause, the
pattern of a clause with a pattern, and the terms, the positions and the slop of a phrase. Boosts of
one value do not change that.
-/

namespace FieldSearch

/-! ## Agreement -/

theorem Json.same_int (n : Int) : (Json.int n).same (.int n) = true :=
  same_int_iff.mpr rfl

theorem Json.same_ofText? (text : Option Text) :
    (Json.ofText? text).same (Json.ofText? text) = true :=
  same_ofText?_iff.mpr rfl

/-- A term with a text that may be missing is the same as itself. -/
theorem Term.same_ofText? (field : Text) (text : Option Text) :
    Term.same ⟨field, .ofText? text⟩ ⟨field, .ofText? text⟩ = true := by
  rw [Term.same, Json.same_ofText?, decide_eq_true rfl, Bool.and_self]

/-- Placed texts make the same terms as themselves. -/
theorem Placed.isEqv_terms (placed : Placed) :
    placed.terms.isEqv placed.terms PhraseTerm.same = true := by
  induction placed with
  | nil => rfl
  | cons entry rest ih =>
    have text : (Json.str entry.1).same (.str entry.1) = true := Json.same_ofText? (some entry.1)
    have head :
        PhraseTerm.same ⟨.str entry.1, .int entry.2⟩ ⟨.str entry.1, .int entry.2⟩ = true := by
      rw [PhraseTerm.same, text, Json.same_int, Bool.and_self]
    exact Bool.and_eq_true_iff.mpr ⟨head, ih⟩

namespace Clause

/-- Clauses that the query language writes alike: two fuzzy ones with the same term and distance, or
two that are the same. -/
inductive Alike : Clause → Clause → Prop
  | fuzzy (first second : FuzzyClause) (term : first.term.same second.term)
      (maxEdits : first.maxEdits.same second.maxEdits) : Alike (.fuzzy first) (.fuzzy second)
  | regexp (first second : Term) (same : Clause.same (.regexp first) (.regexp second)) :
    Alike (.regexp first) (.regexp second)
  | phrase (first second : PhraseClause) (same : Clause.same (.phrase first) (.phrase second)) :
    Alike (.phrase first) (.phrase second)

/-- A clause on a field whose terms are legible, with its text after the field. -/
inductive Legible (field : Text) : Clause → Text → Prop
  | fuzzy (term : Option Text) (legible : ∀ text ∈ term, IsLegible text) (maxEdits : Int)
      (prefixLength maxExpansions transpositions : Json) :
    Legible field
      (.fuzzy ⟨⟨field, .ofText? term⟩, .int maxEdits, prefixLength, maxExpansions, transpositions⟩)
      (term.getD [] ++ .char '~' :: Text.ofString (toString maxEdits))
  | regexp (pattern : Text) :
    Legible field (.regexp ⟨field, .str pattern⟩) (.char '/' :: (pattern ++ [.char '/']))
  | phrase (placed : Placed) (legible : placed.Legible) (slop : Int) :
    Legible field (.phrase ⟨field, placed.terms, .int slop⟩)
      (.char '"' :: (Text.join " " placed.slotTexts ++
        .char '"' :: Placed.slopText (.int slop)))

namespace Legible

variable {field body : Text} {clause : Clause}

/-- A legible clause that can be written is written as its field and its text after the field. -/
theorem eq_of_render (legible : Legible field clause body) {text : Text}
    (written : clause.render = .ok text) : field ++ .char ':' :: body = text := by
  cases legible with
  | fuzzy term legible maxEdits _ _ _ =>
    have shown : (if (Json.ofText? term).isNothing then [] else (Json.ofText? term).plain) =
        term.getD [] := by
      cases term with
      | none => rfl
      | some text =>
        exact if_neg (by
          simpa [Json.isNothing, Json.ofText?] using (legible text rfl).nonempty)
    rw [Clause.render, Term.render, shown] at written
    rw [← Except.ok.inj written]
    simp only [List.append_assoc]
    rfl
  | regexp pattern =>
    rw [Clause.render, List.append_assoc, List.append_assoc] at written
    exact Except.ok.inj written
  | phrase placed _ slop =>
    obtain ⟨_, rfl⟩ := Placed.render_phrase_eq_ok_iff.mp written
    rw [List.append_assoc, List.append_assoc, List.append_assoc]
    rfl

/-! ## Reading off -/

/-- A slop is told by how it is written. -/
theorem eq_of_slopText_eq {first second : Int}
    (same : Placed.slopText (.int first) = Placed.slopText (.int second)) : first = second := by
  rw [Placed.slopText_int, Placed.slopText_int] at same
  by_cases zero : first = 0 <;> by_cases zeroToo : second = 0
  · rw [zero, zeroToo]
  · rw [if_pos zero, if_neg zeroToo] at same
    cases same
  · rw [if_neg zero, if_pos zeroToo] at same
    cases same
  · rw [if_neg zero, if_neg zeroToo] at same
    exact eq_of_toString_eq (Text.ofString_injective (List.cons.inj same).2)

/-- The text of a fuzzy clause does not begin as those of other clauses do. -/
theorem fuzzy_ne_cons {term : Option Text} (legible : ∀ text ∈ term, IsLegible text) {mark : Char}
    (marked : mark ∈ marks) (other : mark ≠ '~') (distance rest : Text) :
    term.getD [] ++ .char '~' :: distance ≠ .char mark :: rest := by
  intro same
  cases term with
  | none => exact other (CodePoint.char.inj (List.cons.inj same).1).symm
  | some text =>
    have term := legible text rfl
    cases text with
    | nil => exact term.nonempty rfl
    | cons head tail =>
      apply term.unmarked mark marked
      rw [← (List.cons.inj same).1]
      exact List.mem_cons_self

/-- The text of a legible fuzzy clause tells its term and its distance. -/
theorem eq_of_fuzzy_eq {first second : Option Text} (legible : ∀ text ∈ first, IsLegible text)
    (legibleToo : ∀ text ∈ second, IsLegible text) {maxEdits others : Int}
    (same : first.getD [] ++ .char '~' :: Text.ofString (toString maxEdits) =
      second.getD [] ++ .char '~' :: Text.ofString (toString others)) :
    first = second ∧ maxEdits = others := by
  have unmarked {term : Option Text} (legible : ∀ text ∈ term, IsLegible text) :
      CodePoint.char '~' ∉ term.getD [] := by
    cases term with
    | none => exact List.not_mem_nil
    | some text => exact (legible text rfl).unmarked '~' (by decide)
  obtain ⟨terms, digits⟩ := Text.cut_first (unmarked legible) (unmarked legibleToo) same
  refine ⟨?_, eq_of_toString_eq (Text.ofString_injective digits)⟩
  cases first with
  | none =>
    cases second with
    | none => rfl
    | some text => exact absurd terms.symm (legibleToo text rfl).nonempty
  | some text =>
    cases second with
    | none => exact absurd terms (legible text rfl).nonempty
    | some other => exact congrArg some terms

/-- Legible clauses on one field with one text are alike. -/
theorem alike {first second : Clause} (legible : Legible field first body)
    (legibleToo : Legible field second body) : first.Alike second := by
  have slash : '/' ∈ marks := by decide
  have quote : '"' ∈ marks := by decide
  generalize same : body = other at legibleToo
  -- The texts of two kinds differ in their first code point.
  cases legible with
  | fuzzy term legible maxEdits _ _ _ =>
    cases legibleToo with
    | fuzzy other legibleToo others _ _ _ =>
      obtain ⟨rfl, rfl⟩ := eq_of_fuzzy_eq legible legibleToo same
      exact .fuzzy _ _ (Term.same_ofText? field term) (Json.same_int maxEdits)
    | regexp pattern => exact absurd same (fuzzy_ne_cons legible slash (by decide) _ _)
    | phrase placed _ slop => exact absurd same (fuzzy_ne_cons legible quote (by decide) _ _)
  | regexp pattern =>
    cases legibleToo with
    | fuzzy term legible _ _ _ _ =>
      exact absurd same.symm (fuzzy_ne_cons legible slash (by decide) _ _)
    | regexp other =>
      cases List.append_cancel_right (List.cons.inj same).2
      exact .regexp _ _ (Term.same_ofText? field (some pattern))
    | phrase placed _ slop => cases (List.cons.inj same).1
  | phrase placed legible slop =>
    cases legibleToo with
    | fuzzy term legible _ _ _ _ =>
      exact absurd same.symm (fuzzy_ne_cons legible quote (by decide) _ _)
    | regexp pattern => cases (List.cons.inj same).1
    | phrase other legibleToo others =>
      obtain ⟨texts, slops⟩ :=
        Text.cut_first legible.quote_notMem legibleToo.quote_notMem (List.cons.inj same).2
      cases legible.eq_of_join_slotTexts_eq legibleToo texts
      cases eq_of_slopText_eq slops
      refine .phrase _ _ ?_
      rw [Clause.same, Placed.isEqv_terms, Json.same_int, decide_eq_true rfl, Bool.and_self,
        Bool.and_self]

end Legible

end Clause

/-! ## Boosts -/

/-- Boosts of one value are both written or both left out, and where they are written nothing
before them can be taken for a part of them. -/
theorem eq_of_append_renderBoost {first second : Text} {boost other : Binary64}
    (boosts : boost.same other)
    (same : first ++ renderBoost (.float boost) = second ++ renderBoost (.float other)) :
    first = second := by
  -- The two zeros have one value and two texts, so that only the place of the caret can be used.
  have values : boost.value = other.value := of_decide_eq_true boosts
  have one : (Json.float boost).isOne = (Json.float other).isOne :=
    congrArg (fun value => decide (value = NumericValue.ofInt 1)) values
  have caret (x : Binary64) : CodePoint.char '^' ∉ Text.ofString x.text := by
    intro member
    obtain ⟨c, inside, equal⟩ := List.mem_map.mp member
    cases equal
    exact x.caret_notMem_text inside
  rw [renderBoost, renderBoost, ← one] at same
  split at same
  · exact List.append_cancel_right same
  · exact (Text.cut_last (caret boost) (caret other) same).1

/-- Queries with legible clauses on one field and boosts of one value are told by their text. -/
theorem Query.alike_of_render {field firstBody secondBody text : Text} {first second : Clause}
    {boost other : Binary64} (legible : first.Legible field firstBody)
    (legibleToo : second.Legible field secondBody) (boosts : boost.same other)
    (written : Query.render ⟨first, .float boost⟩ = .ok text)
    (writtenToo : Query.render ⟨second, .float other⟩ = .ok text) : first.Alike second := by
  obtain ⟨shown, rendered, rfl⟩ := map_eq_ok_iff.mp written
  obtain ⟨shownToo, renderedToo, same⟩ := map_eq_ok_iff.mp writtenToo
  obtain rfl := eq_of_append_renderBoost boosts same.symm
  have clauses := (legible.eq_of_render rendered).trans (legibleToo.eq_of_render renderedToo).symm
  obtain rfl : firstBody = secondBody := (List.cons.inj (List.append_cancel_left clauses)).2
  exact legible.alike legibleToo

end FieldSearch
