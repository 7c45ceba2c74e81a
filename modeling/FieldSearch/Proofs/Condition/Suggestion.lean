import FieldSearch.Proofs.Condition.Reading
import FieldSearch.Proofs.Text.LowercaseWord
import FieldSearch.Proofs.Text.SingleEdit

/-!
# Suggested type tags

A document whose type tag names no kind is refused with the kinds that the tag is close to. A kind
is close to every tag that has its name in one piece and is not too long, and to every tag with one
slip in its name.
-/

namespace FieldSearch

open Text (OneEdit agreeAtAnEnd closeMatches edits maxSuggestions similarity)

/-! ## Names of kinds -/

namespace Kind

/-- The names of kinds are distinct. -/
theorem names_nodup : names.Nodup := by
  decide

/-- No kind has an empty name. -/
theorem name_ne_nil (kind : Kind) : kind.name ≠ [] := by
  cases kind <;> decide

/-- The names of kinds have at most six letters. -/
theorem length_name_le (kind : Kind) : kind.name.length ≤ 6 := by
  cases kind <;> decide

/-- A kind is close to every tag with one slip in its name. -/
theorem isClose_name_of_oneEdit (kind : Kind) {tag : Text} (edit : OneEdit kind.name tag) :
    (similarity kind.name tag).isClose := by
  have blank : .char '?' ∉ kind.name := by
    cases kind <;> decide
  have listed : ∀ other ∈ edits (.char '?' :: kind.name) kind.name,
      agreeAtAnEnd kind.name other ∨ (similarity kind.name other).isClose := by
    cases kind <;> decide +kernel
  have short := kind.length_name_le
  exact Text.isClose_of_oneEdit kind.name_ne_nil blank listed (by omega) edit

/-- What is suggested for a tag: distinct kinds none of which the tag is much longer than, among
them every kind that the tag has in one piece and is not much longer than, and every kind that the
tag is one slip away from. -/
structure Suggested (tag : Text) (suggestions : List Text) : Prop where
  distinct : suggestions.Nodup
  known : suggestions ⊆ names
  length_le : ∀ kind : Kind, kind.name ∈ suggestions → 3 * tag.length ≤ 7 * kind.name.length
  contained : ∀ kind : Kind, kind.name <:+: tag → 3 * tag.length ≤ 7 * kind.name.length →
    kind.name ∈ suggestions
  mistyped : ∀ kind : Kind, OneEdit kind.name tag → kind.name ∈ suggestions

/-- The name of a kind is suggested for a tag exactly when it is close to it. -/
theorem mem_closeMatches_names_iff {kind : Kind} {tag : Text} :
    kind.name ∈ closeMatches tag names ↔ (similarity kind.name tag).isClose := by
  have few : names.length ≤ maxSuggestions := by decide
  rw [Text.mem_closeMatches_iff few]
  exact and_iff_right (mem_names_iff.mpr ⟨kind, rfl⟩)

/-- The close matches of a tag among the names are what is to be suggested. -/
theorem suggested_closeMatches (tag : Text) : Suggested tag (closeMatches tag names) where
  distinct := Text.nodup_closeMatches names_nodup tag
  known name member := ((Text.mem_closeMatches_iff (by decide)).mp member).1
  length_le kind member :=
    Text.length_le_of_isClose kind.name_ne_nil (mem_closeMatches_names_iff.mp member)
  contained kind inOnePiece notLong := by
    have bound := kind.length_name_le
    have short : tag.length < 200 := by omega
    exact mem_closeMatches_names_iff.mpr
      (Text.isClose_of_infix kind.name_ne_nil short inOnePiece notLong)
  mistyped kind edit := mem_closeMatches_names_iff.mpr (kind.isClose_name_of_oneEdit edit)

/-- Nothing is suggested for a long tag. -/
theorem Suggested.eq_nil_of_long {tag : Text} {suggestions : List Text}
    (suggested : Suggested tag suggestions) (long : 14 < tag.length) : suggestions = [] := by
  rw [List.eq_nil_iff_forall_not_mem]
  intro name member
  obtain ⟨kind, rfl⟩ := mem_names_iff.mp (suggested.known member)
  have notLong := suggested.length_le kind member
  have bound := kind.length_name_le
  omega

end Kind

/-! ## Reports -/

/-- The part of a message that names the suggestions, if there are any. -/
def suggestionPart (suggestions : List Text) : Text :=
  if suggestions.isEmpty then [] else " Did you mean: " ++ Text.join ", " suggestions ++ "?"

/-- The report of a name that is not known lists the known ones close to it, in the message too. -/
theorem malformedWith_eq (message path : Text) {given : Text} (nonempty : given ≠ [])
    (known : List Text) :
    SearchError.malformedWith (.str message) (.str path) (some given) known =
      .malformed (.str (message ++ suggestionPart (closeMatches given known))) (.str path)
        (closeMatches given known) := by
  have notEmpty : given.isEmpty = false := by simpa using nonempty
  simp only [SearchError.malformedWith, suggestionPart, notEmpty, Bool.false_eq_true, ↓reduceIte]
  split
  · rw [List.append_nil]
  · simp only [Json.plain, List.append_assoc]

namespace Condition

/-- The message for a tag that names no kind, before anything is suggested. -/
def unknownTagMessage (tag : Text) : Text :=
  "Unknown condition type: '" ++ tag ++ "'."

/-- A capital letter stands in the message only where suggestions are named, since the tag is in
lower case. -/
theorem didYouMean_infix_iff (given : Text) (suggestions : List Text) :
    Text.ofString "Did you mean" <:+:
        unknownTagMessage (Text.lower given) ++ suggestionPart suggestions ↔
      suggestions ≠ [] := by
  constructor
  · rintro named rfl
    have capital : .char 'D' ∈ unknownTagMessage (Text.lower given) := by
      have member := named.subset (a := .char 'D') (by decide)
      simpa only [suggestionPart, List.isEmpty_nil, ↓reduceIte, List.append_nil] using member
    have inTag : .char 'D' ∈ Text.lower given := by
      have outside : CodePoint.char 'D' ∉ Text.ofString "Unknown condition type: '" ∧
          CodePoint.char 'D' ∉ Text.ofString "'." := by decide
      simpa [unknownTagMessage, outside] using capital
    exact absurd (Text.isLower_of_mem_lowerAfter inTag).2 (by decide +kernel)
  · intro some
    have part : suggestionPart suggestions =
        Text.ofString " " ++ Text.ofString "Did you mean" ++
          (Text.ofString ": " ++ Text.join ", " suggestions ++ "?") := by
      rw [suggestionPart, if_neg (by simpa using some)]
      rfl
    rw [part]
    exact (List.infix_append _ _ _).trans (List.suffix_append _ _).isInfix

/-- A document whose tag names no kind is refused at its tag with the kinds that the tag in lower
case is close to, which the message names too. -/
theorem ofDocument_of_unknown_tag {members : Entries Json} {given : Text}
    (tagged : members.find? typeParameter.spelling = some (.str given)) (nonempty : given ≠ [])
    (unknown : Text.lower given ∉ Kind.names) :
    ∃ message suggestions,
      ofDocument (.obj members) =
        .error (.malformed (.str message) (.str typeParameter.spelling) suggestions) ∧
      message = unknownTagMessage (Text.lower given) ++ suggestionPart suggestions ∧
      (Text.ofString "Did you mean" <:+: message ↔ suggestions ≠ []) ∧
      Kind.Suggested (Text.lower given) suggestions ∧
      (14 < (Text.lower given).length → suggestions = []) := by
  have lowered : Text.lower given ≠ [] := Text.lowerAfter_ne_nil nonempty []
  have tag : documentTag members = .ok (Text.lower given) :=
    documentTag_eq_ok_iff.mpr ⟨given, tagged, nonempty, rfl⟩
  have refused : documentKind members = .error (.malformedWith
      (.str (unknownTagMessage (Text.lower given))) (.str typeParameter.spelling)
      (some (Text.lower given)) Kind.names) := by
    simp only [documentKind, tag, bind, Except.bind, Kind.ofName?_eq_none_iff.mpr unknown]
    rfl
  have suggested := Kind.suggested_closeMatches (Text.lower given)
  refine ⟨_, closeMatches (Text.lower given) Kind.names, ?_, rfl, didYouMean_infix_iff given _,
    suggested, suggested.eq_nil_of_long⟩
  rw [← malformedWith_eq _ _ lowered]
  simp only [ofDocument, refused, bind, Except.bind]

/-- A tag with two neighbours swapped. -/
theorem ofDocument_of_unknown_tag_regxep :
    ∃ message suggestions,
      ofDocument (.obj [("type", .str "Regxep")]) =
        .error (.malformed (.str message) (.str "type") suggestions) ∧
      Text.ofString "Did you mean" <:+: message ∧ Kind.regexp.name ∈ suggestions := by
  have unknown : Text.lower "Regxep" ∉ Kind.names := by decide +kernel
  obtain ⟨message, suggestions, refused, _, named, suggested, _⟩ :=
    @ofDocument_of_unknown_tag [("type", .str "Regxep")] "Regxep" rfl (by decide) unknown
  have lowered : Text.lower "Regxep" =
      Text.ofString "reg" ++ .char 'x' :: .char 'e' :: Text.ofString "p" := by
    decide +kernel
  have near : Kind.regexp.name ∈ suggestions := by
    apply suggested.mistyped .regexp
    rw [lowered]
    exact .swapped (Text.ofString "reg") (Text.ofString "p") (.char 'e') (.char 'x')
  exact ⟨message, suggestions, refused, named.mpr (List.ne_nil_of_mem near), near⟩

end Condition

end FieldSearch
