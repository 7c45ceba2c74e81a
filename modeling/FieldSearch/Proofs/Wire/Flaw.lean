import FieldSearch.Proofs.Wire.Problems
import FieldSearch.Wire.Parameter
import FieldSearch.Wire.Scalar

/-!
# What is wrong with a value

A value is accepted for a type, or has flaws. A value that is no list has at most one, which is the
value itself; in a list of texts each item that is no text is a flaw of its own. Reading a value
finds exactly its flaws, those of a list in the order of the items. Null is read for a default,
whether the type accepts it or not.
-/

namespace FieldSearch.Wire

/-- Reads a value only for its problems. -/
def check {α : Type} (accept : Json → Checked α) (value : Json) : Checked Unit :=
  (fun _ => ()) <$> accept value

/-- What the value of a parameter is. The texts may be null. -/
inductive ValueType
  | number
  | integer
  | boolean
  | text
  | texts

namespace ValueType

/-- What reading a value of a type says of it, apart from what is read. -/
def verdict : ValueType → Json → Checked Unit
  | .number => check acceptNumber
  | .integer => check acceptInteger
  | .boolean => check acceptBoolean
  | .text => check acceptOptionalText
  | .texts => check acceptOptionalTexts

/-- A value is accepted for a type. -/
def Accepts (type : ValueType) (value : Json) : Prop :=
  type.verdict value = .accepted ()

/-- Something is wrong with a value of a type, at a place in the value: the value as a whole, or an
item of a list that is not accepted as a text. -/
inductive Flaw : ValueType → Json → Problem → Prop
  | whole {type : ValueType} {value : Json} {mismatch : Mismatch}
    (refused : type.verdict value = .refuse mismatch) : Flaw type value ⟨[], mismatch⟩
  | item {items : List Json} {index : Nat} {item : Json} (listed : items[index]? = some item)
    (refused : ¬Accepts .text item) : Flaw .texts (.arr items) ⟨[.item index], .notText⟩

/-- The flaws of a value that is given for a parameter, in order. Null means the default and has
none. -/
def flaws (type : ValueType) : Json → List Problem
  | .null => []
  | value => (type.verdict value).problems

end ValueType

/-! ## Null -/

section Null

variable {α : Type} {accept : Json → Checked α}

/-- Where null is accepted as the default it means the default anyway. -/
theorem nullMeansDefault_eq_self {default : α} (null : accept .null = .accepted default) :
    nullMeansDefault default accept = accept := by
  funext value
  cases value with
  | null => exact null.symm
  | _ => rfl

/-- Null is accepted as no text. -/
theorem nullMeansDefault_acceptOptionalText :
    nullMeansDefault none acceptOptionalText = acceptOptionalText :=
  nullMeansDefault_eq_self rfl

/-- Null is accepted as no texts. -/
theorem nullMeansDefault_acceptOptionalTexts :
    nullMeansDefault none acceptOptionalTexts = acceptOptionalTexts :=
  nullMeansDefault_eq_self rfl

/-- With null for the default, the problems of a value are its flaws. -/
theorem problems_nullMeansDefault {type : ValueType} (typed : type.verdict = check accept)
    (default : α) (value : Json) :
    (nullMeansDefault default accept value).problems = type.flaws value := by
  rw [ValueType.flaws.eq_def, typed]
  cases value with
  | null => rfl
  | _ => exact (Checked.problems_map _ _).symm

/-- With null for the default, values without problems are still accepted. -/
theorem reasoned_nullMeansDefault (reasoned : ∀ value, (accept value).Reasoned) (default : α)
    (value : Json) : (nullMeansDefault default accept value).Reasoned := by
  cases value with
  | null => exact fun _ => ⟨default, rfl⟩
  | _ => exact reasoned _

/-- A check reports at most one problem if the reading does. -/
theorem ofSingle_check (single : ∀ value, (accept value).OfSingle) (value : Json) :
    (check accept value).OfSingle :=
  (single value).map

end Null

/-! ## Single values -/

/-- A text that denotes something has at most one problem. -/
theorem ofSingle_acceptDenoted {α : Type} {text : Text} {accept : Text → Checked α}
    (single : (accept text).OfSingle) : (acceptDenoted text accept).OfSingle := by
  rw [acceptDenoted]
  split
  · exact single
  · exact .refused _

/-- A number has at most one problem. -/
theorem ofSingle_acceptNumber (value : Json) : (acceptNumber value).OfSingle := by
  cases value with
  | float x => exact .accepted x
  | int n =>
    dsimp only [acceptNumber]
    split
    · exact .accepted _
    · exact .refused _
  | bool b => exact .accepted _
  | str text =>
    refine ofSingle_acceptDenoted ?_
    rw [acceptNumberText]
    split
    · exact .accepted _
    · exact .refused _
  | _ => exact .refused _

/-- An integer has at most one problem. -/
theorem ofSingle_acceptInteger (value : Json) : (acceptInteger value).OfSingle := by
  cases value with
  | int n => exact .accepted n
  | bool b => exact .accepted _
  | float x =>
    rw [acceptInteger]
    split
    · exact .refused _
    · split
      · exact .refused _
      · split
        · exact .accepted _
        · exact .refused _
  | str text =>
    refine ofSingle_acceptDenoted ?_
    rw [acceptIntegerText]
    split
    · exact .accepted _
    · exact .refused _
    · exact .refused _
  | _ => exact .refused _

/-- An integer for a truth value has at most one problem. -/
theorem ofSingle_acceptBooleanInteger (n : Int) : (acceptBooleanInteger n).OfSingle := by
  rw [acceptBooleanInteger]
  split
  · exact .accepted _
  · split
    · exact .accepted _
    · split
      · exact .refused _
      · exact .refused _

/-- A truth value has at most one problem. -/
theorem ofSingle_acceptBoolean (value : Json) : (acceptBoolean value).OfSingle := by
  cases value with
  | bool b => exact .accepted b
  | int n => exact ofSingle_acceptBooleanInteger n
  | float x =>
    rw [acceptBoolean]
    split
    · split
      · exact ofSingle_acceptBooleanInteger _
      · exact .refused _
    · exact .refused _
  | str text =>
    refine ofSingle_acceptDenoted ?_
    rw [acceptBooleanWord]
    split
    · exact .accepted _
    · split
      · exact .accepted _
      · exact .refused _
  | _ => exact .refused _

/-- A text that may be missing has at most one problem. -/
theorem ofSingle_acceptOptionalText (value : Json) : (acceptOptionalText value).OfSingle := by
  cases value with
  | null => exact .accepted none
  | str text => exact .accepted (some text)
  | _ => exact .refused .notText

/-! ## Lists of texts -/

/-- The readings of the items of a list. -/
def itemReadings (items : List Json) : List (Checked (Option Text)) :=
  items.mapIdx fun index item => (acceptOptionalText item).under (.item index)

/-- Texts that may be missing are accepted when they have no problems. -/
theorem reasoned_acceptOptionalTexts (value : Json) : (acceptOptionalTexts value).Reasoned := by
  cases value with
  | null => exact fun _ => ⟨none, rfl⟩
  | arr items =>
    have items : (Checked.collect (itemReadings items)).Reasoned := by
      apply Checked.reasoned_collect
      intro reading listed
      obtain ⟨index, bound, rfl⟩ := List.mem_mapIdx.mp listed
      exact Checked.reasoned_under (ofSingle_acceptOptionalText items[index]).reasoned
    exact Checked.reasoned_map items
  | _ => exact nofun

namespace ValueType

/-- A value is not a text for one reason only. -/
theorem verdict_text_eq_refuse_iff {value : Json} {mismatch : Mismatch} :
    verdict .text value = .refuse mismatch ↔ ¬Accepts .text value ∧ mismatch = .notText := by
  cases value <;>
    simp [Accepts, verdict, check, acceptOptionalText, acceptText, Checked.map, Checked.refuse,
      eq_comm]

/-- The problems of a list are those of its items. -/
theorem problems_texts (items : List Json) :
    (verdict .texts (.arr items)).problems = (itemReadings items).flatMap Checked.problems :=
  calc
    (verdict .texts (.arr items)).problems
    _ = (acceptOptionalTexts (.arr items)).problems := Checked.problems_map _ _
    _ = (Checked.collect (itemReadings items)).problems := Checked.problems_map some _
    _ = (itemReadings items).flatMap Checked.problems := Checked.problems_collect _

/-- The reading of an item has a problem when the item is not accepted as a text. -/
theorem mem_problems_itemReading_iff {index : Nat} {item : Json} {problem : Problem} :
    problem ∈ ((acceptOptionalText item).under (.item index)).problems ↔
      ¬Accepts .text item ∧ problem = ⟨[.item index], .notText⟩ := by
  have own : (acceptOptionalText item).problems = (verdict .text item).problems :=
    (Checked.problems_map _ _).symm
  have single : (verdict .text item).OfSingle := ofSingle_check ofSingle_acceptOptionalText item
  rw [Checked.problems_under, own, List.mem_map]
  constructor
  · rintro ⟨problem, member, rfl⟩
    obtain ⟨mismatch, refused, rfl⟩ := single.mem_problems_iff.mp member
    obtain ⟨unaccepted, rfl⟩ := verdict_text_eq_refuse_iff.mp refused
    exact ⟨unaccepted, rfl⟩
  · rintro ⟨unaccepted, rfl⟩
    have refused := verdict_text_eq_refuse_iff.mpr ⟨unaccepted, rfl⟩
    exact ⟨_, single.mem_problems_iff.mpr ⟨_, refused, rfl⟩, rfl⟩

/-- A problem of a list tells an item that is no text. -/
theorem mem_problems_texts_iff {items : List Json} {problem : Problem} :
    problem ∈ (verdict .texts (.arr items)).problems ↔
      ∃ (index : Nat) (item : Json), items[index]? = some item ∧ ¬Accepts .text item ∧
        problem = ⟨[.item index], .notText⟩ := by
  rw [problems_texts, List.mem_flatMap]
  constructor
  · rintro ⟨_, listed, member⟩
    obtain ⟨index, bound, rfl⟩ := List.mem_mapIdx.mp listed
    exact ⟨index, items[index], List.getElem?_eq_getElem bound,
      mem_problems_itemReading_iff.mp member⟩
  · rintro ⟨index, item, listed, flawed⟩
    obtain ⟨bound, rfl⟩ := List.getElem?_eq_some_iff.mp listed
    exact ⟨_, List.mem_mapIdx.mpr ⟨index, bound, rfl⟩, mem_problems_itemReading_iff.mpr flawed⟩

/-! ## Flaws -/

/-- Only a list of texts has flaws in it. -/
theorem ofSingle_verdict_or (type : ValueType) (value : Json) :
    (type.verdict value).OfSingle ∨ ∃ items, type = .texts ∧ value = .arr items := by
  cases type with
  | number => exact .inl (ofSingle_check ofSingle_acceptNumber value)
  | integer => exact .inl (ofSingle_check ofSingle_acceptInteger value)
  | boolean => exact .inl (ofSingle_check ofSingle_acceptBoolean value)
  | text => exact .inl (ofSingle_check ofSingle_acceptOptionalText value)
  | texts =>
    cases value with
    | null => exact .inl (.accepted ())
    | arr items => exact .inr ⟨items, rfl, rfl⟩
    | _ => exact .inl (.refused .notSequence)

/-- Reading a value finds exactly its flaws. -/
theorem mem_problems_iff {type : ValueType} {value : Json} {problem : Problem} :
    problem ∈ (type.verdict value).problems ↔ Flaw type value problem := by
  constructor
  · intro member
    rcases ofSingle_verdict_or type value with single | ⟨items, rfl, rfl⟩
    · obtain ⟨mismatch, refused, rfl⟩ := single.mem_problems_iff.mp member
      exact .whole refused
    · obtain ⟨index, item, listed, unaccepted, rfl⟩ := mem_problems_texts_iff.mp member
      exact .item listed unaccepted
  · intro flaw
    cases flaw with
    | whole refused =>
      rw [refused]
      exact List.mem_singleton_self _
    | item listed unaccepted => exact mem_problems_texts_iff.mpr ⟨_, _, listed, unaccepted, rfl⟩

/-- A value that is given has its flaws unless it is null. -/
theorem mem_flaws_iff {type : ValueType} {value : Json} {problem : Problem} :
    problem ∈ type.flaws value ↔ value ≠ .null ∧ Flaw type value problem := by
  rw [← mem_problems_iff]
  cases value <;> simp [flaws]

/-- A value without problems is accepted by its type. -/
theorem reasoned_verdict (type : ValueType) (value : Json) : (type.verdict value).Reasoned := by
  rcases ofSingle_verdict_or type value with single | ⟨items, rfl, rfl⟩
  · exact single.reasoned
  · exact Checked.reasoned_map (reasoned_acceptOptionalTexts (.arr items))

/-- A value has a flaw exactly when it is not accepted. -/
theorem exists_flaw_iff {type : ValueType} {value : Json} :
    (∃ problem, Flaw type value problem) ↔ ¬Accepts type value := by
  constructor
  · rintro ⟨problem, flaw⟩ accepted
    have member := mem_problems_iff.mpr flaw
    rw [accepted] at member
    cases member
  · intro refused
    by_contra flawless
    have none : (type.verdict value).problems = [] :=
      List.eq_nil_iff_forall_not_mem.mpr fun problem member =>
        flawless ⟨problem, mem_problems_iff.mp member⟩
    obtain ⟨_, accepted⟩ := reasoned_verdict type value none
    exact refused accepted

/-- A flaw at an item of a list comes before one at a later item. -/
inductive EarlierItem : Problem → Problem → Prop
  | intro {first later : Nat} (before : first < later) (mismatch other : Mismatch) :
    EarlierItem ⟨[.item first], mismatch⟩ ⟨[.item later], other⟩

/-- The flaws of a list are found in the order of its items, and no other value has two. -/
theorem pairwise_problems (type : ValueType) (value : Json) :
    (type.verdict value).problems.Pairwise EarlierItem := by
  rcases ofSingle_verdict_or type value with single | ⟨items, rfl, rfl⟩
  · exact single.pairwise EarlierItem
  · rw [problems_texts, List.pairwise_flatMap]
    constructor
    · intro reading listed
      obtain ⟨index, bound, rfl⟩ := List.mem_mapIdx.mp listed
      rw [Checked.problems_under, List.pairwise_map]
      exact (ofSingle_acceptOptionalText items[index]).pairwise _
    · rw [itemReadings, List.pairwise_iff_getElem]
      intro first later _ _ before problem member other memberToo
      rw [List.getElem_mapIdx] at member memberToo
      obtain ⟨_, rfl⟩ := mem_problems_itemReading_iff.mp member
      obtain ⟨_, rfl⟩ := mem_problems_itemReading_iff.mp memberToo
      exact .intro before .notText .notText

/-- The flaws of a value are in the order of its items. -/
theorem pairwise_flaws (type : ValueType) (value : Json) :
    (type.flaws value).Pairwise EarlierItem := by
  cases value with
  | null => exact .nil
  | _ => exact pairwise_problems type _

end ValueType

end FieldSearch.Wire
