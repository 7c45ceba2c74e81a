import FieldSearch.Text.Similarity
import Mathlib.Data.List.Infix

/-!
# How similar texts are

What two texts have in matched blocks is at most the first of them, so that a close match is not much
longer than the text it is close to. It is at least as long as each part that they have in common, if
the second text is short; so texts with a long common part are close, a text and a longer one that
has it in one piece among them. Code points of the second text that are not in the first can be put
in place of each other.
-/

namespace FieldSearch.Text

variable {p : CodePoint → Bool} {first second : Text}

/-! ## Blocks -/

/-- A common start is no longer than the text. -/
theorem commonStart_le_length (p : CodePoint → Bool) (first second : Text) :
    commonStart p first second ≤ first.length := by
  fun_induction commonStart p first second with
  | case1 c first d second both ih => exact Nat.succ_le_succ ih
  | case2 => exact Nat.zero_le _
  | case3 => exact Nat.zero_le _

/-- Two texts agree on their common start. -/
theorem take_commonStart (p : CodePoint → Bool) (first second : Text) :
    first.take (commonStart p first second) = second.take (commonStart p first second) := by
  fun_induction commonStart p first second with
  | case1 c first d second both ih =>
    obtain ⟨rfl, _⟩ : c = d ∧ p c := by
      simpa only [Bool.and_eq_true, decide_eq_true_eq] using both
    rw [List.take_succ_cons, List.take_succ_cons, ih]
  | case2 => rfl
  | case3 => rfl

/-- A part with which both texts begin belongs to their common start. -/
theorem length_le_commonStart_append (part rest others : Text) :
    part.length ≤ commonStart (fun _ => true) (part ++ rest) (part ++ others) := by
  induction part with
  | nil => exact Nat.zero_le _
  | cons point part ih =>
    rw [List.cons_append, List.cons_append, commonStart, Bool.and_true, decide_eq_true rfl]
    exact Nat.succ_le_succ ih

/-- The longer of two blocks is one of the two. -/
theorem Block.longer_eq_or (block other : Block) :
    block.longer other = block ∨ block.longer other = other := by
  unfold longer
  split
  · exact .inr rfl
  · exact .inl rfl

/-- The longer of two blocks has the greater length. -/
theorem Block.length_longer (block other : Block) :
    (block.longer other).length = max block.length other.length := by
  unfold longer
  split <;> omega

/-- The longest block at a place is at that place. -/
theorem inFirst_longestAt (p : CodePoint → Bool) (inFirst : Nat) (first : Text) (offset : Nat)
    (second : Text) : (longestAt p inFirst first offset second).inFirst = inFirst := by
  induction second generalizing offset with
  | nil => rfl
  | cons d second ih =>
    rw [longestAt]
    rcases Block.longer_eq_or _ _ with here | later
    · rw [here]
    · rw [later, ih]

/-- The longest block at a place does not reach beyond the text. -/
theorem length_longestAt_le (p : CodePoint → Bool) (inFirst : Nat) (first : Text) (offset : Nat)
    (second : Text) : (longestAt p inFirst first offset second).length ≤ first.length := by
  induction second generalizing offset with
  | nil => exact Nat.zero_le _
  | cons d second ih =>
    rw [longestAt, Block.length_longer]
    exact Nat.max_le.mpr ⟨commonStart_le_length p first _, ih (offset + 1)⟩

/-- The block found is at least as long as any that begins at the beginning of the first text. -/
theorem commonStart_le_longestAt (inFirst offset : Nat) {rest : Text} (suffix : rest <:+ second) :
    commonStart p first rest ≤ (longestAt p inFirst first offset second).length := by
  induction second generalizing offset with
  | nil =>
    cases List.suffix_nil.mp suffix
    cases first <;> exact Nat.le_refl _
  | cons d second ih =>
    rw [longestAt, Block.length_longer]
    rcases List.suffix_cons_iff.mp suffix with rfl | later
    · exact Nat.le_max_left _ _
    · exact (ih (offset + 1) later).trans (Nat.le_max_right _ _)

/-- The longest block from a place on lies within the text. -/
theorem longestFrom_within (p : CodePoint → Bool) (second : Text) (offset : Nat) (first : Text) :
    (longestFrom p second offset first).inFirst + (longestFrom p second offset first).length ≤
      offset + first.length := by
  induction first generalizing offset with
  | nil => exact Nat.le_refl _
  | cons c first ih =>
    rw [longestFrom]
    rcases Block.longer_eq_or (longestAt p offset (c :: first) 0 second)
      (longestFrom p second (offset + 1) first) with here | later
    · rw [here, inFirst_longestAt]
      exact Nat.add_le_add_left (length_longestAt_le p offset _ 0 second) offset
    · rw [later]
      have within := ih (offset + 1)
      rw [List.length_cons]
      omega

/-- The longest block lies within the text. -/
theorem longestBlock_within (p : CodePoint → Bool) (first second : Text) :
    (longestBlock p first second).inFirst + (longestBlock p first second).length ≤
      first.length := by
  have within := longestFrom_within p second 0 first
  rw [Nat.zero_add] at within
  unfold longestBlock
  dsimp only
  split
  · exact Nat.zero_le _
  · exact within

/-- What two ends have in common at their start is no longer than the longest block from a place on.
-/
theorem commonStart_le_longestFrom (offset : Nat) {start rest : Text} (suffix : start <:+ first)
    (suffixToo : rest <:+ second) :
    commonStart p start rest ≤ (longestFrom p second offset first).length := by
  induction first generalizing offset with
  | nil =>
    cases List.suffix_nil.mp suffix
    exact commonStart_le_length p [] rest
  | cons c first ih =>
    rw [longestFrom, Block.length_longer]
    rcases List.suffix_cons_iff.mp suffix with rfl | later
    · exact (commonStart_le_longestAt offset 0 suffixToo).trans (Nat.le_max_left _ _)
    · exact (ih (offset + 1) later).trans (Nat.le_max_right _ _)

/-- What two ends have in common at their start is no longer than the longest block. -/
theorem commonStart_le_longestBlock {start rest : Text} (suffix : start <:+ first)
    (suffixToo : rest <:+ second) :
    commonStart p start rest ≤ (longestBlock p first second).length := by
  have found := @commonStart_le_longestFrom p _ _ 0 _ _ suffix suffixToo
  unfold longestBlock
  dsimp only
  split
  next none => rwa [none] at found
  next => exact found

/-- A block is extended within the text. -/
theorem Block.extend_within {block : Block} (within : block.inFirst + block.length ≤ first.length)
    (second : Text) :
    (block.extend first second).inFirst + (block.extend first second).length ≤ first.length := by
  have left := commonStart_le_length (fun _ => true) (first.take block.inFirst).reverse
    (second.take block.inSecond).reverse
  have right := commonStart_le_length (fun _ => true) (first.drop (block.inFirst + block.length))
    (second.drop (block.inSecond + block.length))
  rw [List.length_reverse, List.length_take] at left
  rw [List.length_drop] at right
  simp only [extend]
  omega

/-- An extended block is not shorter. -/
theorem Block.length_le_extend (block : Block) (first second : Text) :
    block.length ≤ (block.extend first second).length := by
  simp only [extend]
  omega

/-! ## Matched code points -/

/-- No more is matched than the text has. -/
theorem matchedWithin_le_length (p : CodePoint → Bool) (depth : Nat) (first second : Text) :
    matchedWithin p depth first second ≤ first.length := by
  induction depth generalizing first second with
  | zero => exact Nat.zero_le _
  | succ depth ih =>
    have within := Block.extend_within (longestBlock_within p first second) second
    rw [matchedWithin]
    generalize (longestBlock p first second).extend first second = block at within
    split
    · exact Nat.zero_le _
    · have left := ih (first.take block.inFirst) (second.take block.inSecond)
      have right := ih (first.drop (block.inFirst + block.length))
        (second.drop (block.inSecond + block.length))
      rw [List.length_take] at left
      rw [List.length_drop] at right
      omega

/-- At least the longest block is matched. -/
theorem longestBlock_le_matchedWithin (p : CodePoint → Bool) (depth : Nat) (first second : Text) :
    (longestBlock p first second).length ≤ matchedWithin p (depth + 1) first second := by
  have longer := Block.length_le_extend (longestBlock p first second) first second
  rw [matchedWithin]
  split <;> omega

/-- No more is matched than the first text has. -/
theorem matched_le_length (first second : Text) : matched first second ≤ first.length :=
  matchedWithin_le_length _ _ first second

/-- A short text has no popular code points. -/
theorem popularPoints_of_short (short : second.length < 200) : popularPoints second = [] :=
  if_pos short

/-- In a short text all code points can begin a match. -/
theorem matched_of_short (short : second.length < 200) :
    matched first second = matchedWithin (fun _ => true) first.length first second := by
  rw [matched, popularPoints_of_short short]
  rfl

/-- A part that a text has in common with a short one is not longer than what is matched. -/
theorem length_le_matched {part : Text} (short : second.length < 200) (inFirst : part <:+: first)
    (inSecond : part <:+: second) : part.length ≤ matched first second := by
  rw [matched_of_short short]
  cases first with
  | nil =>
    rw [List.infix_nil.mp inFirst]
    exact Nat.zero_le _
  | cons c first =>
    obtain ⟨before, after, whole⟩ := inFirst
    obtain ⟨beforeToo, afterToo, rfl⟩ := inSecond
    rw [← whole]
    have suffix : part ++ after <:+ before ++ part ++ after := by
      rw [List.append_assoc]
      exact List.suffix_append _ _
    have suffixToo : part ++ afterToo <:+ beforeToo ++ part ++ afterToo := by
      rw [List.append_assoc]
      exact List.suffix_append _ _
    have depth : (before ++ part ++ after).length = first.length + 1 := by
      rw [whole, List.length_cons]
    calc
      part.length
      _ ≤ commonStart (fun _ => true) (part ++ after) (part ++ afterToo) :=
        length_le_commonStart_append part after afterToo
      _ ≤ _ := commonStart_le_longestBlock suffix suffixToo
      _ ≤ _ := by
        rw [depth]
        exact longestBlock_le_matchedWithin _ first.length _ _

/-! ## Close matches -/

/-- A text that is not empty is a close match of another when three fifths of their code points are
matched. -/
theorem isClose_similarity_iff (nonempty : first ≠ []) :
    (similarity first second).isClose ↔
      3 * (first.length + second.length) ≤ 10 * matched first second := by
  have some := List.length_pos_iff.mpr nonempty
  have whole : first.length + second.length ≠ 0 := by omega
  rw [similarity, if_neg whole, Similarity.isClose, decide_eq_true_eq]
  change 3 * (first.length + second.length) ≤ 5 * (2 * matched first second) ↔ _
  omega

/-- A text is not close to one that is much longer. -/
theorem length_le_of_isClose (nonempty : first ≠ []) (close : (similarity first second).isClose) :
    3 * second.length ≤ 7 * first.length := by
  have enough := (isClose_similarity_iff nonempty).mp close
  have most := matched_le_length first second
  omega

/-- Texts are close when the second is short and they have a part in common that is long enough. -/
theorem isClose_of_part {part : Text} (nonempty : first ≠ []) (short : second.length < 200)
    (inFirst : part <:+: first) (inSecond : part <:+: second)
    (long : 3 * (first.length + second.length) ≤ 10 * part.length) :
    (similarity first second).isClose :=
  (isClose_similarity_iff nonempty).mpr
    (long.trans (Nat.mul_le_mul_left 10 (length_le_matched short inFirst inSecond)))

/-- A text is close to a longer one that has it in one piece and is not too long. -/
theorem isClose_of_infix (nonempty : first ≠ []) (short : second.length < 200)
    (inOnePiece : first <:+: second) (notLong : 3 * second.length ≤ 7 * first.length) :
    (similarity first second).isClose :=
  isClose_of_part nonempty short (List.infix_refl first) inOnePiece (by omega)

/-- Whether two texts begin or end alike, for so long that they are close. -/
def agreeAtAnEnd (first second : Text) : Bool :=
  3 * (first.length + second.length) ≤
    10 * max (commonStart (fun _ => true) first second)
      (commonStart (fun _ => true) first.reverse second.reverse)

/-- Texts that agree on enough of a start or an end are close. -/
theorem isClose_of_agreeAtAnEnd (nonempty : first ≠ []) (short : second.length < 200)
    (agree : agreeAtAnEnd first second) : (similarity first second).isClose := by
  have atStart := take_commonStart (fun _ => true) first second
  have atEnd := take_commonStart (fun _ => true) first.reverse second.reverse
  have startLength := commonStart_le_length (fun _ => true) first second
  have endLength := commonStart_le_length (fun _ => true) first.reverse second.reverse
  unfold agreeAtAnEnd at agree
  generalize commonStart (fun _ => true) first second = start at *
  generalize commonStart (fun _ => true) first.reverse second.reverse = finish at *
  rw [List.length_reverse] at endLength
  rw [decide_eq_true_eq] at agree
  rcases Nat.le_total start finish with longer | longer
  · have inFirst : (first.reverse.take finish).reverse <:+: first := by
      rw [← List.reverse_infix, List.reverse_reverse]
      exact (List.take_prefix _ _).isInfix
    have inSecond : (first.reverse.take finish).reverse <:+: second := by
      rw [← List.reverse_infix, List.reverse_reverse, atEnd]
      exact (List.take_prefix _ _).isInfix
    refine isClose_of_part nonempty short inFirst inSecond ?_
    rw [List.length_reverse, List.length_take, List.length_reverse]
    omega
  · have inSecond : first.take start <:+: second := by
      rw [atStart]
      exact (List.take_prefix _ _).isInfix
    refine isClose_of_part nonempty short (List.take_prefix _ _).isInfix inSecond ?_
    rw [List.length_take]
    omega

variable {word candidate : Text} {candidates : List Text}

/-- Of no more candidates than there may be suggestions, all close ones are suggested. -/
theorem mem_closeMatches_iff (few : candidates.length ≤ maxSuggestions) :
    candidate ∈ closeMatches word candidates ↔
      candidate ∈ candidates ∧ (similarity candidate word).isClose := by
  have fewClose : ((candidates.map fun candidate => (similarity candidate word, candidate)).filter
      (·.1.isClose)).length ≤ maxSuggestions :=
    ((List.length_filter_le _ _).trans_eq (List.length_map _)).trans few
  rw [closeMatches, List.take_of_length_le (by rwa [List.length_mergeSort])]
  simp only [List.mem_map, List.mem_mergeSort, List.mem_filter]
  constructor
  · rintro ⟨_, ⟨⟨other, known, rfl⟩, close⟩, rfl⟩
    exact ⟨known, close⟩
  · rintro ⟨known, close⟩
    exact ⟨_, ⟨⟨candidate, known, rfl⟩, close⟩, rfl⟩

/-- Distinct candidates give distinct close matches. -/
theorem nodup_closeMatches (distinct : candidates.Nodup) (word : Text) :
    (closeMatches word candidates).Nodup := by
  have scored : ((candidates.map fun candidate =>
      (similarity candidate word, candidate)).map Prod.snd).Nodup := by
    rw [List.map_map]
    simpa only [Function.comp_def, List.map_id'] using distinct
  have close := scored.sublist ((@List.filter_sublist _ (·.1.isClose) _).map Prod.snd)
  have sorted := ((List.mergeSort_perm _ ranksBefore).map Prod.snd).nodup_iff.mpr close
  exact sorted.sublist ((List.take_sublist maxSuggestions _).map Prod.snd)

/-! ## Unfamiliar code points -/

/-- A change of code points after which they are equal to those of a text as before. -/
def KeepsEqual (f : CodePoint → CodePoint) (first : Text) : Prop :=
  ∀ c ∈ first, ∀ d, c = f d ↔ c = d

namespace KeepsEqual

variable {f : CodePoint → CodePoint}

/-- A change that keeps equality with a text keeps it with a part of the text. -/
theorem of_subset {part : Text} (keeps : KeepsEqual f first) (among : part ⊆ first) :
    KeepsEqual f part :=
  fun c member => keeps c (among member)

/-- Such a change of the second text keeps the common start. -/
theorem commonStart_map (keeps : KeepsEqual f first) (second : Text) :
    commonStart p first (second.map f) = commonStart p first second := by
  induction first generalizing second with
  | nil => cases second <;> simp [commonStart]
  | cons c first ih =>
    cases second with
    | nil => rfl
    | cons d second =>
      have here : decide (c = f d) = decide (c = d) :=
        decide_eq_decide.mpr (keeps c List.mem_cons_self d)
      rw [List.map_cons, commonStart, commonStart, here,
        ih (keeps.of_subset (List.subset_cons_self _ _))]

/-- Such a change of the second text keeps the longest block at a place. -/
theorem longestAt_map (keeps : KeepsEqual f first) (inFirst offset : Nat) (second : Text) :
    longestAt p inFirst first offset (second.map f) = longestAt p inFirst first offset second := by
  induction second generalizing offset with
  | nil => rfl
  | cons d second ih =>
    rw [List.map_cons, longestAt, longestAt, ih, ← List.map_cons, keeps.commonStart_map]

/-- Such a change of the second text keeps the longest block from a place on. -/
theorem longestFrom_map (keeps : KeepsEqual f first) (offset : Nat) (second : Text) :
    longestFrom p (second.map f) offset first = longestFrom p second offset first := by
  induction first generalizing offset with
  | nil => rfl
  | cons c first ih =>
    rw [longestFrom, longestFrom, keeps.longestAt_map,
      ih (keeps.of_subset (List.subset_cons_self _ _))]

/-- Such a change of the second text keeps the longest block. -/
theorem longestBlock_map (keeps : KeepsEqual f first) (second : Text) :
    longestBlock p first (second.map f) = longestBlock p first second := by
  rw [longestBlock, longestBlock, keeps.longestFrom_map]

/-- Such a change of the second text keeps how far a block extends. -/
theorem extend_map (keeps : KeepsEqual f first) (block : Block) (second : Text) :
    block.extend first (second.map f) = block.extend first second := by
  have left : KeepsEqual f (first.take block.inFirst).reverse :=
    keeps.of_subset fun c member => List.mem_of_mem_take (List.mem_reverse.mp member)
  have right : KeepsEqual f (first.drop (block.inFirst + block.length)) :=
    keeps.of_subset (List.drop_subset _ _)
  rw [Block.extend, Block.extend, ← List.map_take, ← List.map_reverse, left.commonStart_map,
    ← List.map_drop, right.commonStart_map]

/-- Such a change of the second text keeps how much is matched. -/
theorem matchedWithin_map (keeps : KeepsEqual f first) (depth : Nat) (second : Text) :
    matchedWithin p depth first (second.map f) = matchedWithin p depth first second := by
  induction depth generalizing first second with
  | zero => rfl
  | succ depth ih =>
    rw [matchedWithin, matchedWithin, keeps.longestBlock_map, keeps.extend_map]
    generalize (longestBlock p first second).extend first second = block
    have left : KeepsEqual f (first.take block.inFirst) := keeps.of_subset (List.take_subset _ _)
    have right : KeepsEqual f (first.drop (block.inFirst + block.length)) :=
      keeps.of_subset (List.drop_subset _ _)
    rw [← List.map_take, ← List.map_drop, ih left, ih right]

/-- Code points of a short text that are not in the first text count alike. -/
theorem similarity_map (keeps : KeepsEqual f first) (short : second.length < 200) :
    similarity first (second.map f) = similarity first second := by
  have shortToo : (second.map f).length < 200 := by rwa [List.length_map]
  rw [similarity, similarity, matched_of_short shortToo, matched_of_short short,
    keeps.matchedWithin_map, List.length_map]

end KeepsEqual

end FieldSearch.Text
