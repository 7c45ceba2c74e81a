import FieldSearch.Proofs.Condition.Declared
import FieldSearch.Proofs.Condition.Reading

/-!
# What is wrong with a document

A document with a known type tag describes no condition exactly when it gives a value that is
neither null nor accepted for a declared parameter. The report then lists everything that is wrong
with such values, each at a place of its own and in order of declaration, and nothing else.
-/

namespace FieldSearch

open Wire (Checked Parameter Problem ValueType acceptOptionalText)

namespace Condition

/-! ## Faults -/

/-- A fault of a document of a kind: a flaw of the value that the document gives for a declared
parameter, at the key under which it gives the value. Null is no fault. -/
inductive IsFault (kind : Kind) (members : Entries Json) : Problem → Prop
  | intro {parameter : Parameter} {type : ValueType} {key : Text} {value : Json} {flaw : Problem}
    (declares : (parameter, type) ∈ declared kind)
    (given : parameter.find? members = some (key, value)) (notNull : value ≠ .null)
    (flawed : type.Flaw value flaw) : IsFault kind members (flaw.under (.member key))

/-- A fault stands before another when its parameter is declared earlier, or when the faults are at
items of one list and its item is earlier. -/
inductive Before (kind : Kind) : Problem → Problem → Prop
  | declaredEarlier {first later : Parameter × ValueType} {key other : Text}
    (order : [first, later].Sublist (declared kind)) (own : first.1.IsKey key)
    (ownToo : later.1.IsKey other) (flaw another : Problem) :
    Before kind (flaw.under (.member key)) (another.under (.member other))
  | earlierItem {flaw another : Problem} (key : Text)
    (before : ValueType.EarlierItem flaw another) :
    Before kind (flaw.under (.member key)) (another.under (.member key))

/-- A problem of a parameter is a flaw of what is given for it, under the key that gives it. -/
theorem mem_givenProblems_iff {members : Entries Json} {parameter : Parameter} {type : ValueType}
    {problem : Problem} :
    problem ∈ givenProblems members (parameter, type) ↔
      ∃ key value flaw, parameter.find? members = some (key, value) ∧
        (value ≠ .null ∧ type.Flaw value flaw) ∧ problem = flaw.under (.member key) := by
  rw [givenProblems]
  cases given : parameter.find? members with
  | none => simp
  | some entry =>
    obtain ⟨key, value⟩ := entry
    constructor
    · intro member
      obtain ⟨flaw, found, rfl⟩ := List.mem_map.mp member
      exact ⟨key, value, flaw, rfl, ValueType.mem_flaws_iff.mp found, rfl⟩
    · rintro ⟨_, _, flaw, ⟨⟩, flawed, rfl⟩
      exact List.mem_map_of_mem (ValueType.mem_flaws_iff.mpr flawed)

/-- Reading a document finds exactly its faults. -/
theorem mem_problems_readOfKind_iff {kind : Kind} {members : Entries Json} {problem : Problem} :
    problem ∈ (readOfKind kind members).problems ↔ IsFault kind members problem := by
  rw [problems_readOfKind, List.mem_flatMap]
  constructor
  · rintro ⟨⟨parameter, type⟩, declares, member⟩
    obtain ⟨key, value, flaw, given, ⟨notNull, flawed⟩, rfl⟩ := mem_givenProblems_iff.mp member
    exact .intro declares given notNull flawed
  · rintro ⟨declares, given, notNull, flawed⟩
    exact ⟨_, declares, mem_givenProblems_iff.mpr ⟨_, _, _, given, ⟨notNull, flawed⟩, rfl⟩⟩

/-- A document has a fault exactly when a value that it gives is neither null nor accepted. -/
theorem exists_isFault_iff {kind : Kind} {members : Entries Json} :
    (∃ problem, IsFault kind members problem) ↔
      ∃ parameter type key value, (parameter, type) ∈ declared kind ∧
        parameter.find? members = some (key, value) ∧ value ≠ .null ∧ ¬type.Accepts value := by
  constructor
  · rintro ⟨_, declares, given, notNull, flawed⟩
    exact ⟨_, _, _, _, declares, given, notNull, ValueType.exists_flaw_iff.mp ⟨_, flawed⟩⟩
  · rintro ⟨parameter, type, key, value, declares, given, notNull, refused⟩
    obtain ⟨flaw, flawed⟩ := ValueType.exists_flaw_iff.mpr refused
    exact ⟨_, .intro declares given notNull flawed⟩

/-- A fault is placed under a key that is there. -/
theorem IsFault.present {kind : Kind} {members : Entries Json} {problem : Problem}
    (fault : IsFault kind members problem) :
    ∃ key ∈ members.names, ∃ place, problem.location = .member key :: place := by
  obtain ⟨_, given, _, _⟩ := fault
  obtain ⟨_, member⟩ := Wire.Parameter.isKey_of_find? given
  exact ⟨_, List.mem_map_of_mem member, _, rfl⟩

/-! ## Order -/

/-- The problems of one parameter are in order. -/
theorem pairwise_givenProblems {kind : Kind} (members : Entries Json)
    (entry : Parameter × ValueType) : (givenProblems members entry).Pairwise (Before kind) := by
  rw [givenProblems]
  split
  next key value _ =>
    exact List.pairwise_map.mpr
      ((entry.2.pairwise_flaws value).imp fun before => .earlierItem key before)
  next => exact .nil

/-- The faults of a document are found in order of declaration. -/
theorem pairwise_problems_readOfKind (kind : Kind) (members : Entries Json) :
    (readOfKind kind members).problems.Pairwise (Before kind) := by
  rw [problems_readOfKind, List.pairwise_flatMap]
  refine ⟨fun entry _ => pairwise_givenProblems members entry, ?_⟩
  rw [List.pairwise_iff_forall_sublist]
  intro first later order problem member other memberToo
  obtain ⟨_, _, flaw, given, _, rfl⟩ := mem_givenProblems_iff.mp member
  obtain ⟨_, _, another, givenToo, _, rfl⟩ := mem_givenProblems_iff.mp memberToo
  exact .declaredEarlier order (Wire.Parameter.isKey_of_find? given).1
    (Wire.Parameter.isKey_of_find? givenToo).1 flaw another

/-- Faults that stand one before the other are at different places. -/
theorem Before.location_ne {kind : Kind} {problem other : Problem}
    (before : Before kind problem other) : problem.location ≠ other.location := by
  intro same
  cases before with
  | @declaredEarlier first later key other order own ownToo =>
    obtain ⟨⟨⟩, _⟩ := List.cons_eq_cons.mp same
    have declares : [first.1, later.1].Sublist (recognized kind) :=
      (order.map Prod.fst).trans (List.sublist_cons_self _ _)
    have distinct : first.1 ≠ later.1 := by
      simpa using (nodup_recognized kind).sublist declares
    have recognizes := declares.subset
    exact distinct (eq_of_isKey (recognizes (by simp)) (recognizes (by simp)) own ownToo)
  | earlierItem key earlier =>
    obtain ⟨before⟩ := earlier
    obtain ⟨_, tail⟩ := List.cons_eq_cons.mp same
    cases tail
    exact Nat.lt_irrefl _ before

/-! ## Reports -/

/-- An integer parameter without problems is accepted. -/
theorem reasoned_readInteger (parameter : Parameter) (members : Entries Json) (default : Int) :
    (readInteger parameter members default).Reasoned :=
  reasoned_read <| Wire.reasoned_nullMeansDefault
    (fun value => (Wire.ofSingle_acceptInteger value).reasoned) default

/-- A text parameter without problems is accepted. -/
theorem reasoned_readText (parameter : Parameter) (members : Entries Json) :
    (parameter.read members none acceptOptionalText).Reasoned :=
  reasoned_read fun value => (Wire.ofSingle_acceptOptionalText value).reasoned

/-- The parameters of a kind are accepted when they have no problems. -/
theorem reasoned_readPredicate (kind : Kind) (members : Entries Json) :
    (readPredicate kind members).Reasoned := by
  cases kind with
  | fuzzy =>
    have value : (FuzzyPredicate.mk <$> readValue members).Reasoned :=
      Checked.reasoned_map (reasoned_readText _ members)
    have integers :=
      Checked.reasoned_seq (Checked.reasoned_seq (Checked.reasoned_seq value
        (reasoned_readInteger maxEditsParameter members defaultFuzzy.maxEdits))
        (reasoned_readInteger prefixLengthParameter members defaultFuzzy.prefixLength))
        (reasoned_readInteger maxExpansionsParameter members defaultFuzzy.maxExpansions)
    refine Checked.reasoned_map (Checked.reasoned_seq integers ?_)
    exact reasoned_read <| Wire.reasoned_nullMeansDefault
      (fun value => (Wire.ofSingle_acceptBoolean value).reasoned) _
  | regexp => exact Checked.reasoned_map (reasoned_readText _ members)
  | phrase =>
    exact Checked.reasoned_map (Checked.reasoned_seq
      (Checked.reasoned_map (reasoned_read Wire.reasoned_acceptOptionalTexts))
      (reasoned_readInteger _ _ _))

/-- A document without faults is accepted. -/
theorem reasoned_readOfKind (kind : Kind) (members : Entries Json) :
    (readOfKind kind members).Reasoned := by
  have boost : (readBoost members).Reasoned :=
    reasoned_read <| Wire.reasoned_nullMeansDefault
      (fun value => (Wire.ofSingle_acceptNumber value).reasoned) _
  have field : (readField members).Reasoned := Checked.reasoned_map (reasoned_readText _ members)
  exact Checked.reasoned_seq (Checked.reasoned_seq (Checked.reasoned_map boost) field)
    (reasoned_readPredicate kind members)

/-- An entry of a report: the place of a fault and what is wrong there. -/
def entry (fault : Problem) : Text :=
  fault.location.text ++ ": " ++ fault.mismatch.text

/-- A report lists the faults of a document: all of them, in order of declaration, each once, at
places under keys that the document has. Its path is the place of the first. -/
structure Lists (report : SearchError) (kind : Kind) (members : Entries Json)
    (faults : List Problem) : Prop where
  complete : ∀ problem, problem ∈ faults ↔ IsFault kind members problem
  ordered : faults.Pairwise (Before kind)
  distinct : (faults.map Problem.location).Nodup
  present : ∀ fault ∈ faults, ∃ key ∈ members.names, ∃ place, fault.location = .member key :: place
  written : ∃ first rest, faults = first :: rest ∧
    report = .malformed
      (.str ("Invalid '" ++ kind.name ++ "' condition: " ++ Text.join "; " (faults.map entry)))
      (.str first.location.text) []

/-- A problem with a place is reported at that place. -/
theorem problemPath_of_ne_nil {problem : Problem} (placed : problem.location ≠ []) :
    problemPath problem = problem.location.text := by
  rw [problemPath, if_neg (by simpa using placed)]

/-- A document with a known type tag is refused with a report that lists its faults. -/
theorem exists_lists {kind : Kind} {members : Entries Json} {report : SearchError}
    (tagged : documentKind members = .ok kind)
    (refused : ofDocument (.obj members) = .error report) :
    ∃ faults, Lists report kind members faults := by
  obtain ⟨faults, read, rfl⟩ := (ofDocument_eq_error_iff tagged).mp refused
  have found : (readOfKind kind members).problems = faults := by rw [read]; rfl
  have complete : ∀ problem, problem ∈ faults ↔ IsFault kind members problem := by
    intro problem
    rw [← found, mem_problems_readOfKind_iff]
  have ordered : faults.Pairwise (Before kind) := found ▸ pairwise_problems_readOfKind kind members
  have present := fun fault member => ((complete fault).mp member).present
  refine ⟨faults, complete, ordered, ?_, present, ?_⟩
  · exact List.pairwise_map.mpr (ordered.imp Before.location_ne)
  · have path : ∀ fault ∈ faults, problemPath fault = fault.location.text := by
      intro fault member
      obtain ⟨_, _, _, placed⟩ := present fault member
      exact problemPath_of_ne_nil (placed ▸ List.cons_ne_nil _ _)
    have entries : faults.map describe = faults.map entry := by
      refine List.map_congr_left fun fault member => ?_
      rw [describe, entry, path fault member]
    cases faults with
    | nil =>
      obtain ⟨_, accepted⟩ := reasoned_readOfKind kind members found
      cases accepted.symm.trans read
    | cons first rest =>
      refine ⟨first, rest, rfl, ?_⟩
      rw [invalid, entries, List.head?_cons, Option.map_some, Option.getD_some,
        path first List.mem_cons_self]

/-- A document with a known type tag is refused exactly when it has a fault. -/
theorem refused_iff_exists_isFault {kind : Kind} {members : Entries Json}
    (tagged : documentKind members = .ok kind) :
    (∃ report, ofDocument (.obj members) = .error report) ↔
      ∃ problem, IsFault kind members problem := by
  constructor
  · rintro ⟨report, refused⟩
    obtain ⟨faults, lists⟩ := exists_lists tagged refused
    obtain ⟨first, rest, rfl, _⟩ := lists.written
    exact ⟨first, (lists.complete first).mp List.mem_cons_self⟩
  · rintro ⟨problem, fault⟩
    have member := mem_problems_readOfKind_iff.mpr fault
    cases read : readOfKind kind members with
    | accepted condition =>
      rw [read] at member
      cases member
    | rejected faults => exact ⟨_, (ofDocument_eq_error_iff tagged).mpr ⟨faults, read, rfl⟩⟩

/-- A document that is refused with a message and a path has that one problem. -/
theorem problems_of_worded {document : Json} {report : SearchError} {message path : Text}
    (refused : ofDocument document = .error report) (worded : Worded report message path) :
    problems document = [path ++ ": " ++ message] := by
  cases worded
  rw [problems, refused]
  rfl

/-- A document has no problems exactly when it gives a condition. -/
theorem problems_eq_nil_iff {document : Json} :
    problems document = [] ↔ ∃ condition, ofDocument document = .ok condition := by
  rw [problems]
  cases ofDocument document <;> simp

/-- **What is wrong with a document is reported completely.** Nothing is wrong with a document
exactly when it describes a condition. Otherwise one text says what is wrong, which is the path and
the message of the report that the document is refused with. A document with a known type tag is
refused exactly when it gives a value that is neither null nor accepted for a declared parameter,
and the report lists all faults of its values. -/
theorem problems_reported (document : Json) :
    (problems document = [] ↔ ∃ condition, ofDocument document = .ok condition) ∧
    (∀ report, ofDocument document = .error report → ∃ message path,
      Worded report message path ∧ problems document = [path ++ ": " ++ message]) ∧
    ∀ members kind, document = .obj members → documentKind members = .ok kind →
      ((∃ report, ofDocument document = .error report) ↔
        ∃ parameter type key value, (parameter, type) ∈ declared kind ∧
          parameter.find? members = some (key, value) ∧ value ≠ .null ∧ ¬type.Accepts value) ∧
      ∀ report, ofDocument document = .error report →
        ∃ faults, Lists report kind members faults := by
  refine ⟨problems_eq_nil_iff, ?_, ?_⟩
  · intro report refused
    obtain ⟨message, path, worded⟩ := exists_worded_of_ofDocument refused
    exact ⟨message, path, worded, problems_of_worded refused worded⟩
  · rintro members kind rfl tagged
    refine ⟨(refused_iff_exists_isFault tagged).trans exists_isFault_iff, ?_⟩
    intro report refused
    exact exists_lists tagged refused

/-- A phrase with two values that are no texts. The boost is no number either; it is declared
earlier and comes first. -/
theorem problems_reported_phrase :
    ∃ report faults,
      ofDocument (.obj [("values", .arr [.str "quick", .int 1, .null, .bool true]),
        ("type", .str "Phrase"), ("boost", .arr [])]) = .error report ∧
      Lists report .phrase [("values", .arr [.str "quick", .int 1, .null, .bool true]),
        ("type", .str "Phrase"), ("boost", .arr [])] faults ∧
      problems (.obj [("values", .arr [.str "quick", .int 1, .null, .bool true]),
          ("type", .str "Phrase"), ("boost", .arr [])]) =
        ["boost: Invalid 'phrase' condition: " ++
          "boost: Input should be a valid number; " ++
          "values.1: Input should be a valid string; " ++
          "values.3: Input should be a valid string"] := by
  have tagged : (documentKind [("values", .arr [.str "quick", .int 1, .null, .bool true]),
      ("type", .str "Phrase"), ("boost", .arr [])]).toOption = some .phrase := by
    decide +kernel
  obtain ⟨_, _, reported⟩ := problems_reported (.obj [("values",
    .arr [.str "quick", .int 1, .null, .bool true]), ("type", .str "Phrase"),
    ("boost", .arr [])])
  obtain ⟨refused, lists⟩ := reported _ _ rfl (ok_of_toOption tagged)
  have unaccepted : ¬ValueType.Accepts .number (.arr []) := nofun
  obtain ⟨report, refused⟩ := refused.mpr ⟨boostParameter, .number, _, _,
    List.mem_cons_self, rfl, nofun, unaccepted⟩
  obtain ⟨faults, listed⟩ := lists report refused
  exact ⟨report, faults, refused, listed, by decide +kernel⟩

/-- A boost that is null is not accepted as a number, and yet nothing is wrong. -/
theorem not_refused_of_null_boost :
    documentKind [("type", .str "fuzzy"), ("boost", .null)] = .ok .fuzzy ∧
    (boostParameter, ValueType.number) ∈ declared .fuzzy ∧
    boostParameter.find? [("type", .str "fuzzy"), ("boost", .null)] =
      some (Text.ofString "boost", .null) ∧
    ¬ValueType.Accepts .number .null ∧
    (∃ condition, ofDocument (.obj [("type", .str "fuzzy"), ("boost", .null)]) = .ok condition) ∧
    problems (.obj [("type", .str "fuzzy"), ("boost", .null)]) = [] := by
  have tagged : (documentKind [("type", .str "fuzzy"), ("boost", .null)]).toOption =
      some .fuzzy := by
    decide +kernel
  have read : (ofDocument (.obj [("type", .str "fuzzy"), ("boost", .null)])).toOption.isSome := by
    decide +kernel
  obtain ⟨condition, found⟩ := Option.isSome_iff_exists.mp read
  have described := ok_of_toOption found
  exact ⟨ok_of_toOption tagged, List.mem_cons_self, rfl, nofun, ⟨condition, described⟩,
    problems_eq_nil_iff.mpr ⟨condition, described⟩⟩

end Condition

end FieldSearch
