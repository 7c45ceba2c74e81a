import FieldSearch.Compilation.Registry

/-!
# Dispatch

Whatever calls are made on a registry, a condition is compiled by the last compiler that has been
registered for the kind its type tag names, those that the registry begins with among them. The
class of the condition has no part in the choice. Of the order in which compilers are registered
only that of the compilers of one kind matters, and not how they are spread over calls. Compiling
leaves a registry as it is.
-/

namespace FieldSearch

open ConditionCompiler (registered)

/-- A compiler of a make of its own, known only by what it makes of conditions. -/
structure CustomCompiler where
  registered : Kind
  compile : TypeResolver → TermAnalysis → Condition → Except Failure Query

instance : ConditionCompiler CustomCompiler where
  registered := CustomCompiler.registered
  compile := CustomCompiler.compile

/-- Compilers of two makes can stand in one registry. -/
instance {α β : Type} [ConditionCompiler α] [ConditionCompiler β] :
    ConditionCompiler (α ⊕ β) where
  registered := Sum.elim registered registered
  compile := Sum.elim ConditionCompiler.compile ConditionCompiler.compile

variable {α : Type} [ConditionCompiler α]

/-- The compilers for a kind, in order. -/
def compilersOf (compilers : List α) (kind : Kind) : List α :=
  compilers.filter (registered · = kind)

/-- What a condition is compiled to when compilers have been registered from the first to the last:
the last one for the kind that its type tag names decides, and a tag without a kind and a kind
without a compiler are failures of their own. -/
inductive Dispatched (compilers : List α) (resolver : TypeResolver) (analysis : TermAnalysis)
    (condition : Condition) : Except Failure Query → Prop
  | unknownKind (unknown : ∀ kind : Kind, kind.name ≠ condition.tag) :
    Dispatched compilers resolver analysis condition (.error (.notKind (.str condition.tag)))
  | noCompiler (kind : Kind) (named : kind.name = condition.tag)
    (absent : ∀ compiler ∈ compilers, registered compiler ≠ kind) :
    Dispatched compilers resolver analysis condition (.error (.noCompiler kind))
  | last (earlier later : List α) (compiler : α)
    (inOrder : compilers = earlier ++ compiler :: later)
    (named : (registered compiler).name = condition.tag)
    (kept : ∀ other ∈ later, registered other ≠ registered compiler) :
    Dispatched compilers resolver analysis condition
      (ConditionCompiler.compile compiler resolver analysis condition)

/-! ## Compilers of a kind -/

section CompilersOf

variable {compilers : List α} {kind : Kind}

/-- There are no compilers of a kind when none is registered for it. -/
theorem compilersOf_eq_nil_iff :
    compilersOf compilers kind = [] ↔ ∀ compiler ∈ compilers, registered compiler ≠ kind := by
  simp [compilersOf]

/-- The last compiler for a kind is the one after which no other is for the kind. -/
theorem getLast?_compilersOf_eq_some_iff {compiler : α} :
    (compilersOf compilers kind).getLast? = some compiler ↔
      ∃ earlier later, compilers = earlier ++ compiler :: later ∧ registered compiler = kind ∧
        ∀ other ∈ later, registered other ≠ kind := by
  rw [List.getLast?_eq_some_iff]
  constructor
  · rintro ⟨before, split⟩
    obtain ⟨first, rest, rfl, -, restOf⟩ := List.filter_eq_append_iff.mp split
    obtain ⟨skipped, later, rfl, -, own, laterOf⟩ := List.filter_eq_cons_iff.mp restOf
    refine ⟨first ++ skipped, later, ?_, of_decide_eq_true own, ?_⟩
    · rw [List.append_assoc]
    · exact compilersOf_eq_nil_iff.mp laterOf
  · rintro ⟨earlier, later, rfl, own, kept⟩
    refine ⟨compilersOf earlier kind, ?_⟩
    have none : later.filter (registered · = kind) = [] := compilersOf_eq_nil_iff.mpr kept
    rw [compilersOf, List.filter_append, List.filter_cons_of_pos (by simpa using own), none]
    rfl

end CompilersOf

namespace Registry

/-! ## Registering -/

/-- Registering two lists is registering one after the other. -/
theorem registerAll_append (registry : Registry α) (first next : List α) :
    registry.registerAll (first ++ next) = (registry.registerAll first).registerAll next :=
  List.foldl_append

/-- The compiler of a kind is the last that was registered for it. -/
theorem compiler?_registerAll (registry : Registry α) (compilers : List α) (kind : Kind) :
    (registry.registerAll compilers).compiler? kind =
      (compilersOf compilers kind).getLast?.or (registry.compiler? kind) := by
  -- By induction for every registry: the first compiler is what later ones may replace.
  induction compilers generalizing registry with
  | nil => rfl
  | cons compiler rest ih =>
    have step : registry.registerAll (compiler :: rest) =
        (registry.register compiler).registerAll rest := rfl
    rw [step, ih, compiler?_register]
    by_cases own : kind = registered compiler
    · rw [if_pos own, compilersOf, compilersOf, List.filter_cons_of_pos (by simp [own])]
      cases rest.filter (registered · = kind) <;> simp [List.getLast?_cons]
    · rw [if_neg own, compilersOf, compilersOf,
        List.filter_cons_of_neg (by simp [Ne.symm own])]

/-- In a registry that begins empty the last compiler of a kind is the one there. -/
theorem compiler?_registerAll_empty (compilers : List α) (kind : Kind) :
    (empty.registerAll compilers).compiler? kind = (compilersOf compilers kind).getLast? := by
  rw [compiler?_registerAll, empty, Option.or_none]

/-- Registries with the same compilers of every kind, in the same order, are equal. -/
theorem registerAll_congr (registry : Registry α) {first second : List α}
    (same : ∀ kind, compilersOf first kind = compilersOf second kind) :
    registry.registerAll first = registry.registerAll second := by
  have compilers : (registry.registerAll first).compiler? =
      (registry.registerAll second).compiler? := by
    funext kind
    rw [compiler?_registerAll, compiler?_registerAll, same kind]
  exact congrArg Registry.mk compilers

/-! ## Compiling -/

section Compiling

variable {registry : Registry α} {kind : Kind} {compilers : List α} {resolver : TypeResolver}
  {analysis : TermAnalysis} {condition : Condition} {outcome : Except Failure Query}

/-- The compiler of the kind that the type tag names compiles the condition. -/
theorem compile_of_compiler? {compiler : α} (named : kind.name = condition.tag)
    (found : registry.compiler? kind = some compiler) :
    registry.compile resolver analysis condition =
      ConditionCompiler.compile compiler resolver analysis condition := by
  rw [compile, compilerFor, Condition.kind_of_name named]
  simp only [bind, Except.bind, found]
  rfl

/-- Without a compiler of that kind the compilation fails and names the kind. -/
theorem compile_of_compiler?_eq_none (named : kind.name = condition.tag)
    (absent : registry.compiler? kind = none) :
    registry.compile resolver analysis condition = .error (.noCompiler kind) := by
  rw [compile, compilerFor, Condition.kind_of_name named]
  simp only [bind, Except.bind, absent]
  rfl

/-- A type tag that names no kind fails with the tag. -/
theorem compile_of_unknownKind (unknown : ∀ kind : Kind, kind.name ≠ condition.tag) :
    registry.compile resolver analysis condition =
      .error (.notKind (.str condition.tag)) := by
  have none : Kind.ofName? condition.tag = none := by
    rw [Kind.ofName?_eq_none_iff, Kind.mem_names_iff]
    exact not_exists.mpr unknown
  rw [compile, compilerFor, Condition.kind, none]
  rfl

/-- A compilation comes out as the last compiler of its kind decides. -/
theorem compile_of_dispatched
    (dispatched : Dispatched compilers resolver analysis condition outcome) :
    (empty.registerAll compilers).compile resolver analysis condition = outcome := by
  cases dispatched with
  | unknownKind unknown => exact compile_of_unknownKind unknown
  | noCompiler kind named absent =>
    apply compile_of_compiler?_eq_none named
    rw [compiler?_registerAll_empty, compilersOf_eq_nil_iff.mpr absent]
    rfl
  | last earlier later compiler inOrder named kept =>
    apply compile_of_compiler? named
    rw [compiler?_registerAll_empty]
    exact getLast?_compilersOf_eq_some_iff.mpr ⟨earlier, later, inOrder, rfl, kept⟩

/-- A condition is dispatched in one of the three ways. -/
theorem exists_dispatched (compilers : List α) (resolver : TypeResolver)
    (analysis : TermAnalysis) (condition : Condition) :
    ∃ outcome, Dispatched compilers resolver analysis condition outcome := by
  by_cases known : ∃ kind : Kind, kind.name = condition.tag
  · obtain ⟨kind, named⟩ := known
    cases found : (compilersOf compilers kind).getLast? with
    | none =>
      have absent := compilersOf_eq_nil_iff.mp (List.getLast?_eq_none_iff.mp found)
      exact ⟨_, .noCompiler kind named absent⟩
    | some compiler =>
      obtain ⟨earlier, later, inOrder, rfl, kept⟩ := getLast?_compilersOf_eq_some_iff.mp found
      exact ⟨_, .last earlier later compiler inOrder named kept⟩
  · exact ⟨_, .unknownKind (not_exists.mp known)⟩

/-- The outcomes that dispatch allows are those of compilation. -/
theorem compile_eq_iff_dispatched :
    (empty.registerAll compilers).compile resolver analysis condition = outcome ↔
      Dispatched compilers resolver analysis condition outcome := by
  constructor
  · rintro rfl
    obtain ⟨outcome, dispatched⟩ := exists_dispatched compilers resolver analysis condition
    rwa [compile_of_dispatched dispatched]
  · exact compile_of_dispatched

end Compiling

/-! ## Calls -/

/-- The compilers that a call registers, in order. -/
def Call.compilers : Call α → List α
  | .register compiler => [compiler]
  | .registerAll compilers => compilers
  | .compile _ _ _ => []

/-- A call changes a registry by the compilers it registers. -/
theorem call_fst (registry : Registry α) (call : Call α) :
    (registry.call call).1 = registry.registerAll call.compilers := by
  cases call <;> rfl

/-- Calls change a registry by the compilers they register. -/
theorem run_fst (registry : Registry α) (calls : List (Call α)) :
    (registry.run calls).1 = registry.registerAll (calls.flatMap Call.compilers) := by
  induction calls generalizing registry with
  | nil => rfl
  | cons call rest ih =>
    rw [List.flatMap_cons, registerAll_append, ← call_fst]
    exact ih _

/-- Calls in two lists are answered as if the second were made on the registry after the first. -/
theorem run_append (registry : Registry α) (first next : List (Call α)) :
    registry.run (first ++ next) =
      (((registry.run first).1.run next).1,
        (registry.run first).2 ++ ((registry.run first).1.run next).2) := by
  induction first generalizing registry with
  | nil => rfl
  | cons call rest ih => rw [List.cons_append, run_cons, run_cons, ih, List.cons_append]

/-- **The last compiler for a kind compiles the conditions of the kind.** A registry begins with
compilers of any make, with none or with the built-in ones as `Registry.default` does, and calls are
made on it. What a condition is compiled to is then what the last of all these compilers for the
kind of its type tag makes of it, whatever its class, unless there is no such compiler or no such
kind. Registries that have been given the same compilers of every kind in the same order are equal,
however the compilers were spread over calls. A call that compiles, also one that fails, changes
neither the registry nor what later calls answer. -/
theorem run_dispatches (initial : List α) (calls : List (Call α)) :
    (∀ resolver analysis condition outcome,
      ((empty.registerAll initial).run calls).1.compile resolver analysis condition = outcome ↔
        Dispatched (initial ++ calls.flatMap Call.compilers) resolver analysis condition
          outcome) ∧
    (∀ (others : List α) (otherCalls : List (Call α)),
      (∀ kind, compilersOf (initial ++ calls.flatMap Call.compilers) kind =
        compilersOf (others ++ otherCalls.flatMap Call.compilers) kind) →
      ((empty.registerAll initial).run calls).1 = ((empty.registerAll others).run otherCalls).1) ∧
    ∀ resolver analysis condition later,
      (empty.registerAll initial).run (calls ++ .compile resolver analysis condition :: later) =
        let (registry, answers) := (empty.registerAll initial).run calls
        let (final, more) := registry.run later
        (final, answers ++ some (registry.compile resolver analysis condition) :: more) := by
  refine ⟨?_, ?_, ?_⟩
  · intro resolver analysis condition outcome
    rw [run_fst, ← registerAll_append]
    exact compile_eq_iff_dispatched
  · intro others otherCalls same
    rw [run_fst, run_fst, ← registerAll_append, ← registerAll_append]
    exact registerAll_congr empty same
  · intro resolver analysis condition later
    rw [run_append]
    rfl

/-- A compiler that writes patterns backwards. -/
def backwards : CustomCompiler where
  registered := .regexp
  compile _ _ condition := do
    let pattern ← condition.value
    return ⟨.regexp ⟨condition.field.getD [], .str (pattern.getD []).reverse⟩,
      .float condition.boost⟩

/-- Two built-in compilers are replaced, one of them by a compiler that makes patterns of fuzzy
conditions, and a plain condition fails in between. -/
theorem run_dispatches_backwards :
    let builtIn (kind : Kind) : Compiler ⊕ CustomCompiler := .inl (.builtIn kind)
    let likePatterns : Compiler ⊕ CustomCompiler := .inl ⟨.fuzzy, .like .regexp⟩
    let resolver : TypeResolver := fun _ => .unknown
    let analysis : TermAnalysis := fun _ text => .ok (.str text)
    let plain : Condition := ⟨.one, some "code", .plain "phrase"⟩
    let start := empty.registerAll (Kind.all.map builtIn)
    let registry := (start.run [.register (.inr backwards), .register likePatterns]).1
    registry.compile resolver analysis ⟨.one, some "code", .regexp (some "ab")⟩ =
        .ok ⟨.regexp ⟨"code", .str "ba"⟩, .float .one⟩ ∧
      registry.compile resolver analysis ⟨.one, some "code", .fuzzy ⟨some "ab", 9, 0, 50, true⟩⟩ =
        .ok ⟨.regexp ⟨"code", .str "ab"⟩, .float .one⟩ ∧
      registry = (empty.run
        [.registerAll [builtIn .phrase, builtIn .fuzzy, likePatterns],
          .registerAll [builtIn .regexp, .inr backwards]]).1 ∧
      start.run
          [.register (.inr backwards), .compile resolver analysis plain, .register likePatterns] =
        (registry, [none, some (.error (.noAttribute "Condition" "values")), none]) := by
  intro builtIn likePatterns resolver analysis plain start registry
  obtain ⟨dispatch, alike, -⟩ := run_dispatches (Kind.all.map builtIn)
    [.register (.inr backwards), .register likePatterns]
  obtain ⟨-, -, unchanged⟩ := run_dispatches (Kind.all.map builtIn) [.register (.inr backwards)]
  refine ⟨?_, ?_, ?_, ?_⟩
  · exact (dispatch _ _ _ _).mpr
      (.last (Kind.all.map builtIn) [likePatterns] (.inr backwards) rfl rfl (by decide))
  · exact (dispatch _ _ _ _).mpr
      (.last (Kind.all.map builtIn ++ [.inr backwards]) [] likePatterns rfl rfl (by decide))
  · refine alike [] _ fun kind => ?_
    cases kind <;> rfl
  · exact unchanged resolver analysis plain [.register likePatterns]

end Registry

end FieldSearch
