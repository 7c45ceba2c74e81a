import FieldSearch.Compilation.Compiler

/-!
# Registries

A registry has at most one compiler for each kind. Registering a compiler replaces the one that was
there for its kind. A condition is compiled by the compiler registered for the kind that its type
tag names, whatever its class. Compilers can be of any make: a registry asks of a compiler only for
which kind it is registered and what it makes of a condition.
-/

namespace FieldSearch

/-- What registries ask of compilers. -/
class ConditionCompiler (α : Type) where
  /-- The kind that a compiler is registered for. -/
  registered : α → Kind
  /-- What a compiler makes of a condition: a query, or a failure. -/
  compile : α → TypeResolver → TermAnalysis → Condition → Except Failure Query

/-- Checks a condition, and finishes the draft that is made of it. -/
def Compiler.compile (compiler : Compiler) (resolver : TypeResolver) (analysis : TermAnalysis)
    (condition : Condition) : Except Failure Query := do
  let draft ← compiler.draft resolver condition
  draft.finish analysis

instance : ConditionCompiler Compiler where
  registered := Compiler.registered
  compile := Compiler.compile

/-- The compiler registered for each kind. -/
structure Registry (α : Type := Compiler) where
  compiler? : Kind → Option α

namespace Registry

section Operations

variable {α : Type} [ConditionCompiler α]

/-- A registry without compilers. -/
def empty : Registry α :=
  ⟨fun _ => none⟩

/-- Registers a compiler in place of any other for its kind. -/
def register (registry : Registry α) (compiler : α) : Registry α :=
  ⟨fun kind =>
    if kind = ConditionCompiler.registered compiler then some compiler
    else registry.compiler? kind⟩

/-- The compiler of a kind after a registration. -/
theorem compiler?_register (registry : Registry α) (compiler : α) (kind : Kind) :
    (registry.register compiler).compiler? kind =
      if kind = ConditionCompiler.registered compiler then some compiler
      else registry.compiler? kind :=
  rfl

/-- Registers compilers from the first to the last. -/
def registerAll (registry : Registry α) (compilers : List α) : Registry α :=
  compilers.foldl register registry

/-- The compiler for the kind that a condition's type tag names. -/
def compilerFor (registry : Registry α) (condition : Condition) : Except Failure α := do
  let kind ← condition.kind
  match registry.compiler? kind with
  | some compiler => return compiler
  | none => throw (.noCompiler kind)

/-- Compiles a condition into a query by the compiler for its type tag. -/
def compile (registry : Registry α) (resolver : TypeResolver) (analysis : TermAnalysis)
    (condition : Condition) : Except Failure Query := do
  let compiler ← registry.compilerFor condition
  ConditionCompiler.compile compiler resolver analysis condition

/-- A call on a registry: one compiler is registered, or several are, or a condition is compiled. -/
inductive Call (α : Type)
  | register (compiler : α)
  | registerAll (compilers : List α)
  | compile (resolver : TypeResolver) (analysis : TermAnalysis) (condition : Condition)

/-- The registry after a call, and the answer of a call that compiles. -/
def call (registry : Registry α) : Call α → Registry α × Option (Except Failure Query)
  | .register compiler => (registry.register compiler, none)
  | .registerAll compilers => (registry.registerAll compilers, none)
  | .compile resolver analysis condition =>
    (registry, some (registry.compile resolver analysis condition))

/-- The registry after calls that are made one after the other, and the answers of the calls. -/
def run (registry : Registry α) :
    List (Call α) → Registry α × List (Option (Except Failure Query))
  | [] => (registry, [])
  | call :: calls =>
    let (next, answer) := registry.call call
    let (last, answers) := next.run calls
    (last, answer :: answers)

/-- The first call is answered, and the others are made on the registry after it. -/
theorem run_cons (registry : Registry α) (call : Call α) (calls : List (Call α)) :
    registry.run (call :: calls) =
      (((registry.call call).1.run calls).1,
        (registry.call call).2 :: ((registry.call call).1.run calls).2) :=
  rfl

end Operations

/-- The registry in which each kind has its own compiler. -/
def default : Registry :=
  empty.registerAll (Kind.all.map Compiler.builtIn)

/-- Checks a condition by the compiler for its type tag. -/
def draft (registry : Registry) (resolver : TypeResolver) (condition : Condition) :
    Except Failure Draft := do
  let compiler ← registry.compilerFor condition
  compiler.draft resolver condition

/-- A condition is compiled by finishing the draft that is made of it. -/
theorem compile_eq (registry : Registry) (resolver : TypeResolver) (analysis : TermAnalysis)
    (condition : Condition) :
    registry.compile resolver analysis condition =
      registry.draft resolver condition >>= (·.finish analysis) := by
  rw [compile, draft]
  cases registry.compilerFor condition <;> rfl

end Registry

end FieldSearch
