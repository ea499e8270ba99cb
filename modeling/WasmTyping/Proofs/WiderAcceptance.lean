import Mathlib.Control.Monad.Basic
import WasmTyping.Proofs.WiderScopes

/-!
# Acceptance under features and declarations

To enable a feature or to declare something more never makes an accepted body fail. Both
widen the scope of the body. A feature is more than a permission: with reference types
enabled the targets of a table are compared by number instead of by type. A type that is
declared may fill an index that other types mentioned before it was registered.
-/

set_option autoImplicit false

namespace WasmTyping

theorem Task.scope_widens {module wider : Module} {features features' : Features}
    (extended : wider.Extends module) (included : features'.Include features) {task : Task}
    {scope : Scope} (resolved : task.scope module features = .ok scope) :
    ∃ scope', task.scope wider features' = .ok scope' ∧ scope'.Widens scope := by
  cases task with
  | function index locals body =>
      dsimp only [Task.scope] at resolved ⊢
      cases found : module.functionType index with
      | error space =>
          rw [found] at resolved
          cases resolved
      | ok type =>
          rw [found] at resolved
          cases resolved
          rw [extended.function_type found]
          exact ⟨_, rfl, extended, included, rfl, rfl⟩
  | initExpr type body =>
      cases resolved
      exact ⟨_, rfl, extended, included, rfl, rfl⟩

namespace Validator

theorem perform_ok_iff {validator : Validator} {task : Task} :
    (validator.perform task).verdict = .ok () ↔
      ∃ scope, task.scope validator.module validator.config.features = .ok scope ∧
        (scope.validate validator.config validator.diagnostics task.body).verdict = .ok () := by
  cases resolved : task.scope validator.module validator.config.features with
  | error space => simp [(perform_of_unresolved resolved).1]
  | ok scope =>
      rw [(perform_of_resolved resolved).1]
      simp [Scope.validate_verdict]

/-- A body accepted for a module is accepted for every module that extends it, under all
settings that enable its features. -/
theorem perform_ok_of_wider {validator wider : Validator} {task : Task}
    (extended : wider.module.Extends validator.module)
    (included : wider.config.features.Include validator.config.features)
    (accepted : (validator.perform task).verdict = .ok ()) :
    (wider.perform task).verdict = .ok () := by
  rw [perform_ok_iff] at accepted ⊢
  obtain ⟨scope, resolved, passed⟩ := accepted
  obtain ⟨scope', resolved', widens⟩ := Task.scope_widens extended included resolved
  exact ⟨scope', resolved', widens.validate_ok passed⟩

end Validator

/-! ## Features -/

/-- A body that is accepted with some features is accepted with more, whatever limits the
reports. -/
theorem features_keep_acceptance (module : Module) (config wider : Config)
    (included : ∀ feature, config.features.enabled feature = true →
      wider.features.enabled feature = true)
    (count count' : Nat) (task : Task)
    (accepted : (Validator.perform ⟨module, config, count⟩ task).verdict = .ok ()) :
    (Validator.perform ⟨module, wider, count'⟩ task).verdict = .ok () := by
  apply Validator.perform_ok_of_wider (.refl module) _ accepted
  exact included

/-- A table of branches, whose targets are compared by type without any feature and by
number with all of them. -/
theorem table_branch_keeps_acceptance :
    let types : Registry := Registry.empty.insert 0 ⟨[.i32], [.i64]⟩
    let module : Module := { Module.ofTypes types with functions := [0] }
    let task : Task := .function 0 []
      [.enter .block (.value .i64), .i64Const 1, .localGet 0, .brTable [0, 1] 0, .endBlock,
        .endBlock]
    (Validator.perform ⟨module, ⟨.mvp, true, 1⟩, 0⟩ task).verdict = .ok () ∧
      (Validator.perform ⟨module, ⟨.all, false, 100⟩, 3⟩ task).verdict = .ok () := by
  intro types module task
  have accepted : (Validator.perform ⟨module, ⟨.mvp, true, 1⟩, 0⟩ task).verdict = .ok () := by
    decide +kernel
  have included : ∀ feature, Features.mvp.enabled feature = true →
      Features.all.enabled feature = true := by
    intro feature _
    cases feature <;> rfl
  exact ⟨accepted, features_keep_acceptance module _ _ included 0 3 task accepted⟩

/-! ## Declarations -/

/-- Something that can be added to a module. -/
inductive Declaration where
  | type (type : FuncType)
  | function (type : Nat)
  | table (table : TableType)
  | memory (limits : Limits)
  | global (global : GlobalType)
  | tag (type : Nat)
  | element (type : ValueType)
  deriving DecidableEq

namespace Module

def declare (module : Module) : Declaration → Module
  | .type type => (module.addType type).2
  | .function type => (module.addFunction type).2
  | .table table => (module.addTable table).2
  | .memory limits => (module.addMemory limits).2
  | .global global => (module.addGlobal global).2
  | .tag type => (module.addTag type).2
  | .element type => (module.addElement type).2

def declareAll (module : Module) (declarations : List Declaration) : Module :=
  declarations.foldl declare module

theorem extends_declare (module : Module) (declaration : Declaration) :
    (module.declare declaration).Extends module := by
  have unchanged := Extends.refl module
  cases declaration with
  | type type => exact { unchanged with types := module.types.extends_push type }
  | function type => exact { unchanged with functions := List.prefix_append _ _ }
  | table table => exact { unchanged with tables := List.prefix_append _ _ }
  | memory limits => exact { unchanged with memories := List.prefix_append _ _ }
  | global global => exact { unchanged with globals := List.prefix_append _ _ }
  | tag type => exact { unchanged with tags := List.prefix_append _ _ }
  | element type => exact { unchanged with elements := List.prefix_append _ _ }

theorem extends_declare_all (module : Module) (declarations : List Declaration) :
    (module.declareAll declarations).Extends module := by
  induction declarations generalizing module with
  | nil => exact .refl module
  | cons declaration rest ih =>
      exact (ih (module.declare declaration)).trans (module.extends_declare declaration)

end Module

/-- A body that is accepted for a module is accepted after any further declarations. Types
that are compatible stay compatible when a type is registered at a free index, whether or
not they mention that index. -/
theorem declarations_keep_acceptance :
    (∀ (module : Module) (declarations : List Declaration) (config : Config) (count : Nat)
      (task : Task), (Validator.perform ⟨module, config, count⟩ task).verdict = .ok () →
        (Validator.perform ⟨module.declareAll declarations, config, count⟩ task).verdict =
          .ok ()) ∧
    ∀ (registry : Registry) (index : Nat) (type : FuncType), registry.get? index = none →
      ∀ actual expected, registry.compatible actual expected = true →
        (registry.insert index type).compatible actual expected = true := by
  constructor
  · intro module declarations config count task accepted
    exact Validator.perform_ok_of_wider (module.extends_declare_all declarations)
      (.refl config.features) accepted
  · intro registry index type free actual expected fits
    exact (Registry.extends_insert free type).compatible fits

/-- A function on references to a type that is declared only afterwards, and that mentions
itself then. -/
theorem unregistered_reference_keeps_acceptance :
    let types : Registry := Registry.empty.insert 0 ⟨[.ref 1 false], [.ref 1 true]⟩
    let module : Module := { Module.ofTypes types with functions := [0] }
    let declarations : List Declaration :=
      [.type ⟨[.ref 1 true], []⟩, .function 1, .table ⟨.ref 1 true, .starting 2⟩,
        .memory (.starting 1), .global ⟨.i32, true⟩, .tag 1, .element (.ref 1 false)]
    let task : Task := .function 0 [.i32] [.localGet 0, .endBlock]
    (types.get? 1 = none ∧ types.compatible (.ref 1 false) (.ref 1 true) = true ∧
        (Validator.perform ⟨module, .standard, 0⟩ task).verdict = .ok ()) ∧
      (types.insert 1 ⟨[.ref 1 true], []⟩).compatible (.ref 1 false) (.ref 1 true) = true ∧
      (Validator.perform ⟨module.declareAll declarations, .standard, 0⟩ task).verdict =
        .ok () := by
  intro types module declarations task
  have free : types.get? 1 = none := by decide
  have fits : types.compatible (.ref 1 false) (.ref 1 true) = true := by decide +kernel
  have accepted : (Validator.perform ⟨module, .standard, 0⟩ task).verdict = .ok () := by
    decide +kernel
  obtain ⟨bodies, registration⟩ := declarations_keep_acceptance
  exact ⟨⟨free, fits, accepted⟩, registration types 1 _ free _ _ fits,
    bodies module declarations .standard 0 task accepted⟩

end WasmTyping
