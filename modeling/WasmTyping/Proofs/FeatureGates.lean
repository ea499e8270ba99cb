import Mathlib.Control.Monad.Basic
import WasmTyping.Opcode.Table
import WasmTyping.Proofs.DeclarativeTyping
import WasmTyping.Proofs.WiderAcceptance

/-!
# Feature gates

An instruction belongs to features: by its form, by its block type, by the opcode it
carries and by the class of that opcode. A body with an instruction whose feature is
disabled is not accepted, with one gap. Class and opcode come independently of each
other, and an instruction looks at one of them only: an atomic opcode in a class of no
atomic access is admitted without threads, a vector opcode in a class of atomic accesses
without vectors.
-/

set_option autoImplicit false

namespace WasmTyping

/-! ## Features of an instruction -/

def Opcode.proposals (op : Opcode) : List Feature :=
  (if op.isAtomic then [.threads] else []) ++ (if op.isSimd then [.simd] else [])

/-- Block parameters and more than one result belong to multiple values. -/
def BlockType.proposals (module : Module) : BlockType → List Feature
  | .index type =>
    match module.typeAt type with
    | .ok signature => if signature.isSingleValued then [] else [.multiValue]
    | .error _ => []
  | .empty | .value _ => []

namespace Instruction

/-- The features an instruction belongs to. -/
def proposals (module : Module) : Instruction → List Feature
  | enter opening type =>
    (if opening = .tryBlock then [.exceptions] else []) ++ type.proposals module
  | tryTable type _ => .exceptions :: type.proposals module
  | catchTag _ | catchAll | delegate _ | rethrow _ | throwTag _ | throwRef => [.exceptions]
  | returnCall _ | returnCallIndirect _ _ => [.tailCall]
  | returnCallRef _ => [.tailCall, .functionReferences]
  | brOnNull _ | brOnNonNull _ | callRef _ | refAsNonNull => [.functionReferences]
  | select (some _) | refNull _ | refIsNull | refFunc _ => [.referenceTypes]
  | tableGet _ | tableSet _ | tableSize _ | tableGrow _ | tableFill _ => [.referenceTypes]
  | v128Const _ => [.simd]
  | atomicFence => [.threads]
  | numeric _ op => op.proposals
  | access kind op _ => (if kind.isAtomic then [.threads] else []) ++ op.proposals
  | lane op _ | shuffle op _ | laneAccess _ op _ _ => .simd :: op.proposals
  | _ => []

/-- Whether a feature of the opcode is foreign to the class that carries it. -/
def isMismatched : Instruction → Feature → Bool
  | access kind op _, .threads => op.isAtomic && !kind.isAtomic
  | access kind op _, .simd => op.isSimd && kind.isAtomic
  | numeric _ op, .threads => op.isAtomic
  | lane op _, .threads | shuffle op _, .threads | laneAccess _ op _ _, .threads => op.isAtomic
  | _, _ => false

end Instruction

theorem Opcode.mem_proposals_iff {op : Opcode} {feature : Feature} :
    feature ∈ op.proposals ↔
      feature = .threads ∧ op.isAtomic = true ∨ feature = .simd ∧ op.isSimd = true := by
  unfold proposals
  cases op.isAtomic <;> cases op.isSimd <;> simp

/-! ## Gates -/

namespace Scope

variable {scope : Scope} {env : Environment} {state after : State}

theorem enabled_of_block_type {name : String} {type : BlockType}
    (accepted : (Action.runAll (scope.blockSignature name type).2).accepted env state =
      some after) :
    ∀ feature ∈ type.proposals scope.module, scope.features.enabled feature = true := by
  intro feature member
  cases type with
  | empty => cases member
  | value result => cases member
  | index type =>
      cases found : scope.module.typeAt type with
      | error space => simp [BlockType.proposals, found] at member
      | ok signature =>
          simp only [blockSignature, Module.blockSignature, found,
            arity_refusal_accepted] at accepted
          simp only [BlockType.proposals, found] at member
          cases single : signature.isSingleValued with
          | true => simp [single] at member
          | false =>
              simp only [single, Bool.false_or] at accepted
              simp only [single, Bool.false_eq_true, if_false, List.mem_singleton] at member
              subst member
              split at accepted
              · assumption
              · cases accepted

/-- Numeric instructions look at the opcode only for vectors. -/
theorem enabled_of_numeric {depth : Nat} {kind : NumericClass} {op : Opcode}
    (accepted : (Action.runAll (scope.instructionActions depth (.numeric kind op))).accepted
      env state = some after) :
    ∀ feature ∈ op.proposals, scope.features.enabled feature = true ∨
      (Instruction.numeric kind op).isMismatched feature = true := by
  intro feature member
  rcases Opcode.mem_proposals_iff.mp member with ⟨rfl, atomic⟩ | ⟨rfl, vector⟩
  · exact .inr atomic
  · exact .inl ((accepted_of_requiring_simd accepted).1 vector)

/-- Accesses look at the class for threads, and at the opcode only in the other classes. -/
theorem enabled_of_access {depth : Nat} {kind : AccessClass} {op : Opcode} {arg : MemArg}
    (accepted : (Action.runAll (scope.instructionActions depth (.access kind op arg))).accepted
      env state = some after) :
    ∀ feature ∈ (if kind.isAtomic then [.threads] else []) ++ op.proposals,
      scope.features.enabled feature = true ∨
        (Instruction.access kind op arg).isMismatched feature = true := by
  intro feature member
  dsimp only [instructionActions] at accepted
  cases atomicClass : kind.isAtomic with
  | true =>
      rw [if_pos atomicClass] at accepted
      have threads := (accepted_of_requiring accepted).1
      rw [if_pos atomicClass, List.mem_append, List.mem_singleton, Opcode.mem_proposals_iff]
        at member
      rcases member with rfl | ⟨rfl, _⟩ | ⟨rfl, vector⟩
      · exact .inl threads
      · exact .inl threads
      · simp [Instruction.isMismatched, vector, atomicClass]
  | false =>
      rw [if_neg (Bool.eq_false_iff.mp atomicClass)] at accepted
      rw [if_neg (Bool.eq_false_iff.mp atomicClass), List.nil_append, Opcode.mem_proposals_iff]
        at member
      rcases member with ⟨rfl, atomic⟩ | ⟨rfl, vector⟩
      · simp [Instruction.isMismatched, atomic, atomicClass]
      · exact .inl ((accepted_of_requiring_simd accepted).1 vector)

/-- Instructions on lanes need vectors whatever the opcode. -/
theorem enabled_of_lanes {instruction : Instruction} {op : Opcode}
    (enabled : scope.features.enabled .simd = true)
    (foreign : op.isAtomic = true → instruction.isMismatched .threads = true) :
    ∀ feature ∈ .simd :: op.proposals,
      scope.features.enabled feature = true ∨ instruction.isMismatched feature = true := by
  intro feature member
  rw [List.mem_cons, Opcode.mem_proposals_iff] at member
  rcases member with rfl | ⟨rfl, atomic⟩ | ⟨rfl, _⟩
  · exact .inl enabled
  · exact .inr (foreign atomic)
  · exact .inl enabled

/-- Every feature of an instruction that is accepted is enabled, or foreign to its
class. -/
theorem enabled_of_accepted {depth : Nat} {instruction : Instruction}
    (accepted : (Action.runAll (scope.instructionActions depth instruction)).accepted env state =
      some after) :
    ∀ feature ∈ instruction.proposals scope.module,
      scope.features.enabled feature = true ∨ instruction.isMismatched feature = true := by
  intro feature member
  cases instruction with
  | enter opening type =>
      left
      by_cases form : opening = .tryBlock
      · subst form
        obtain ⟨enabled, rest⟩ := accepted_of_requiring accepted
        obtain ⟨_, refusals, -⟩ := Action.accepted_of_append rest
        rcases List.mem_cons.mp member with same | block
        · rw [same]
          exact enabled
        · exact enabled_of_block_type refusals feature block
      · dsimp only [instructionActions] at accepted
        rw [if_neg form] at accepted
        obtain ⟨_, refusals, -⟩ := Action.accepted_of_append accepted
        dsimp only [Instruction.proposals] at member
        rw [if_neg form, List.nil_append] at member
        exact enabled_of_block_type refusals feature member
  | tryTable type clauses =>
      left
      obtain ⟨enabled, rest⟩ := accepted_of_requiring accepted
      rcases List.mem_cons.mp member with same | block
      · rw [same]
        exact enabled
      · obtain ⟨_, clauses, -⟩ := Action.accepted_of_append rest
        obtain ⟨_, params, -⟩ := Action.accepted_of_append clauses
        obtain ⟨_, refusals, -⟩ := Action.accepted_of_append params
        exact enabled_of_block_type refusals feature block
  | catchTag | catchAll | delegate | rethrow | throwTag | throwRef =>
      cases List.mem_singleton.mp member
      exact .inl (accepted_of_requiring accepted).1
  | returnCall | returnCallIndirect | brOnNull | brOnNonNull | callRef | refAsNonNull =>
      cases List.mem_singleton.mp member
      exact .inl (accepted_of_requiring accepted).1
  | refNull | refIsNull | refFunc | tableGet | tableSet | tableSize | tableGrow | tableFill =>
      cases List.mem_singleton.mp member
      exact .inl (accepted_of_requiring accepted).1
  | v128Const | atomicFence =>
      cases List.mem_singleton.mp member
      exact .inl (accepted_of_requiring accepted).1
  | select type =>
      cases type with
      | none => cases member
      | some type =>
          cases List.mem_singleton.mp member
          exact .inl (accepted_of_requiring accepted).1
  | returnCallRef type =>
      left
      obtain ⟨tail, rest⟩ := accepted_of_requiring accepted
      obtain ⟨references, -⟩ := accepted_of_requiring rest
      rcases List.mem_pair.mp member with same | same
      · rw [same]
        exact tail
      · rw [same]
        exact references
  | numeric kind op => exact enabled_of_numeric accepted feature member
  | access kind op arg => exact enabled_of_access accepted feature member
  | lane op index => exact enabled_of_lanes (accepted_of_requiring accepted).1 id feature member
  | shuffle op lanes => exact enabled_of_lanes (accepted_of_requiring accepted).1 id feature member
  | laneAccess kind op arg index =>
      exact enabled_of_lanes (accepted_of_requiring accepted).1 id feature member
  | _ => cases member

/-- A feature that is foreign to the class is not looked at. -/
theorem actions_ignore_foreign {instruction : Instruction} {feature : Feature}
    (mismatched : instruction.isMismatched feature = true) (scope : Scope) (depth : Nat)
    (value : Bool) :
    instructionActions { scope with features := scope.features.set feature value } depth
      instruction = scope.instructionActions depth instruction := by
  cases instruction with
  | access kind op arg =>
      dsimp only [instructionActions]
      cases feature with
      | threads =>
          have plain : ¬ kind.isAtomic = true := by
            simp_all [Instruction.isMismatched]
          rw [if_neg plain, if_neg plain]
          rfl
      | simd =>
          have atomic : kind.isAtomic = true := (Bool.and_eq_true_iff.mp mismatched).2
          rw [if_pos atomic, if_pos atomic]
          rfl
      | _ => cases mismatched
  | numeric | lane | shuffle | laneAccess =>
      cases feature with
      | threads => rfl
      | _ => cases mismatched
  | _ => cases mismatched

end Scope

theorem Task.scope_facts {module : Module} {features : Features} {task : Task} {scope : Scope}
    (resolved : task.scope module features = .ok scope) :
    scope.module = module ∧ scope.features = features := by
  cases task with
  | function index locals body =>
      dsimp only [Task.scope] at resolved
      split at resolved
      · cases resolved
      · cases resolved
        exact ⟨rfl, rfl⟩
  | initExpr type body =>
      cases resolved
      exact ⟨rfl, rfl⟩

/-- In an accepted body every feature of every instruction is enabled, unless it is foreign
to the class of the instruction. Where it is foreign, the instruction amounts to the same
actions with and without it. -/
theorem accepted_instructions_are_enabled (validator : Validator) (task : Task)
    (accepted : (validator.perform task).verdict = .ok ()) :
    ∀ instruction ∈ task.body, ∀ feature ∈ instruction.proposals validator.module,
      validator.config.features.enabled feature = true ∨
        instruction.isMismatched feature = true ∧
          ∀ (scope : Scope) (depth : Nat) (value : Bool),
            Scope.instructionActions { scope with features := scope.features.set feature value }
              depth instruction = scope.instructionActions depth instruction := by
  intro instruction member feature belongs
  obtain ⟨scope, resolved, passed⟩ := Validator.perform_ok_iff.mp accepted
  obtain ⟨module, features⟩ := Task.scope_facts resolved
  obtain ⟨begun, -, completes⟩ := (scope.validate_verdict_ok_iff _ _ _).mp passed
  obtain ⟨before, after, advanced⟩ := completes.advances instruction member
  rw [← module] at belongs
  rw [← features]
  rcases Scope.enabled_of_accepted (Scope.accepted_of_advance advanced) feature belongs with
    enabled | mismatched
  · exact .inl enabled
  · exact .inr ⟨mismatched, Scope.actions_ignore_foreign mismatched⟩

/-- A body with a handler around an atomic access, whose block has a parameter and two
results. -/
theorem handled_atomic_access_is_enabled :
    let types : Registry :=
      (Registry.empty.insert 0 ⟨[.i32], [.i32]⟩).insert 1 ⟨[.i32], [.i32, .i32]⟩
    let module : Module :=
      { Module.ofTypes types with functions := [0], memories := [.starting 1] }
    let load : Opcode := ⟨"i32.atomic.load", [.i32], some .i32, 4, 0, true⟩
    let task : Task := .function 0 []
      [.localGet 0, .enter .tryBlock (.index 1), .localGet 0, .access .atomicLoad load ⟨0, 2, 0⟩,
        .catchAll, .i32Const 0, .i32Const 1, .endBlock, .i32Const 0, .select (some .i32),
        .endBlock]
    let features : Features := { Features.standard with exceptions := true, threads := true }
    (Validator.perform ⟨module, ⟨features, false, 1⟩, 0⟩ task).verdict = .ok () ∧
      ∀ instruction ∈ task.body, ∀ feature ∈ instruction.proposals module,
        features.enabled feature = true := by
  intro types module load task features
  have accepted : (Validator.perform ⟨module, ⟨features, false, 1⟩, 0⟩ task).verdict = .ok () := by
    decide +kernel
  have matched : ∀ instruction ∈ task.body, ∀ feature ∈ instruction.proposals module,
      ¬ instruction.isMismatched feature = true := by
    decide +kernel
  refine ⟨accepted, ?_⟩
  intro instruction member feature belongs
  rcases accepted_instructions_are_enabled ⟨module, ⟨features, false, 1⟩, 0⟩ task accepted
    instruction member feature belongs with enabled | ⟨mismatched, -⟩
  · exact enabled
  · exact absurd mismatched (matched instruction member feature belongs)

/-- An atomic opcode in a plain load without threads, and a vector opcode in an atomic load
without vectors. -/
theorem foreign_opcodes_are_accepted :
    let types : Registry :=
      (Registry.empty.insert 0 ⟨[.i32], [.i32]⟩).insert 1 ⟨[.i32], [.v128]⟩
    let module : Module :=
      { Module.ofTypes types with functions := [0, 1], memories := [.starting 1] }
    let atomic : Opcode := ⟨"i32.atomic.load", [.i32], some .i32, 4, 0, true⟩
    let vector : Opcode := ⟨"v128.load", [.i32], some .v128, 16, 0, false⟩
    let threadless : Config := .standard
    let vectorless : Config := ⟨{ Features.all with simd := false }, false, 100⟩
    (atomic ∈ Opcode.all ∧ atomic.isAtomic = true ∧ threadless.features.threads = false ∧
      (Validator.perform ⟨module, threadless, 0⟩ (.function 0 []
        [.localGet 0, .access .load atomic ⟨0, 2, 0⟩, .endBlock])).verdict = .ok ()) ∧
    vector ∈ Opcode.all ∧ vector.isSimd = true ∧ vectorless.features.simd = false ∧
      (Validator.perform ⟨module, vectorless, 0⟩ (.function 1 []
        [.localGet 0, .access .atomicLoad vector ⟨0, 4, 0⟩, .endBlock])).verdict = .ok () := by
  decide +kernel

end WasmTyping
