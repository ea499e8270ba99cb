import WasmTyping.Proofs.CompatibilityOrder
import WasmTyping.Proofs.DeadCode
import WasmTyping.Proofs.FeatureGates

/-!
# Type annotations

A block type, a `select` and a `ref.null` may mention a reference to a type by its index.
Such an annotation goes into the checker as it stands; only block types that are indices
themselves are looked up. An accepted body may therefore mention types that are not
registered, in each of the forms that have an annotation and whatever the index. A type
that is missing stays generic: the body is accepted for every type that may be registered
in its place, and a reference to it is never called.
-/

set_option autoImplicit false

namespace WasmTyping

/-! ## Instructions with an annotation -/

def BlockType.annotations : BlockType → List ValueType
  | .value type => [type]
  | .empty | .index _ => []

/-- The types that are written in an instruction. -/
def Instruction.annotations : Instruction → List ValueType
  | enter _ type | tryTable type _ => type.annotations
  | select (some type) | refNull type => [type]
  | _ => []

/-- The forms of instructions in which a type can be written. -/
inductive AnnotatedForm where
  | enter (opening : Opening)
  | tryTable
  | select
  | refNull
  deriving DecidableEq

def AnnotatedForm.instruction (written : ValueType) : AnnotatedForm → Instruction
  | enter opening => .enter opening (.value written)
  | tryTable => .tryTable (.value written) []
  | select => .select (some written)
  | refNull => .refNull written

/-! ## References to types that are not registered -/

namespace Registry

variable {registry : Registry}

/-- A type that is not registered is compatible with no registered one. -/
theorem not_compatible_of_free {free callee : Nat} {type : FuncType}
    (missing : registry.get? free = none) (registered : registry.get? callee = some type)
    (actual expected : Bool) :
    registry.compatible (.ref free actual) (.ref callee expected) ≠ true := by
  intro compatible
  have fits : registry.indexFits [] free callee = true := (Bool.and_eq_true_iff.mp compatible).2
  have apart : free ≠ callee := by
    rintro rfl
    rw [missing] at registered
    cases registered
  obtain ⟨_, _, found, -⟩ := (index_fits_fresh_iff apart List.not_mem_nil).mp fits
  rw [missing] at found
  cases found

end Registry

/-- No call through a reference is accepted where the operand has the type. -/
def Environment.Uncallable (env : Environment) (type : ValueType) : Prop :=
  ∀ (state : State) (callee : Nat), state.peek 0 = .ok type →
    (Check.callRef callee env state).result ≠ .ok () ∧
      (Check.returnCallRef callee env state).result ≠ .ok ()

namespace Check

variable {env : Environment} {state next : State}

/-- The operands that are removed first are those on top. -/
theorem compatible_of_pop_signatures {actual expected : ValueType}
    {rest : List (List ValueType)} {construct : String} (top : state.peek 0 = .ok actual)
    (accepted : (popSignatures ([expected] :: rest) construct).accepted env state = some next) :
    env.types.compatible actual expected = true := by
  rw [popSignatures, List.map_cons, all_cons, also_accepted, popSignature, also_accepted]
    at accepted
  obtain ⟨_, popped, -⟩ := Option.bind_eq_some_iff.mp accepted
  obtain ⟨_, checked, -⟩ := Option.bind_eq_some_iff.mp popped
  have verdict := ok_of_accepted checked
  rw [check_signature_result, signatureVerdict, Verdict.and_eq_ok_iff, operandVerdict,
    List.length_nil, top] at verdict
  exact (env.check_type_ok_iff actual expected).mp verdict.1

/-- A call through a reference resolves its type and removes the reference first. -/
theorem not_ok_of_reference_call {number callee : Nat} {nullable : Bool}
    (missing : env.types.get? number = none) (top : state.peek 0 = .ok (.ref number nullable))
    {call : FuncType → Check Unit}
    (removes : ∀ type next, (call type).accepted env state = some next →
      ∃ rest construct popped,
        (popSignatures ([.ref callee true] :: rest) construct).accepted env state = some popped) :
    ((resolveType callee >>= call) env state).result ≠ .ok () := by
  intro succeeded
  have accepted := accepted_of_ok succeeded
  rw [resolveType, ask_bind_accepted] at accepted
  obtain ⟨type, resolved, called⟩ := Option.bind_eq_some_iff.mp accepted
  obtain ⟨rest, construct, popped, removed⟩ := removes type _ called
  have compatible := compatible_of_pop_signatures top removed
  cases registered : env.types.get? callee with
  | none =>
      rw [registered] at resolved
      cases resolved
  | some type => exact Registry.not_compatible_of_free missing registered _ _ compatible

theorem uncallable_of_free {number : Nat} (missing : env.types.get? number = none)
    (nullable : Bool) : env.Uncallable (.ref number nullable) := by
  intro state callee top
  constructor
  · apply not_ok_of_reference_call missing top
    intro type next called
    rw [Effect.check, also_accepted] at called
    obtain ⟨popped, removed, -⟩ := Option.bind_eq_some_iff.mp called
    exact ⟨_, _, popped, removed⟩
  · apply not_ok_of_reference_call missing top
    intro type next called
    rw [tailCall, also_accepted] at called
    obtain ⟨popped, removed, -⟩ := Option.bind_eq_some_iff.mp called
    exact ⟨_, _, popped, removed⟩

end Check

/-! ## Bodies around an annotation -/

namespace Region

theorem unknown_ends_in (types : Registry) (results : List ValueType) :
    unknown.endsIn types results = true :=
  (ends_in_iff results).mpr ⟨results, unknown_admits results, types.all_compatible_refl results⟩

theorem exchange_nothing (region : Region) (types : Registry) (results : List ValueType) :
    region.exchange types [] results = some (region.push results) := by
  rw [exchange, pop_nil, Option.map_some]

end Region

namespace Scope

variable {scope : Scope} {results : List ValueType} (function : scope.kind = .function results)
  (around : Surroundings) (region : Region)

include function

theorem marker_advance :
    scope.advance (around.state region) .unreachable = some (around.state .unknown) := by
  rw [unreachable_advance function (List.cons_ne_nil _ _), around.state_mark_unreachable]

theorem condition_advance :
    scope.advance (around.state region) (.i32Const 0) =
      some (around.state (region.push [.i32])) := by
  have constant := simple_advance function around region (.i32Const 0)
  rw [Simple.signature, Option.bind_some, Region.exchange_nothing, Option.map_some] at constant
  exact constant

theorem ref_null_advance (written : ValueType)
    (enabled : scope.features.enabled .referenceTypes = true) :
    scope.advance (around.state region) (.refNull written) =
      some (around.state (region.push [written.asNullable])) := by
  rw [advance_eq function, instructionActions, requiring_accepted, if_pos enabled,
    Action.run_all_perform_accepted]
  show (Effect.producing "ref.null" _).check.accepted _ _ = _
  rw [Effect.producing_accepted, Region.exchange_nothing, Option.map_some]

/-- A region with a written result is entered whatever the result. -/
theorem enter_value_advance (opening : Opening) (written : ValueType)
    (enabled : opening = .tryBlock → scope.features.enabled .exceptions = true) {inner : Region}
    (popped : Region.popAll scope.module.types region (opening.pops []) = some inner) :
    scope.advance (around.state region) (.enter opening (.value written)) =
      some ((around.nest inner opening.label [] [written]).state (.start [])) := by
  rw [enter_advance function around region opening _ enabled, blockType?, Option.bind_some,
    popped]
  rfl

theorem try_table_value_advance (written : ValueType)
    (enabled : scope.features.enabled .exceptions = true) :
    scope.advance (around.state region) (.tryTable (.value written) []) =
      some ((around.nest region .tryTable [] [written]).state (.start [])) := by
  have steps : scope.tryTableActions (.value written) [] =
      [.perform (.beginTryTable [])] ++ [.perform (.finishTryTable [] [written])] := rfl
  rw [advance_eq function, instructionActions, requiring_accepted, if_pos enabled, steps,
    Action.run_all_append_accepted, Action.run_all_perform_accepted, Operation.run,
    Check.pop_signature_accepted, Region.pop_nil, Option.map_some, Option.bind_some,
    Action.run_all_perform_accepted]
  rfl

/-- An arm whose end is out of reach ends in any results. -/
theorem completes_dead_arm {kind : LabelKind} {written : ValueType} {rest : List Instruction}
    (plain : kind ≠ .ifThen) (left : Region)
    (completes : scope.Completes rest (around.state (region.push [written]))) :
    scope.Completes (.unreachable :: .endBlock :: rest)
      ((around.nest region kind [] [written]).state left) := by
  apply completes_of_advance (marker_advance function _ _) (List.cons_ne_nil _ _)
  exact (completes_end_iff function around region kind [] [written] .unknown rest plain).mpr
    ⟨Region.unknown_ends_in _ _, completes⟩

theorem completes_opened {instruction : Instruction} {kind : LabelKind} {written : ValueType}
    {rest : List Instruction} (plain : kind ≠ .ifThen)
    (entered : scope.advance (around.state region) instruction =
      some ((around.nest region kind [] [written]).state (.start [])))
    (completes : scope.Completes rest (around.state (region.push [written]))) :
    scope.Completes (instruction :: .unreachable :: .endBlock :: rest) (around.state region) := by
  apply completes_of_advance entered (List.cons_ne_nil _ _)
  exact completes_dead_arm function around region plain _ completes

theorem completes_closing :
    scope.Completes [.unreachable, .endBlock] ((Surroundings.body results).state region) := by
  apply completes_of_advance (marker_advance function _ _) (List.cons_ne_nil _ _)
  exact (completes_body_end_iff function .unknown).mpr (Region.unknown_ends_in _ _)

theorem completes_single_arm {opening : Opening} (single : opening ≠ .ifThen)
    {written : ValueType}
    (enabled : opening = .tryBlock → scope.features.enabled .exceptions = true)
    {rest : List Instruction}
    (completes : scope.Completes rest (around.state (region.push [written]))) :
    scope.Completes (.enter opening (.value written) :: .unreachable :: .endBlock :: rest)
      (around.state region) := by
  have pops : opening.pops [] = [[]] := by
    cases opening with
    | ifThen => exact absurd rfl single
    | _ => rfl
  have kind : opening.label ≠ .ifThen := by
    cases opening with
    | ifThen => exact absurd rfl single
    | _ => decide
  have popped : Region.popAll scope.module.types region (opening.pops []) = some region := by
    rw [pops, Region.pop_all_singleton, Region.pop_nil]
  exact completes_opened function around region kind
    (enter_value_advance function around region opening written enabled popped) completes

theorem completes_conditional {written : ValueType} {rest : List Instruction}
    (completes : scope.Completes rest (around.state (region.push [written]))) :
    scope.Completes (.i32Const 0 :: .enter .ifThen (.value written) :: .unreachable ::
      .elseArm :: .unreachable :: .endBlock :: rest) (around.state region) := by
  have taken : (region.push [.i32]).pop scope.module.types [.i32] = some region := by
    rw [Region.pop_eq_some_iff]
    refine ⟨[.i32], Region.top_of_known region.operands [.i32] region.dead,
      Registry.all_compatible_refl _ _, ?_⟩
    simp [Region.discard, Region.push]
  have popped : Region.popAll scope.module.types (region.push [.i32])
      (Opening.ifThen.pops []) = some region := by
    rw [Opening.pops, Region.popAll, taken, Option.bind_some, Region.pop_all_singleton,
      Region.pop_nil]
  have ordinary : Opening.ifThen = .tryBlock → scope.features.enabled .exceptions = true := by
    intro same
    cases same
  apply completes_of_advance (condition_advance function around region) (List.cons_ne_nil _ _)
  apply completes_of_advance
    (enter_value_advance function around _ .ifThen written ordinary popped) (List.cons_ne_nil _ _)
  apply completes_of_advance (marker_advance function _ _) (List.cons_ne_nil _ _)
  refine (completes_else_iff function around region [] [written] .unknown _).mpr
    ⟨Region.unknown_ends_in _ _, ?_⟩
  exact completes_dead_arm function around region (by decide) _ completes

theorem completes_selection (written : ValueType)
    (enabled : scope.features.enabled .referenceTypes = true) :
    scope.Completes [.i32Const 0, .select (some written), .unreachable, .endBlock]
      ((Surroundings.body results).state (.start [written, written])) := by
  have whole : (Region.start [written, written, .i32]).Admits
      ([] ++ [written, written, .i32]) := Region.admits_operands _
  obtain ⟨rest, popped, -⟩ := Region.pop_of_admits whole
    (Registry.all_compatible_refl scope.module.types _)
  have references : scope.features.referenceTypes = true := enabled
  have selected : scope.advance
      ((Surroundings.body results).state (.start [written, written, .i32]))
      (.select (some written)) =
        some ((Surroundings.body results).state (rest.push [written])) := by
    have simple := simple_advance function (Surroundings.body results)
      (.start [written, written, .i32]) (.select written)
    rw [Simple.signature, if_pos references, Option.bind_some, Region.exchange, popped,
      Option.map_some, Option.map_some] at simple
    exact simple
  apply completes_of_advance (condition_advance function _ _) (List.cons_ne_nil _ _)
  apply completes_of_advance selected (List.cons_ne_nil _ _)
  exact completes_closing function _

/-- Every form with an annotation stands in a body that completes. -/
theorem exists_completed_around (form : AnnotatedForm) (written : ValueType)
    (enabled : ∀ feature ∈ (form.instruction written).proposals scope.module,
      scope.features.enabled feature = true) :
    ∃ before after, scope.Completes (before ++ form.instruction written :: after)
      ((Surroundings.body results).state (.start [])) := by
  cases form with
  | enter opening =>
      by_cases conditional : opening = .ifThen
      · subst conditional
        exact ⟨[.i32Const 0], _,
          completes_conditional function _ _ (completes_closing function _)⟩
      · refine ⟨[], _, completes_single_arm function _ _ conditional ?_
          (completes_closing function _)⟩
        rintro rfl
        exact enabled .exceptions List.mem_cons_self
  | tryTable =>
      have entered := try_table_value_advance function (.body results) (.start []) written
        (enabled .exceptions List.mem_cons_self)
      exact ⟨[], _, completes_opened function _ _ (by decide) entered
        (completes_closing function _)⟩
  | select =>
      have selected := completes_selection function written
        (enabled .referenceTypes List.mem_cons_self)
      have ordinary : Opening.block = .tryBlock → scope.features.enabled .exceptions = true := by
        intro same
        cases same
      -- The operands are the results of two blocks that are left by no path.
      exact ⟨[.enter .block (.value written), .unreachable, .endBlock,
          .enter .block (.value written), .unreachable, .endBlock, .i32Const 0], _,
        completes_single_arm function (.body results) (.start []) (by decide) ordinary
          (completes_single_arm function _ _ (by decide) ordinary selected)⟩
  | refNull =>
      have pushed := ref_null_advance function (.body results) (.start []) written
        (enabled .referenceTypes List.mem_cons_self)
      exact ⟨[], _, completes_of_advance pushed (List.cons_ne_nil _ _)
        (completes_closing function _)⟩

end Scope

/-! ## Accepted bodies -/

namespace Validator

/-- The validator for the module with a type registered at an index. -/
def registering (validator : Validator) (index : Nat) (type : FuncType) : Validator :=
  { validator with module.types := validator.module.types.insert index type }

theorem validate_function_ok_of_registering {validator : Validator} {number index : Nat}
    {locals : List ValueType} {body : List Instruction}
    (missing : validator.module.types.get? number = none) (type : FuncType)
    (accepted : (validator.validateFunction index locals body).verdict = .ok ()) :
    ((validator.registering number type).validateFunction index locals body).verdict = .ok () := by
  have extended : (validator.registering number type).module.Extends validator.module :=
    { Module.Extends.refl validator.module with types := Registry.extends_insert missing type }
  have performed : (validator.perform (.function index locals body)).verdict = .ok () := accepted
  exact perform_ok_of_wider extended (.refl validator.config.features) performed

end Validator

/-- A type index in an annotation of an accepted body is registered, or the body is accepted
whatever type is registered there and no reference to it is ever called. Annotations are not
looked up: every form that has one stands, with any annotation, in an accepted body of every
function, where its features are enabled. -/
theorem annotations_resolve_or_stay_generic (validator : Validator) (index : Nat)
    (locals : List ValueType) :
    (∀ body, (validator.validateFunction index locals body).verdict = .ok () →
      ∀ instruction ∈ body, ∀ number nullable, .ref number nullable ∈ instruction.annotations →
        validator.module.types.contains number = true ∨
          (∀ type, ((validator.registering number type).validateFunction index locals
            body).verdict = .ok ()) ∧
          Environment.Uncallable ⟨validator.module.types, validator.config.features⟩
            (.ref number nullable)) ∧
    ∀ type, validator.module.functionType index = .ok type →
      ∀ (form : AnnotatedForm) (written : ValueType),
        (∀ feature ∈ (form.instruction written).proposals validator.module,
          validator.config.features.enabled feature = true) →
        ∃ before after, (validator.validateFunction index locals
          (before ++ form.instruction written :: after)).verdict = .ok () := by
  constructor
  · intro body accepted instruction member number nullable annotated
    cases found : validator.module.types.get? number with
    | some type =>
        left
        rw [Registry.contains, found]
        rfl
    | none =>
        right
        constructor
        · intro type
          exact Validator.validate_function_ok_of_registering found type accepted
        · exact Check.uncallable_of_free found nullable
  · intro type found form written enabled
    have function : (Scope.ofFunction validator.module validator.config.features type
      locals).kind = .function type.results := rfl
    obtain ⟨before, after, completes⟩ :=
      Scope.exists_completed_around function form written enabled
    exact ⟨before, after,
      (validator.validate_function_ok_iff index locals _).mpr ⟨type, found, completes⟩⟩

/-- A function on references to a type that is not registered, which are selected inside a
handled region. -/
theorem handled_selection_stays_generic :
    let missing : ValueType := .ref 5 true
    let module : Module :=
      { Module.ofTypes (Registry.empty.insert 2 ⟨[missing], [missing]⟩) with functions := [2] }
    let validator : Validator := .start module ⟨.all, false, 1⟩
    let body : List Instruction :=
      [.enter .tryBlock (.value missing), .localGet 0, .refNull missing, .localGet 1,
        .select (some missing), .catchAll, .localGet 0, .endBlock, .endBlock]
    (validator.validateFunction 0 [.i32] body).verdict = .ok () ∧
      module.types.contains 5 = false ∧
      (∀ type, ((validator.registering 5 type).validateFunction 0 [.i32] body).verdict = .ok ()) ∧
      Environment.Uncallable ⟨module.types, .all⟩ missing ∧
      ∃ before after, (validator.validateFunction 0 [.i32]
        (before ++ .tryTable (.value (.ref 9 false)) [] :: after)).verdict = .ok () := by
  intro missing module validator body
  have accepted : (validator.validateFunction 0 [.i32] body).verdict = .ok () := by
    decide +kernel
  have absent : validator.module.types.contains 5 = false := by decide
  obtain ⟨generic, forms⟩ := annotations_resolve_or_stay_generic validator 0 [.i32]
  have annotated : missing ∈ (Instruction.select (some missing)).annotations := List.mem_cons_self
  have member : Instruction.select (some missing) ∈ body := by decide
  rcases generic body accepted _ member 5 true annotated with registered | ⟨registering, inert⟩
  · rw [absent] at registered
    cases registered
  · refine ⟨accepted, absent, registering, inert, ?_⟩
    apply forms _ rfl .tryTable (.ref 9 false)
    decide

/-- A null reference to a type that is not registered. -/
theorem missing_annotation_is_accepted :
    let module : Module := { Module.ofTypes (.ofList [⟨[], []⟩]) with functions := [0] }
    let null : Instruction := .refNull (.ref 7 true)
    ((Validator.start module .standard).validateFunction 0 [] [null, .drop, .endBlock]).verdict =
        .ok () ∧
      .ref 7 true ∈ null.annotations ∧ module.types.contains 7 = false := by
  decide +kernel

end WasmTyping
