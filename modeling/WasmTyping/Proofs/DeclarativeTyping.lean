import WasmTyping.Proofs.FlowTyping
import WasmTyping.Proofs.RegionExecution

/-!
# The flat checker decides declarative typing

The checker reads the instructions of a body one by one. On the instructions of a
structured sequence it follows the flow of each region, whatever comes after the
sequence, and so accepts a function body exactly when the judgement types its
sequence from the empty stack to results of the function.
-/

set_option autoImplicit false

namespace WasmTyping

/-! ## Immediates -/

namespace Module

theorem lookup_to_option {α : Type} (space : IndexSpace) (entry : Option α) :
    (lookup space entry).toOption = entry := by
  cases entry <;> rfl

theorem function_type_to_option (module : Module) (index : Nat) :
    (module.functionType index).toOption = module.functions[index]?.bind module.types.get? := by
  have chained : module.functionType index =
      (lookup .function module.functions[index]?).bind module.typeAt := rfl
  rw [chained]
  cases module.functions[index]? with
  | none => rfl
  | some type => exact lookup_to_option .type (module.types.get? type)

end Module

namespace Scope

variable (scope : Scope) (env : Environment) (state : State)

theorem arity_refusal_accepted (name : String) (signature : FuncType) :
    (Action.runAll (scope.arityRefusal name signature)).accepted env state =
      if signature.isSingleValued || scope.features.multiValue then some state else none := by
  have refusal : scope.arityRefusal name signature =
      if signature.isSingleValued then [] else scope.requiring .multiValue name [] := rfl
  rw [refusal]
  cases signature.isSingleValued with
  | true => rfl
  | false => exact scope.requiring_accepted env state .multiValue name []

theorem enter_actions_accepted (opening : Opening) (type : BlockType) :
    (Action.runAll (scope.enterActions opening type)).accepted env state =
      (scope.blockType? type).bind fun signature =>
        (Operation.enter opening signature.params signature.results).run.accepted env state := by
  cases type with
  | empty => exact Action.run_all_perform_accepted _ env state
  | value result => exact Action.run_all_perform_accepted _ env state
  | index index =>
      have resolved : ∀ {signature refusals},
          scope.blockSignature opening.name (.index index) = (signature, refusals) →
          (Action.runAll (scope.enterActions opening (.index index))).accepted env state =
            ((Action.runAll refusals).accepted env state).bind
              ((Operation.enter opening signature.params signature.results).run.accepted env) := by
        intro signature refusals found
        unfold enterActions
        rw [found]
        show (Action.runAll (refusals ++ [.perform _])).accepted env state = _
        rw [Action.run_all_append_accepted]
        congr 1
        funext next
        exact Action.run_all_perform_accepted _ env next
      cases found : scope.module.types.get? index with
      | none =>
          have unknown : scope.blockSignature opening.name (.index index) =
              (.empty, [.refuse (.invalidIndex .type index)]) := by
            simp only [blockSignature, Module.blockSignature, Module.typeAt, Module.lookup, found]
          rw [resolved unknown, Action.run_all_refuse_accepted, blockType?, found]
          rfl
      | some signature =>
          have known : scope.blockSignature opening.name (.index index) =
              (signature, scope.arityRefusal opening.name signature) := by
            simp only [blockSignature, Module.blockSignature, Module.typeAt, Module.lookup, found]
          rw [resolved known, arity_refusal_accepted, blockType?, found, Option.filter_some]
          split <;> rfl

end Scope

/-! ## Plain instructions -/

namespace Effect

variable (env : Environment) (around : Surroundings) (region : Region)

theorem exchanging_accepted (construct : String) (params results : List ValueType) :
    (exchanging construct params results).check.accepted env (around.state region) =
      (region.exchange env.types params results).map around.state := by
  have single := Check.pop_signatures_accepted env around region [params] construct
  rw [Region.pop_all_singleton] at single
  exact Check.popped_push_accepted single results

theorem producing_accepted (construct : String) (type : ValueType) :
    (producing construct type).check.accepted env (around.state region) =
      (region.exchange env.types [] [type]).map around.state := by
  refine Check.popped_push_accepted ?_ [type]
  rw [region.pop_nil]
  rfl

theorem skip_accepted (construct : String) :
    (skip construct).check.accepted env (around.state region) =
      (region.exchange env.types [] []).map around.state := by
  refine Check.popped_push_accepted ?_ []
  rw [region.pop_nil]
  rfl

end Effect

namespace Scope

section Runs

variable {scope : Scope} (around : Surroundings) (region : Region)

theorem plain_accepted {instruction : Plain} {signature : FuncType}
    (exchanges : instruction.effect.check.accepted scope.environment (around.state region) =
      (region.exchange scope.module.types signature.params signature.results).map around.state) :
    (Action.runAll [.perform (.plain instruction)]).accepted scope.environment
      (around.state region) =
        ((some signature).bind fun signature =>
          region.exchange scope.module.types signature.params signature.results).map
            around.state := by
  rw [Action.run_all_perform_accepted]
  exact exchanges

/-- An instruction with an immediate has a signature where the immediate names
something. -/
theorem resolved_plain_accepted {α : Type} (space : IndexSpace) (entry : Option α) (index : Nat)
    {instruction : α → Plain} {signature : α → FuncType}
    (exchanges : ∀ value,
      (instruction value).effect.check.accepted scope.environment (around.state region) =
        (region.exchange scope.module.types (signature value).params
          (signature value).results).map around.state) :
    (Action.runAll (resolving (Module.lookup space entry) index fun value =>
      [.perform (.plain (instruction value))])).accepted scope.environment
        (around.state region) =
          ((entry.map signature).bind fun signature =>
            region.exchange scope.module.types signature.params signature.results).map
              around.state := by
  rw [resolving_accepted, Module.lookup_to_option]
  cases entry with
  | none => rfl
  | some value => exact plain_accepted around region (exchanges value)

/-- A simple instruction exchanges operands by its signature, in a body of any kind. -/
theorem simple_accepted (depth : Nat) (instruction : Simple) :
    (Action.runAll (scope.instructionActions depth instruction.instruction)).accepted
      scope.environment (around.state region) =
        ((instruction.signature scope).bind fun signature =>
          region.exchange scope.module.types signature.params signature.results).map
            around.state := by
  have producing := Effect.producing_accepted scope.environment around region
  have exchanging := Effect.exchanging_accepted scope.environment around region
  cases instruction with
  | nop => exact plain_accepted around region (Effect.skip_accepted _ around region _)
  | i32Const bits => exact plain_accepted around region (producing _ _)
  | i64Const bits => exact plain_accepted around region (producing _ _)
  | f32Const bits => exact plain_accepted around region (producing _ _)
  | f64Const bits => exact plain_accepted around region (producing _ _)
  | v128Const bits =>
      have needed := scope.requiring_accepted scope.environment (around.state region) .simd
        "v128.const" [.perform (.plain (.constant .v128))]
      refine needed.trans ?_
      rw [Simple.signature, Features.enabled]
      cases scope.features.simd with
      | false => rfl
      | true =>
          rw [if_pos rfl, if_pos rfl]
          exact plain_accepted around region (producing _ _)
  | localGet index =>
      exact resolved_plain_accepted around region _ _ _ fun _ => producing _ _
  | localSet index =>
      exact resolved_plain_accepted around region _ _ _ fun _ => exchanging _ _ _
  | localTee index =>
      exact resolved_plain_accepted around region _ _ _ fun _ => exchanging _ _ _
  | globalGet index =>
      exact resolved_plain_accepted around region _ _ _ fun _ => producing _ _
  | call callee =>
      have named := resolving_accepted scope.environment (around.state region)
        (scope.module.functionType callee) callee fun type =>
          [.perform (.plain (.call type.params type.results))]
      refine named.trans ?_
      rw [Module.function_type_to_option, Simple.signature]
      cases scope.module.functions[callee]?.bind scope.module.types.get? with
      | none => rfl
      | some type => exact plain_accepted around region (exchanging _ _ _)
  | select type =>
      have needed := scope.requiring_accepted scope.environment (around.state region)
        .referenceTypes "select" [.perform (.select (some type))]
      refine needed.trans ?_
      rw [Simple.signature, Features.enabled]
      cases scope.features.referenceTypes with
      | false => rfl
      | true =>
          rw [if_pos rfl, if_pos rfl, Action.run_all_perform_accepted]
          exact Check.select_accepted scope.environment around region type
  | numeric kind op =>
      have effect : (Action.runAll [.perform (.plain (.numeric op))]).accepted scope.environment
          (around.state region) =
            (region.exchange scope.module.types op.paramTypes op.resultTypes).map
              around.state := by
        rw [Action.run_all_perform_accepted]
        exact exchanging op.name op.paramTypes op.resultTypes
      show (Action.runAll (scope.requiringSimdFor op [.perform (.plain (.numeric op))])).accepted
        scope.environment (around.state region) = _
      unfold requiringSimdFor
      rw [Simple.signature]
      cases op.isSimd with
      | false => simpa using effect
      | true =>
          rw [if_pos rfl, requiring_accepted, effect, Features.enabled]
          cases scope.features.simd <;> simp

/-! ## Runs through structured sequences -/

theorem completes_cons_iff {α : Type} {state : State} {instruction : Instruction}
    {rest : List Instruction} {stepped : Option α} {lead : α → State}
    (advanced : scope.advance state instruction = stepped.map lead)
    (opened : ∀ value, (lead value).labels ≠ []) :
    scope.Completes (instruction :: rest) state ↔
      ∃ value, stepped = some value ∧ scope.Completes rest (lead value) := by
  rw [Completes, advanced]
  cases stepped with
  | none => simp
  | some value => simp [opened value]

theorem completes_test_iff {state next : State} {instruction : Instruction}
    {rest : List Instruction} {holds : Prop} [Decidable holds]
    (advanced : scope.advance state instruction = if holds then some next else none)
    (opened : next.labels ≠ []) :
    scope.Completes (instruction :: rest) state ↔ holds ∧ scope.Completes rest next := by
  rw [Completes, advanced]
  by_cases passed : holds
  · simp [passed, opened]
  · simp [passed]

/-- The checker goes through a sequence as its flow says, in all surroundings and
whatever instructions come after it. -/
def Follows (scope : Scope) (sequence : Sequence) : Prop :=
  ∀ (around : Surroundings) (region : Region) (rest : List Instruction), around.Rooted →
    (scope.Completes (sequence.flatten ++ rest) (around.state region) ↔
      ∃ next, sequence.flow scope around.branchTypes region = some next ∧
        scope.Completes rest (around.state next))

theorem follows_of_advance {sequence : Sequence} {instruction : Instruction}
    (single : sequence.flatten = [instruction])
    (advanced : ∀ (around : Surroundings) (region : Region), around.Rooted →
      scope.advance (around.state region) instruction =
        (sequence.flow scope around.branchTypes region).map around.state) :
    scope.Follows sequence := by
  intro around region rest rooted
  rw [single]
  exact completes_cons_iff (advanced around region rooted) fun _ => List.cons_ne_nil _ _

theorem follows_append {first second : Sequence} (follows : scope.Follows first)
    (followsOn : scope.Follows second) : scope.Follows (.append first second) := by
  intro around region rest rooted
  rw [Sequence.flatten, List.append_assoc, follows around region _ rooted, Sequence.flow,
    exists_bind_iff]
  simp only [followsOn around _ rest rooted]

/-- An arm runs in the region it was entered for; what ends it tests what is
left. -/
theorem arm_completes_iff {arm : Sequence} (follows : scope.Follows arm)
    (rooted : around.Rooted) (kind : LabelKind) (signature : FuncType)
    (carried : List ValueType)
    (branch : (around.nest region kind signature.params signature.results).branchTypes =
      carried :: around.branchTypes)
    {ending rest : List Instruction} {holds : Region → Prop} {after : State}
    (ends : ∀ left, scope.Completes ending
      ((around.nest region kind signature.params signature.results).state left) ↔
        holds left ∧ scope.Completes rest after) :
    scope.Completes (arm.flatten ++ ending)
      ((around.nest region kind signature.params signature.results).state
        (.start signature.params)) ↔
      (∃ left, arm.flow scope (carried :: around.branchTypes) (.start signature.params) =
        some left ∧ holds left) ∧ scope.Completes rest after := by
  rw [follows _ _ ending (around.nest_rooted region rooted kind _ _), branch]
  simp only [ends, ← and_assoc, exists_and_right]

end Runs

/-! ## Instructions of a function -/

section Function

variable {scope : Scope} {results : List ValueType} (function : scope.kind = .function results)
  (around : Surroundings) (region : Region)

include function

/-- An instruction that is one step of the checker. -/
theorem performed_advance (instruction : Instruction) (operation : Operation)
    (performs : ∀ depth, scope.instructionActions depth instruction = [.perform operation])
    {stepped : Option Region}
    (accepted : operation.run.accepted scope.environment (around.state region) =
      stepped.map around.state) :
    scope.advance (around.state region) instruction = stepped.map around.state := by
  rw [advance_eq function, performs, Action.run_all_perform_accepted]
  exact accepted

theorem simple_advance (instruction : Simple) :
    scope.advance (around.state region) instruction.instruction =
      ((instruction.signature scope).bind fun signature =>
        region.exchange scope.module.types signature.params signature.results).map
          around.state := by
  rw [advance_eq function]
  exact simple_accepted around region _ instruction

theorem enter_advance (opening : Opening) (type : BlockType)
    (enabled : opening = .tryBlock → scope.features.enabled .exceptions = true) :
    scope.advance (around.state region) (.enter opening type) =
      ((scope.blockType? type).bind fun signature =>
        (Region.popAll scope.module.types region (opening.pops signature.params)).map
          fun inner => (signature, inner)).map fun entered =>
            (around.nest entered.2 opening.label entered.1.params entered.1.results).state
              (.start entered.1.params) := by
  have entered : scope.advance (around.state region) (.enter opening type) =
      (Action.runAll (scope.enterActions opening type)).accepted scope.environment
        (around.state region) := by
    rw [advance_eq function, instructionActions]
    split
    · next exceptional => rw [requiring_accepted, if_pos (enabled exceptional)]
    · rfl
  rw [entered, enter_actions_accepted]
  cases scope.blockType? type with
  | none => rfl
  | some signature =>
      rw [Option.bind_some, Option.bind_some, Check.enter_accepted, Option.map_map]
      rfl

theorem completes_enter_iff (opening : Opening) (type : BlockType) (plain : opening ≠ .tryBlock)
    {inside rest : List Instruction} (fits : FuncType → Prop)
    (passes : ∀ signature inner, scope.Completes inside
      ((around.nest inner opening.label signature.params signature.results).state
        (.start signature.params)) ↔
          fits signature ∧ scope.Completes rest (around.state (inner.push signature.results))) :
    scope.Completes (.enter opening type :: inside) (around.state region) ↔
      ∃ signature, scope.blockType? type = some signature ∧ fits signature ∧
        ∃ inner, Region.popAll scope.module.types region (opening.pops signature.params) =
          some inner ∧ scope.Completes rest (around.state (inner.push signature.results)) := by
  have entering := enter_advance function around region opening type fun same => absurd same plain
  rw [completes_cons_iff entering fun _ => List.cons_ne_nil _ _]
  constructor
  · rintro ⟨⟨signature, inner⟩, entered, completes⟩
    obtain ⟨_, found, mapped⟩ := Option.bind_eq_some_iff.mp entered
    obtain ⟨_, popped, ⟨⟩⟩ := Option.map_eq_some_iff.mp mapped
    obtain ⟨fit, after⟩ := (passes signature inner).mp completes
    exact ⟨signature, found, fit, inner, popped, after⟩
  · rintro ⟨signature, found, fit, inner, popped, after⟩
    refine ⟨(signature, inner), ?_, (passes signature inner).mpr ⟨fit, after⟩⟩
    rw [found, Option.bind_some, popped, Option.map_some]

section Arms

variable (kind : LabelKind) (params returned : List ValueType) (left : Region)
  (rest : List Instruction)

theorem end_advance :
    scope.advance ((around.nest region kind params returned).state left) .endBlock =
      Check.endRegion.accepted scope.environment
        ((around.nest region kind params returned).state left) := by
  have deep : ((around.nest region kind params returned).state left).labels.length ≠ 1 := by
    simp [Surroundings.state, Surroundings.nest]
  rw [advance_eq function, instructionActions, endActions, if_neg deep,
    Action.run_all_perform_accepted]
  rfl

theorem completes_end_iff (plain : kind ≠ .ifThen) :
    scope.Completes (.endBlock :: rest)
      ((around.nest region kind params returned).state left) ↔
        left.endsIn scope.module.types returned = true ∧
          scope.Completes rest (around.state (region.push returned)) := by
  have ended := end_advance function around region kind params returned left
  rw [Check.end_region_accepted _ _ _ _ _ _ _ plain] at ended
  exact completes_test_iff ended (List.cons_ne_nil _ _)

theorem completes_end_if_iff :
    scope.Completes (.endBlock :: rest)
      ((around.nest region .ifThen params returned).state left) ↔
        (left.endsIn scope.module.types returned = true ∧
          (Region.start params).endsIn scope.module.types returned = true) ∧
          scope.Completes rest (around.state (region.push returned)) := by
  have ended := end_advance function around region .ifThen params returned left
  rw [Check.end_if_accepted] at ended
  exact completes_test_iff ended (List.cons_ne_nil _ _)

theorem completes_else_iff :
    scope.Completes (.elseArm :: rest)
      ((around.nest region .ifThen params returned).state left) ↔
        left.endsIn scope.module.types returned = true ∧
          scope.Completes rest
            ((around.nest region .elseArm params returned).state (.start params)) := by
  have next : scope.advance ((around.nest region .ifThen params returned).state left) .elseArm =
      Check.elseArm.accepted scope.environment
        ((around.nest region .ifThen params returned).state left) := by
    rw [advance_eq function, instructionActions, Action.run_all_perform_accepted]
    rfl
  rw [Check.else_arm_accepted] at next
  exact completes_test_iff next (List.cons_ne_nil _ _)

end Arms

/-! ## Structured sequences -/

/-- What a region with one arm leads to. -/
theorem completes_single_arm_iff {body : Sequence} (follows : scope.Follows body)
    (rooted : around.Rooted) (opening : Opening) (type : BlockType)
    (plain : opening ≠ .tryBlock) (ended : opening.label ≠ .ifThen)
    (single : ∀ params, opening.pops params = [params]) (carried : FuncType → List ValueType)
    (branch : ∀ (inner : Region) (signature : FuncType),
      (around.nest inner opening.label signature.params signature.results).branchTypes =
        carried signature :: around.branchTypes)
    (rest : List Instruction) :
    scope.Completes (.enter opening type :: (body.flatten ++ .endBlock :: rest))
      (around.state region) ↔
      ∃ next, ((scope.blockType? type).bind fun signature =>
        region.around scope.module.types signature
          [body.flow scope (carried signature :: around.branchTypes)
            (.start signature.params)]) = some next ∧
              scope.Completes rest (around.state next) := by
  have passes := fun (signature : FuncType) (inner : Region) =>
    arm_completes_iff around inner follows rooted opening.label signature (carried signature)
      (branch inner signature) fun left =>
        completes_end_iff function around inner opening.label signature.params
          signature.results left rest ended
  rw [completes_enter_iff function around region opening type plain _ passes,
    Region.around_bind_iff]
  simp only [single, Region.pop_all_singleton, List.forall_mem_singleton]

theorem follows_block {body : Sequence} (type : BlockType) (follows : scope.Follows body) :
    scope.Follows (.block type body) := by
  intro around region rest rooted
  have flattened : (Sequence.block type body).flatten ++ rest =
      .enter .block type :: (body.flatten ++ .endBlock :: rest) := by
    simp [Sequence.flatten]
  rw [flattened, Sequence.flow]
  exact completes_single_arm_iff function around region follows rooted .block type (by decide)
    (by decide) (fun _ => rfl) FuncType.results (fun _ _ => rfl) rest

theorem follows_loop {body : Sequence} (type : BlockType) (follows : scope.Follows body) :
    scope.Follows (.loop type body) := by
  intro around region rest rooted
  have flattened : (Sequence.loop type body).flatten ++ rest =
      .enter .loop type :: (body.flatten ++ .endBlock :: rest) := by
    simp [Sequence.flatten]
  rw [flattened, Sequence.flow]
  exact completes_single_arm_iff function around region follows rooted .loop type (by decide)
    (by decide) (fun _ => rfl) FuncType.params (fun _ _ => rfl) rest

/-- What an `if` leads to, once its arms are known to fit. -/
theorem completes_if_iff (type : BlockType) {inside rest : List Instruction}
    (arms : FuncType → List (Option Region))
    (passes : ∀ signature inner, scope.Completes inside
      ((around.nest inner .ifThen signature.params signature.results).state
        (.start signature.params)) ↔
      (∀ arm ∈ arms signature, ∃ left, arm = some left ∧
        left.endsIn scope.module.types signature.results = true) ∧
          scope.Completes rest (around.state (inner.push signature.results))) :
    scope.Completes (.enter .ifThen type :: inside) (around.state region) ↔
      ∃ next, ((region.pop scope.module.types [.i32]).bind fun taken =>
        (scope.blockType? type).bind fun signature =>
          taken.around scope.module.types signature (arms signature)) = some next ∧
            scope.Completes rest (around.state next) := by
  rw [completes_enter_iff function around region .ifThen type (by decide) _ passes,
    exists_bind_iff]
  simp only [Region.around_bind_iff]
  simp only [Opening.pops, Region.popAll, Option.bind_eq_some_iff, Option.some.injEq]
  constructor
  · rintro ⟨signature, found, fit, _, ⟨taken, popped, inner, entered, rfl⟩, after⟩
    exact ⟨taken, popped, signature, found, fit, inner, entered, after⟩
  · rintro ⟨taken, popped, signature, found, fit, inner, entered, after⟩
    exact ⟨signature, found, fit, inner, ⟨taken, popped, inner, entered, rfl⟩, after⟩

theorem follows_if_then {arm : Sequence} (type : BlockType) (follows : scope.Follows arm) :
    scope.Follows (.ifThen type arm) := by
  intro around region rest rooted
  have flattened : (Sequence.ifThen type arm).flatten ++ rest =
      .enter .ifThen type :: (arm.flatten ++ .endBlock :: rest) := by
    simp [Sequence.flatten]
  rw [flattened, Sequence.flow]
  apply completes_if_iff function
  intro signature inner
  rw [arm_completes_iff around inner follows rooted .ifThen signature signature.results rfl
    fun left => completes_end_if_iff function around inner signature.params signature.results
      left rest]
  simp only [List.mem_cons, List.not_mem_nil, or_false, forall_eq_or_imp, forall_eq,
    Option.some.injEq, exists_eq_left', ← and_assoc, exists_and_right]

theorem follows_if_else {arm other : Sequence} (type : BlockType) (follows : scope.Follows arm)
    (followsOther : scope.Follows other) : scope.Follows (.ifElse type arm other) := by
  intro around region rest rooted
  have flattened : (Sequence.ifElse type arm other).flatten ++ rest =
      .enter .ifThen type ::
        (arm.flatten ++ .elseArm :: (other.flatten ++ .endBlock :: rest)) := by
    simp [Sequence.flatten]
  rw [flattened, Sequence.flow]
  apply completes_if_iff function
  intro signature inner
  have second := arm_completes_iff around inner followsOther rooted .elseArm signature
    signature.results rfl fun left => completes_end_iff function around inner .elseArm
      signature.params signature.results left rest (by decide)
  rw [arm_completes_iff around inner follows rooted .ifThen signature signature.results rfl
    fun left => completes_else_iff function around inner signature.params signature.results
      left _, second]
  simp only [List.mem_cons, List.not_mem_nil, or_false, forall_eq_or_imp, forall_eq, and_assoc]

theorem br_table_advance (targets : List Nat) (fallback : Nat) :
    scope.advance (around.state region) (.brTable targets fallback) =
      ((Sequence.brTable targets fallback).flow scope around.branchTypes region).map
        around.state := by
  obtain ⟨target, others, shape⟩ := List.exists_cons_of_ne_nil
    (List.append_ne_nil_of_right_ne_nil targets (List.cons_ne_nil fallback []))
  have steps : Action.runAll (scope.instructionActions (around.state region).labels.length
      (.brTable targets fallback)) = Check.all (Check.beginBrTable ::
        (target :: others).map Check.brTableTarget ++ [Check.endBrTable]) := by
    rw [instructionActions, shape, Action.runAll, List.map_append, List.map_append, List.map_map]
    rfl
  rw [advance_eq function, steps, Sequence.flow, shape]
  exact Check.br_table_accepted scope.environment around region target others

/-- The checker follows every structured sequence. -/
theorem follows (sequence : Sequence) : scope.Follows sequence := by
  induction sequence with
  | empty =>
      intro around region rest _
      simp [Sequence.flatten, Sequence.flow]
  | append first second firstIh secondIh => exact follows_append firstIh secondIh
  | simple instruction =>
      apply follows_of_advance rfl
      intro around region _
      exact simple_advance function around region instruction
  | unreachable =>
      apply follows_of_advance rfl
      intro around region _
      exact performed_advance function around region _ .unreachable (fun _ => rfl)
        (Check.set_unreachable_accepted scope.environment around region)
  | drop =>
      apply follows_of_advance rfl
      intro around region _
      exact performed_advance function around region _ .drop (fun _ => rfl)
        (Check.drop_accepted scope.environment around region)
  | br depth =>
      apply follows_of_advance rfl
      intro around region _
      exact performed_advance function around region _ (.br depth) (fun _ => rfl)
        (Check.br_accepted scope.environment around region depth)
  | brIf depth =>
      apply follows_of_advance rfl
      intro around region _
      exact performed_advance function around region _ (.brIf depth) (fun _ => rfl)
        (Check.br_if_accepted scope.environment around region depth)
  | brTable targets fallback =>
      apply follows_of_advance rfl
      intro around region _
      exact br_table_advance function around region targets fallback
  | returnValues =>
      apply follows_of_advance rfl
      intro around region rooted
      exact performed_advance function around region _ .returnValues (fun _ => rfl)
        (Check.return_values_accepted scope.environment around region rooted)
  | block type body ih => exact follows_block function type ih
  | loop type body ih => exact follows_loop function type ih
  | ifThen type arm ih => exact follows_if_then function type ih
  | ifElse type arm other ih otherIh => exact follows_if_else function type ih otherIh

end Function

end Scope

/-! ## Function bodies -/

namespace Surroundings

/-- The surroundings of the outermost region of a function. -/
def body (results : List ValueType) : Surroundings := ⟨[], .function, [], results, []⟩

theorem body_rooted (results : List ValueType) : (body results).Rooted := by
  intro dead label last
  cases last
  rfl

end Surroundings

theorem Check.end_function_accepted (env : Environment) (results : List ValueType)
    (region : Region) :
    Operation.endFunction.run.accepted env ((Surroundings.body results).state region) =
      if region.endsIn env.types results then some ⟨results, [], none⟩ else none :=
  close_region_accepted env (Surroundings.body results) region rfl _ _

namespace Scope

variable {scope : Scope} {results : List ValueType} (function : scope.kind = .function results)

include function

theorem opening_accepted :
    scope.opening.run.accepted scope.environment .empty =
      some ((Surroundings.body results).state (.start [])) := by
  unfold opening
  rw [function]
  rfl

theorem completes_body_end_iff (region : Region) :
    scope.Completes [.endBlock] ((Surroundings.body results).state region) ↔
      region.endsIn scope.module.types results = true := by
  have ended : scope.advance ((Surroundings.body results).state region) .endBlock =
      if region.endsIn scope.module.types results then some ⟨results, [], none⟩ else none := by
    have last : scope.instructionActions
        ((Surroundings.body results).state region).labels.length .endBlock =
          [.perform .endFunction] := by
      simp only [instructionActions, endActions, function]
      rfl
    rw [advance_eq function, last, Action.run_all_perform_accepted]
    exact Check.end_function_accepted scope.environment results region
  rw [Completes, ended]
  by_cases ends : region.endsIn scope.module.types results = true
  · simp [ends]
  · simp [ends]

theorem validate_sequence_ok_iff (config : Config) (count : Nat) (sequence : Sequence) :
    (scope.validate config count (sequence.flatten ++ [.endBlock])).verdict = .ok () ↔
      ∃ left, Typed scope [results] sequence [] left ∧
        scope.module.types.allCompatible left results = true := by
  rw [validate_verdict_ok_iff, opening_accepted function]
  simp only [Option.some.injEq, exists_eq_left']
  rw [follows function sequence _ _ _ (Surroundings.body_rooted results)]
  simp only [completes_body_end_iff function]
  constructor
  · intro flows
    exact Sequence.typed_arm (fun flowed admits => Sequence.typed_of_flow flowed admits) flows
  · rintro ⟨left, typed, ends⟩
    exact Sequence.arm_of_typed (fun admits => Sequence.flow_of_typed typed admits) ends

end Scope

/-- A function body is accepted exactly when its structured sequence is typed: with
the results of the function as the only branch types, it takes the empty stack to
operands that fit the results. Neither the settings nor what was reported before
make a difference. -/
theorem validation_decides_typing (validator : Validator) (index : Nat)
    (locals : List ValueType) (sequence : Sequence) :
    (validator.validateFunction index locals (sequence.flatten ++ [.endBlock])).verdict =
      .ok () ↔
    ∃ type, validator.module.functionType index = .ok type ∧
      ∃ left,
        Typed ⟨validator.module, validator.config.features, type.params ++ locals,
          .function type.results⟩ [type.results] sequence [] left ∧
        validator.module.types.allCompatible left type.results = true := by
  unfold Validator.validateFunction
  cases found : validator.module.functionType index with
  | error space => simp
  | ok type =>
      simp only [Except.ok.injEq, exists_eq_left']
      exact Scope.validate_sequence_ok_iff rfl _ _ sequence

end WasmTyping
