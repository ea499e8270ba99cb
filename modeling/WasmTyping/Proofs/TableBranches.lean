import WasmTyping.Proofs.FlowTyping
import WasmTyping.Proofs.RegionExecution

/-!
# Branches through a table

A `br_table` keeps what its first target carries and compares each later target with
that alone; a depth without a label neither sets nor meets this standard. What comes out
depends on no order: a table is accepted exactly if its selector is there, each target
could be branched to by itself, and all targets carry alike values. The state it leaves
depends on no target at all, whether or not it is accepted.
-/

set_option autoImplicit false

namespace WasmTyping

/-- What branches to the listed labels carry. A depth without a label adds nothing. -/
def State.carried (state : State) (targets : List Nat) : List (List ValueType) :=
  targets.filterMap fun target => state.labels[target]?.map Label.branchTypes

theorem State.carried_cons (state : State) (target : Nat) (rest : List Nat) :
    state.carried (target :: rest) =
      (state.labels[target]?.map Label.branchTypes).toList ++ state.carried rest := by
  unfold carried
  rw [List.filterMap_cons]
  cases state.labels[target]? <;> rfl

/-- Only which labels are listed counts. -/
theorem State.mem_carried_congr {targets others : List Nat} (state : State)
    (same : ∀ target, target ∈ others ↔ target ∈ targets) (types : List ValueType) :
    types ∈ state.carried others ↔ types ∈ state.carried targets := by
  simp only [carried, List.mem_filterMap, same]

/-- Targets that agree with a common one agree with each other. -/
theorem agree_of_common {features : Features} {common first next : List ValueType}
    (left : tableTargetsAgree features common first = true)
    (right : tableTargetsAgree features common next = true) :
    tableTargetsAgree features first next = true := by
  rw [table_targets_agree_iff] at left right ⊢
  split
  · simp_all
  · simp_all

/-- To agree with the first of some targets is to agree with each other. -/
theorem agree_with_head_iff (features : Features) (carried : List (List ValueType)) :
    (∀ first ∈ carried.head?, ∀ next ∈ carried, tableTargetsAgree features first next = true) ↔
      ∀ first ∈ carried, ∀ next ∈ carried, tableTargetsAgree features first next = true := by
  constructor
  · intro agree first member next other
    cases carried with
    | nil => cases member
    | cons head rest =>
        have common := agree head rfl
        exact agree_of_common (common first member) (common next other)
  · intro agree first member
    exact agree first (List.mem_of_mem_head? member)

theorem check_table_types_ok_iff (env : Environment) (state : State) (types : List ValueType) :
    checkTableTypes env state types = .ok () ↔
      ∀ first ∈ state.tableTypes, tableTargetsAgree env.features first types = true := by
  unfold checkTableTypes
  cases state.tableTypes with
  | none => simp
  | some first =>
      dsimp only
      split <;> simp_all

namespace Check

variable {env : Environment} {state : State}

/-- A branch passes if its depth names a label and the operands are what it carries. -/
theorem br_ok_iff (depth : Nat) :
    (br depth env state).result = .ok () ↔
      ∃ label, state.labels[depth]? = some label ∧
        signatureVerdict env state label.branchTypes = .ok () := by
  cases found : state.labels[depth]? with
  | none =>
      obtain ⟨fault, events, failed⟩ := resolve_bind_of_none found
      rw [br, failed]
      simp
  | some label =>
      rw [br_result found]
      simp

/-! ## One target -/

/-- The first target that has a label is kept. -/
theorem br_table_target_state (target : Nat) :
    (brTableTarget target env state).state =
      { state with
        tableTypes := state.tableTypes.or (state.labels[target]?.map Label.branchTypes) } := by
  rw [brTableTarget]
  cases found : state.labels[target]? with
  | none =>
      obtain ⟨fault, events, failed⟩ := resolve_bind_of_none found
      rw [failed, Option.map_none, Option.or_none]
  | some label =>
      rw [resolve_bind_of_some found]
      simp only [all_cons, also_state, check_signature_state, ask_state, modify_apply,
        all_nil_apply]
      cases state.tableTypes <;> rfl

/-- A target passes if a branch to it would, and if it agrees with the one that is kept. -/
theorem br_table_target_ok_iff (kept : Option (List ValueType)) (target : Nat) :
    (brTableTarget target env { state with tableTypes := kept }).result = .ok () ↔
      (br target env state).result = .ok () ∧
        ∀ first ∈ kept, ∀ next ∈ state.labels[target]?.map Label.branchTypes,
          tableTargetsAgree env.features first next = true := by
  rw [brTableTarget, br_ok_iff]
  cases found : state.labels[target]? with
  | none =>
      obtain ⟨fault, events, failed⟩ := @resolve_bind_of_none Unit env
        { state with tableTypes := kept } target _ found
      rw [failed]
      simp
  | some label =>
      rw [@resolve_bind_of_some Unit env { state with tableTypes := kept } label target _ found]
      simp only [all_cons, also_result, check_signature_result, check_signature_state,
        signature_verdict_keeping, Verdict.and_eq_ok_iff, ask_result_ok_iff,
        check_table_types_ok_iff]
      simp

/-! ## All targets -/

theorem br_table_targets_state (targets : List Nat) :
    (all (targets.map brTableTarget) env state).state =
      { state with tableTypes := state.tableTypes.or (state.carried targets).head? } := by
  induction targets generalizing state with
  | nil => simp [State.carried]
  | cons target rest ih =>
      have first : (state.carried (target :: rest)).head? =
          (state.labels[target]?.map Label.branchTypes).or (state.carried rest).head? := by
        rw [State.carried_cons, List.head?_append, Option.head?_toList]
      rw [List.map_cons, all_cons, also_state, ih, br_table_target_state, first,
        ← Option.or_assoc]
      rfl

/-- The targets pass if branches to them would, and if they agree with the one that is kept;
with none kept, this is the first of them. -/
theorem br_table_targets_ok_iff (targets : List Nat) (kept : Option (List ValueType)) :
    (all (targets.map brTableTarget) env { state with tableTypes := kept }).result = .ok () ↔
      (∀ target ∈ targets, (br target env state).result = .ok ()) ∧
        ∀ first ∈ kept.or (state.carried targets).head?, ∀ next ∈ state.carried targets,
          tableTargetsAgree env.features first next = true := by
  induction targets generalizing kept with
  | nil => simp [State.carried]
  | cons target rest ih =>
      have labels : ({ state with tableTypes := kept } : State).labels = state.labels := rfl
      rw [List.map_cons, all_cons, also_result, Verdict.and_eq_ok_iff,
        br_table_target_ok_iff, br_table_target_state, labels, ih, State.carried_cons,
        List.forall_mem_cons]
      cases found : state.labels[target]? with
      | none =>
          have unnamed : ¬ (br target env state).result = .ok () := by
            rw [br_ok_iff, found]
            simp
          simp [unnamed]
      | some label =>
          cases kept with
          | none => simp [table_targets_agree_self, and_assoc]
          | some first => simpa using and_and_and_comm

/-! ## The whole table -/

/-- A table with the given targets, the default among them. -/
def brTable (targets : List Nat) : Check Unit :=
  beginBrTable.also ((all (targets.map brTableTarget)).also endBrTable)

theorem begin_br_table_state :
    (beginBrTable env state).state = { state.remove 1 with tableTypes := none } := by
  rw [beginBrTable, also_state, modify_apply, pop_signature_state]
  obtain ⟨operands, labels, kept⟩ := state
  cases labels <;> rfl

theorem begin_br_table_result (opened : state.labels ≠ []) :
    (beginBrTable env state).result = (popSignature [.i32] "br_table" env state).result := by
  have cleared : ({ state with tableTypes := none } : State).labels ≠ [] := opened
  rw [beginBrTable, also_result, modify_apply, Verdict.ok_and, pop_signature_result cleared,
    pop_signature_result opened, signature_verdict_keeping]

/-- Whatever its targets, a table leaves the region unreachable and cut back to its limit. -/
theorem br_table_state {label : Label} {outer : List Label}
    (opened : state.labels = label :: outer) (targets : List Nat) :
    (brTable targets env state).state =
      ⟨state.operands.take label.limit, { label with unreachable := true } :: outer, none⟩ := by
  have cleared : (brTable targets env state).state =
      { (state.remove 1).markUnreachable with tableTypes := none } := by
    rw [brTable, also_state, also_state, begin_br_table_state, br_table_targets_state,
      endBrTable, also_state, modify_apply, set_unreachable_state, State.markUnreachable,
      State.markUnreachable]
    simp only [State.remove_labels, opened]
  rw [cleared, State.mark_unreachable_remove, State.markUnreachable, opened]

/-- A table is accepted if its selector is there, if branches to its targets would be, and if
these carry alike values. -/
theorem br_table_ok_iff (opened : state.labels ≠ []) (targets : List Nat) :
    (brTable targets env state).result = .ok () ↔
      (popSignature [.i32] "br_table" env state).result = .ok () ∧
        (∀ target ∈ targets, (br target env (state.remove 1)).result = .ok ()) ∧
        ∀ first ∈ state.carried targets, ∀ next ∈ state.carried targets,
          tableTargetsAgree env.features first next = true := by
  have ends (kept : Option (List ValueType)) :
      (endBrTable env { state.remove 1 with tableTypes := kept }).result = .ok () := by
    have still : ({ state.remove 1 with tableTypes := none } : State).labels ≠ [] := by
      simpa using opened
    rw [endBrTable, also_result, modify_apply, Verdict.ok_and, set_unreachable_result still]
  have same : (state.remove 1).carried targets = state.carried targets := by
    rw [State.carried, State.remove_labels, State.carried]
  rw [brTable, also_result, also_result, begin_br_table_state, begin_br_table_result opened,
    br_table_targets_state, ends, Verdict.and_ok, Verdict.and_eq_ok_iff,
    br_table_targets_ok_iff, same, Option.none_or, agree_with_head_iff]

end Check

/-- The actions of a `br_table` are those of its targets and the default. -/
theorem Scope.br_table_actions (scope : Scope) (depth : Nat) (targets : List Nat)
    (fallback : Nat) :
    Action.runAll (scope.instructionActions depth (.brTable targets fallback)) =
      Check.brTable (targets ++ [fallback]) := by
  rw [instructionActions, Action.runAll, List.map_append, List.map_append, List.map_map,
    Check.all_append, Check.all_append, Check.also_assoc, List.map_singleton,
    List.map_singleton, Check.all_singleton, Check.all_singleton]
  rfl

/-- In every state with an open label, a `br_table` is accepted exactly if an `i32` can be
removed, a `br` to each of its targets would be accepted then, and the targets carry equally
many values, or the same values where references are disabled. It always leaves the innermost
region unreachable and cut back to its limit, no table in progress and all else as it was. So
only which depths are listed counts, not in what order, how often or which of them last. -/
theorem table_branches_agree_with_branches (scope : Scope) (depth : Nat) (state : State)
    {label : Label} {outer : List Label} (opened : state.labels = label :: outer)
    (targets : List Nat) (fallback : Nat) :
    let branch (targets : List Nat) (fallback : Nat) : Outcome Unit :=
      Action.runAll (scope.instructionActions depth (.brTable targets fallback))
        scope.environment state
    let selected := Check.popSignature [.i32] "br_table" scope.environment state
    let carried := state.carried (targets ++ [fallback])
    ((branch targets fallback).result = .ok () ↔
      selected.result = .ok () ∧
        (∀ target ∈ targets ++ [fallback],
          ((Operation.br target).run scope.environment selected.state).result = .ok ()) ∧
        ∀ first ∈ carried, ∀ next ∈ carried,
          if scope.features.referenceTypes = true then first.length = next.length
          else first = next) ∧
    (branch targets fallback).state =
      ⟨state.operands.take label.limit, { label with unreachable := true } :: outer, none⟩ ∧
    ∀ (others : List Nat) (last : Nat),
      (∀ target, target ∈ others ++ [last] ↔ target ∈ targets ++ [fallback]) →
        ((branch others last).result = .ok () ↔ (branch targets fallback).result = .ok ()) ∧
        (branch others last).state = (branch targets fallback).state := by
  intro branch selected carried
  have present : state.labels ≠ [] := by
    rw [opened]
    exact List.cons_ne_nil label outer
  have runs (targets : List Nat) (fallback : Nat) : branch targets fallback =
      Check.brTable (targets ++ [fallback]) scope.environment state :=
    congrFun (congrFun (scope.br_table_actions depth targets fallback) _) _
  have popped : selected.state = state.remove 1 := Check.pop_signature_state _ _
  refine ⟨?_, ?_, ?_⟩
  · rw [runs, Check.br_table_ok_iff present, popped]
    simp only [table_targets_agree_iff]
    exact Iff.rfl
  · rw [runs, Check.br_table_state opened]
  · intro others last same
    constructor
    · rw [runs, runs, Check.br_table_ok_iff present, Check.br_table_ok_iff present]
      simp only [same, state.mem_carried_congr same]
    · rw [runs, runs, Check.br_table_state opened, Check.br_table_state opened]

/-- In unreachable code, two labels that carry one value each of different types. -/
theorem dead_table_ignores_order :
    let scope : Scope := ⟨.empty, .standard, [], .function [.f32]⟩
    let inner : Label := ⟨.block, [], [.i64], 1, true⟩
    let outer : List Label := [⟨.function, [], [.f32], 0, false⟩]
    let state : State := ⟨[.i32, .i32], inner :: outer, some []⟩
    let branch (targets : List Nat) (fallback : Nat) : Outcome Unit :=
      Action.runAll (scope.instructionActions 2 (.brTable targets fallback)) scope.environment
        state
    (branch [0, 1] 0).result = .ok () ∧ (branch [1, 0, 1] 1).result = .ok () ∧
      (branch [1, 0, 1] 1).state = ⟨[.i32], inner :: outer, none⟩ ∧
      (branch [1, 0, 1] 2).result ≠ .ok () := by
  intro scope inner outer state branch
  have accepted : (branch [0, 1] 0).result = .ok () := by decide +kernel
  have refused : (branch [1, 0, 1] 2).result ≠ .ok () := by decide +kernel
  have same : ∀ target, target ∈ [1, 0, 1] ++ [1] ↔ target ∈ [0, 1] ++ [0] := by
    intro target
    simp only [List.cons_append, List.nil_append, List.mem_cons, List.not_mem_nil, or_false]
    omega
  obtain ⟨-, reached, invariant⟩ := @table_branches_agree_with_branches scope 2 state inner outer
    rfl [0, 1] 0
  obtain ⟨agrees, unchanged⟩ := invariant [1, 0, 1] 1 same
  exact ⟨accepted, agrees.mpr accepted, unchanged.trans reached, refused⟩

end WasmTyping
