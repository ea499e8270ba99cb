import WasmTyping.Proofs.RegionFlow

/-!
# Region flow decides typing

The stacks that the judgement allows after a sequence are those of the region
that its flow ends in. From a derivation the flow is followed forwards. From a
flow a derivation is built backwards: a stack is chosen for the end, and each
step gives a stack for its beginning, which in dead code holds the operands that
were asked for.
-/

set_option autoImplicit false

namespace WasmTyping

open Region

theorem table_targets_agree_iff (features : Features) (first next : List ValueType) :
    tableTargetsAgree features first next = true ↔
      if features.referenceTypes = true then first.length = next.length else first = next := by
  unfold tableTargetsAgree
  split <;> simp

namespace Sequence

variable {scope : Scope} {labels : List (List ValueType)}

/-! ## From derivations to flow -/

theorem arm_of_typed {arm : Sequence} {params left results : List ValueType}
    (ih : ∀ {region : Region}, region.Admits params →
      ∃ next, arm.flow scope labels region = some next ∧ next.Admits left)
    (ends : scope.module.types.allCompatible left results = true) :
    ∃ next, arm.flow scope labels (.start params) = some next ∧
      next.endsIn scope.module.types results = true := by
  obtain ⟨next, flowed, admits⟩ := ih ((start_admits_iff params params).mpr rfl)
  exact ⟨next, flowed, (ends_in_iff results).mpr ⟨left, admits, ends⟩⟩

theorem pop_condition {region : Region} {below operands : List ValueType} {condition : ValueType}
    (taken : scope.module.types.compatible condition .i32 = true)
    (admits : region.Admits (below ++ operands ++ [condition])) :
    ∃ rest, region.pop scope.module.types [.i32] = some rest ∧ rest.Admits (below ++ operands) :=
  pop_of_admits admits
    ((all_compatible_singleton_iff scope.module.types [condition] .i32).mpr
      ⟨condition, rfl, taken⟩)

theorem carries_all_of_operands {region : Region} {below operands : List ValueType}
    {targets : List Nat} {fallback : Nat}
    (admits : region.Admits (below ++ operands))
    (fits : ∀ depth ∈ targets ++ [fallback], ∃ carried, labels[depth]? = some carried ∧
      scope.module.types.allCompatible operands carried = true)
    (agree : scope.features.referenceTypes = true ∨
      ∀ depth ∈ targets, labels[depth]? = labels[fallback]?) :
    region.carriesAll scope.module.types scope.features labels (targets ++ [fallback]) = true := by
  have same : scope.features.referenceTypes = false →
      ∀ depth ∈ targets ++ [fallback], labels[depth]? = labels[fallback]? := by
    intro disabled depth member
    rcases List.mem_append.mp member with target | last
    · exact (agree.resolve_left (by simp [disabled])) depth target
    · rw [List.mem_singleton.mp last]
  obtain ⟨target, others, shape⟩ := List.exists_cons_of_ne_nil
    (List.append_ne_nil_of_right_ne_nil targets (List.cons_ne_nil fallback []))
  rw [shape] at fits same ⊢
  rw [carries_all_iff]
  obtain ⟨first, firstFound, firstFits⟩ := fits target List.mem_cons_self
  refine ⟨first, firstFound, fun depth member => ?_⟩
  obtain ⟨carried, found, carriedFits⟩ := fits depth member
  obtain ⟨rest, popped, -⟩ := pop_of_admits admits carriedFits
  refine ⟨carried, found, by rw [popped, Option.isSome_some], ?_⟩
  rw [table_targets_agree_iff]
  cases enabled : scope.features.referenceTypes with
  | true =>
      rw [if_pos rfl, ← all_compatible_length firstFits, all_compatible_length carriedFits]
  | false =>
      rw [if_neg (by simp)]
      have equal : some first = some carried := by
        rw [← firstFound, ← found, same enabled target List.mem_cons_self,
          same enabled depth member]
      exact Option.some.inj equal

theorem flow_of_typed {sequence : Sequence} {before after : List ValueType}
    (typed : Typed scope labels sequence before after) {region : Region}
    (admits : region.Admits before) :
    ∃ next, sequence.flow scope labels region = some next ∧ next.Admits after := by
  induction typed generalizing region with
  | empty => exact ⟨region, rfl, admits⟩
  | append left right leftIh rightIh =>
      obtain ⟨between, flowed, admitsBetween⟩ := leftIh admits
      obtain ⟨next, flowedOn, admitsAfter⟩ := rightIh admitsBetween
      refine ⟨next, ?_, admitsAfter⟩
      rw [flow, flowed, Option.bind_some, flowedOn]
  | simple found fits =>
      obtain ⟨next, exchanged, admitsAfter⟩ := exchange_of_admits admits fits
      refine ⟨next, ?_, admitsAfter⟩
      rw [flow, found, Option.bind_some, exchanged]
  | unreachable labels before after => exact ⟨unknown, rfl, unknown_admits after⟩
  | drop labels below operand =>
      have fits : scope.module.types.allCompatible [operand] [.any] = true := by
        rw [all_compatible_singleton_iff]
        exact ⟨operand, rfl, scope.module.types.compatible_any operand⟩
      exact pop_of_admits admits fits
  | br found fits after =>
      refine ⟨unknown, ?_, unknown_admits after⟩
      rw [flow, found, Option.bind_some, jump_of_admits admits fits]
  | brIf found taken fits =>
      obtain ⟨rest, popped, remains⟩ := pop_condition taken admits
      obtain ⟨next, exchanged, admitsAfter⟩ := exchange_of_admits remains fits
      refine ⟨next, ?_, admitsAfter⟩
      rw [flow, popped, Option.bind_some, found, Option.bind_some, exchanged]
  | brTable taken fits agree after =>
      obtain ⟨rest, popped, remains⟩ := pop_condition taken admits
      refine ⟨unknown, ?_, unknown_admits after⟩
      rw [flow, popped, Option.bind_some, if_pos (carries_all_of_operands remains fits agree)]
  | returnValues found fits after =>
      refine ⟨unknown, ?_, unknown_admits after⟩
      rw [flow, found, Option.bind_some, jump_of_admits admits fits]
  | block found fits inside ends ih =>
      obtain ⟨next, exchanged, admitsAfter⟩ := exchange_of_admits admits fits
      refine ⟨next, ?_, admitsAfter⟩
      rw [flow, found, Option.bind_some, around_eq_some_iff]
      refine ⟨?_, exchanged⟩
      rw [List.forall_mem_singleton]
      exact arm_of_typed ih ends
  | loop found fits inside ends ih =>
      obtain ⟨next, exchanged, admitsAfter⟩ := exchange_of_admits admits fits
      refine ⟨next, ?_, admitsAfter⟩
      rw [flow, found, Option.bind_some, around_eq_some_iff]
      refine ⟨?_, exchanged⟩
      rw [List.forall_mem_singleton]
      exact arm_of_typed ih ends
  | ifThen found taken fits inside ends passed ih =>
      obtain ⟨rest, popped, remains⟩ := pop_condition taken admits
      obtain ⟨next, exchanged, admitsAfter⟩ := exchange_of_admits remains fits
      refine ⟨next, ?_, admitsAfter⟩
      rw [flow, popped, Option.bind_some, found, Option.bind_some, around_eq_some_iff]
      refine ⟨?_, exchanged⟩
      rw [List.forall_mem_cons, List.forall_mem_singleton]
      refine ⟨arm_of_typed ih ends, _, rfl, ?_⟩
      exact (ends_in_iff _).mpr ⟨_, (start_admits_iff _ _).mpr rfl, passed⟩
  | ifElse found taken fits inside ends otherInside otherEnds ih otherIh =>
      obtain ⟨rest, popped, remains⟩ := pop_condition taken admits
      obtain ⟨next, exchanged, admitsAfter⟩ := exchange_of_admits remains fits
      refine ⟨next, ?_, admitsAfter⟩
      rw [flow, popped, Option.bind_some, found, Option.bind_some, around_eq_some_iff]
      refine ⟨?_, exchanged⟩
      rw [List.forall_mem_cons, List.forall_mem_singleton]
      exact ⟨arm_of_typed ih ends, arm_of_typed otherIh otherEnds⟩

/-! ## From flow to derivations -/

theorem typed_arm {arm : Sequence} {params results : List ValueType}
    (ih : ∀ {region next : Region} {after : List ValueType},
      arm.flow scope labels region = some next → next.Admits after →
        ∃ before, region.Admits before ∧ Typed scope labels arm before after)
    (fits : ∃ left, arm.flow scope labels (.start params) = some left ∧
      left.endsIn scope.module.types results = true) :
    ∃ left, Typed scope labels arm params left ∧
      scope.module.types.allCompatible left results = true := by
  obtain ⟨next, flowed, ends⟩ := fits
  obtain ⟨left, admits, compatible⟩ := (ends_in_iff results).mp ends
  obtain ⟨before, started, typed⟩ := ih flowed admits
  rw [(start_admits_iff params before).mp started] at typed
  exact ⟨left, typed, compatible⟩

theorem admits_condition {region rest : Region} {stack : List ValueType}
    (popped : region.pop scope.module.types [.i32] = some rest) (admits : rest.Admits stack) :
    ∃ condition, scope.module.types.compatible condition .i32 = true ∧
      region.Admits (stack ++ [condition]) := by
  obtain ⟨operands, fits, admitted⟩ := admits_of_pop popped admits
  obtain ⟨condition, rfl, taken⟩ := (all_compatible_singleton_iff _ _ _).mp fits
  exact ⟨condition, taken, admitted⟩

/-- Targets that agree ask for equally many operands, so the operands found for
the first one serve them all. -/
theorem operands_of_carries_all {region : Region} {targets : List Nat} {fallback : Nat}
    (carries : region.carriesAll scope.module.types scope.features labels (targets ++ [fallback]) = true) :
    ∃ below operands, region.Admits (below ++ operands) ∧
      (∀ depth ∈ targets ++ [fallback], ∃ carried, labels[depth]? = some carried ∧
        scope.module.types.allCompatible operands carried = true) ∧
      (scope.features.referenceTypes = true ∨
        ∀ depth ∈ targets, labels[depth]? = labels[fallback]?) := by
  obtain ⟨target, others, shape⟩ := List.exists_cons_of_ne_nil
    (List.append_ne_nil_of_right_ne_nil targets (List.cons_ne_nil fallback []))
  rw [shape, carries_all_iff] at carries
  obtain ⟨first, firstFound, each⟩ := carries
  rw [← shape] at each
  have count : ∀ carried, tableTargetsAgree scope.features first carried = true →
      first.length = carried.length := by
    intro carried agrees
    rw [table_targets_agree_iff] at agrees
    split at agrees
    · exact agrees
    · rw [agrees]
  obtain ⟨carried, found, popped, -⟩ := each target (shape ▸ List.mem_cons_self)
  obtain rfl : carried = first := Option.some.inj (found.symm.trans firstFound)
  obtain ⟨rest, popped⟩ := Option.isSome_iff_exists.mp popped
  obtain ⟨operands, shown, -, rfl⟩ := (pop_eq_some_iff rest).mp popped
  refine ⟨_, operands, admits_of_top shown (admits_operands _), ?_, ?_⟩
  · intro depth member
    obtain ⟨other, otherFound, otherPopped, agrees⟩ := each depth member
    obtain ⟨otherRest, otherPopped⟩ := Option.isSome_iff_exists.mp otherPopped
    obtain ⟨otherOperands, otherShown, otherFits, -⟩ := (pop_eq_some_iff _).mp otherPopped
    rw [← count other agrees, shown] at otherShown
    obtain rfl : operands = otherOperands := Option.some.inj otherShown
    exact ⟨other, otherFound, otherFits⟩
  · cases enabled : scope.features.referenceTypes with
    | true => exact .inl rfl
    | false =>
        have identical : ∀ depth ∈ targets ++ [fallback], labels[depth]? = some carried := by
          intro depth member
          obtain ⟨other, otherFound, -, agrees⟩ := each depth member
          rw [table_targets_agree_iff, enabled, if_neg (by simp)] at agrees
          rw [otherFound, agrees]
        refine .inr fun depth member => ?_
        rw [identical depth (List.mem_append_left _ member), identical fallback (by simp)]

theorem typed_of_flow {sequence : Sequence} {region next : Region} {after : List ValueType}
    (flowed : sequence.flow scope labels region = some next) (admits : next.Admits after) :
    ∃ before, region.Admits before ∧ Typed scope labels sequence before after := by
  -- The stack after the sequence is given and the one before it is found, so the
  -- second of two sequences is handled first.
  induction sequence generalizing labels region next after with
  | empty =>
      obtain rfl : region = next := Option.some.inj flowed
      exact ⟨after, admits, .empty labels after⟩
  | append first second firstIh secondIh =>
      obtain ⟨between, flowedFirst, flowedSecond⟩ := Option.bind_eq_some_iff.mp flowed
      obtain ⟨middle, admitsMiddle, right⟩ := secondIh flowedSecond admits
      obtain ⟨before, admitsBefore, left⟩ := firstIh flowedFirst admitsMiddle
      exact ⟨before, admitsBefore, .append left right⟩
  | simple instruction =>
      obtain ⟨signature, found, exchanged⟩ := Option.bind_eq_some_iff.mp flowed
      obtain ⟨below, operands, rfl, fits, admitted⟩ := admits_of_exchange exchanged admits
      exact ⟨below ++ operands, admitted, .simple found fits⟩
  | unreachable =>
      exact ⟨region.operands, region.admits_operands, .unreachable labels _ after⟩
  | drop =>
      obtain ⟨operands, fits, admitted⟩ := admits_of_pop flowed admits
      obtain ⟨operand, rfl, -⟩ := (all_compatible_singleton_iff _ _ _).mp fits
      exact ⟨after ++ [operand], admitted, .drop labels after operand⟩
  | br depth =>
      obtain ⟨carried, found, jumped⟩ := Option.bind_eq_some_iff.mp flowed
      obtain ⟨below, operands, fits, admitted⟩ := admits_of_jump jumped
      exact ⟨below ++ operands, admitted, .br found fits after⟩
  | brIf depth =>
      obtain ⟨rest, popped, carriedOn⟩ := Option.bind_eq_some_iff.mp flowed
      obtain ⟨carried, found, exchanged⟩ := Option.bind_eq_some_iff.mp carriedOn
      obtain ⟨below, operands, rfl, fits, remains⟩ := admits_of_exchange exchanged admits
      obtain ⟨condition, taken, admitted⟩ := admits_condition popped remains
      exact ⟨_, admitted, .brIf found taken fits⟩
  | brTable targets fallback =>
      obtain ⟨rest, popped, tested⟩ := Option.bind_eq_some_iff.mp flowed
      obtain ⟨carries, -⟩ := Option.ite_none_right_eq_some.mp tested
      obtain ⟨below, operands, remains, fits, agree⟩ := operands_of_carries_all carries
      obtain ⟨selector, taken, admitted⟩ := admits_condition popped remains
      exact ⟨_, admitted, .brTable taken fits agree after⟩
  | returnValues =>
      obtain ⟨carried, found, jumped⟩ := Option.bind_eq_some_iff.mp flowed
      obtain ⟨below, operands, fits, admitted⟩ := admits_of_jump jumped
      exact ⟨below ++ operands, admitted, .returnValues found fits after⟩
  | block type body ih =>
      obtain ⟨signature, found, passed⟩ := Option.bind_eq_some_iff.mp flowed
      obtain ⟨arms, exchanged⟩ := (around_eq_some_iff signature _ next).mp passed
      obtain ⟨below, operands, rfl, fits, admitted⟩ := admits_of_exchange exchanged admits
      rw [List.forall_mem_singleton] at arms
      obtain ⟨left, inside, ends⟩ := typed_arm ih arms
      exact ⟨below ++ operands, admitted, .block found fits inside ends⟩
  | loop type body ih =>
      obtain ⟨signature, found, passed⟩ := Option.bind_eq_some_iff.mp flowed
      obtain ⟨arms, exchanged⟩ := (around_eq_some_iff signature _ next).mp passed
      obtain ⟨below, operands, rfl, fits, admitted⟩ := admits_of_exchange exchanged admits
      rw [List.forall_mem_singleton] at arms
      obtain ⟨left, inside, ends⟩ := typed_arm ih arms
      exact ⟨below ++ operands, admitted, .loop found fits inside ends⟩
  | ifThen type arm ih =>
      obtain ⟨rest, popped, tested⟩ := Option.bind_eq_some_iff.mp flowed
      obtain ⟨signature, found, passed⟩ := Option.bind_eq_some_iff.mp tested
      obtain ⟨arms, exchanged⟩ := (around_eq_some_iff signature _ next).mp passed
      obtain ⟨below, operands, rfl, fits, remains⟩ := admits_of_exchange exchanged admits
      obtain ⟨condition, taken, admitted⟩ := admits_condition popped remains
      rw [List.forall_mem_cons, List.forall_mem_singleton] at arms
      obtain ⟨left, inside, ends⟩ := typed_arm ih arms.1
      obtain ⟨_, ⟨⟩, untouched⟩ := arms.2
      obtain ⟨right, started, otherEnds⟩ := (ends_in_iff signature.results).mp untouched
      rw [(start_admits_iff signature.params right).mp started] at otherEnds
      exact ⟨_, admitted, .ifThen found taken fits inside ends otherEnds⟩
  | ifElse type arm other ih otherIh =>
      obtain ⟨rest, popped, tested⟩ := Option.bind_eq_some_iff.mp flowed
      obtain ⟨signature, found, passed⟩ := Option.bind_eq_some_iff.mp tested
      obtain ⟨arms, exchanged⟩ := (around_eq_some_iff signature _ next).mp passed
      obtain ⟨below, operands, rfl, fits, remains⟩ := admits_of_exchange exchanged admits
      obtain ⟨condition, taken, admitted⟩ := admits_condition popped remains
      rw [List.forall_mem_cons, List.forall_mem_singleton] at arms
      obtain ⟨left, inside, ends⟩ := typed_arm ih arms.1
      obtain ⟨right, otherInside, otherEnds⟩ := typed_arm otherIh arms.2
      exact ⟨_, admitted, .ifElse found taken fits inside ends otherInside otherEnds⟩

end Sequence

end WasmTyping
