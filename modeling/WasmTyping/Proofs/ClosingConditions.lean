import WasmTyping.Proofs.RegionExecution
import WasmTyping.Proofs.StackDiscipline

/-!
# When a region can be closed

To close a region, or to go on with its next arm, the checker looks at the operands one
by one, removes as many as there are results and asks whether any are left. All this
amounts to one comparison of the operands of the region with its results: with all of
them in a reachable region, and with the last ones in an unreachable region, which may
leave out operands at the bottom. Apart from it only the kind of the label counts, the
depth of a `delegate`, and the parameters of an `if` that has no `else`.
-/

set_option autoImplicit false

namespace WasmTyping

/-- The operands of a region are what it leaves as results. In an unreachable region they
need only be the last of the results. -/
def Registry.Fits (types : Registry) (unreachable : Bool) (operands results : List ValueType) :
    Prop :=
  if unreachable then
    operands.length ≤ results.length ∧
      types.allCompatible operands (results.drop (results.length - operands.length)) = true
  else types.allCompatible operands results = true

instance (types : Registry) (unreachable : Bool) (operands results : List ValueType) :
    Decidable (types.Fits unreachable operands results) :=
  inferInstanceAs (Decidable (if unreachable then _ ∧ _ else _))

/-! ## The operands of a region -/

/-- Operands fit the last results exactly if some operands below them complete them. -/
theorem exists_below_iff (types : Registry) (operands results : List ValueType) :
    (∃ below, types.allCompatible (below ++ operands) results = true) ↔
      operands.length ≤ results.length ∧
        types.allCompatible operands (results.drop (results.length - operands.length)) = true := by
  simp only [types.all_compatible_iff]
  constructor
  · rintro ⟨below, fits⟩
    have counted := fits.length_eq
    rw [List.length_append] at counted
    have missing : results.length - operands.length = below.length := by omega
    refine ⟨by omega, ?_⟩
    have dropped := List.forall₂_drop below.length fits
    rwa [List.drop_left, ← missing] at dropped
  · rintro ⟨-, fits⟩
    -- operands that are not known complete any results
    have supposed (hidden : List ValueType) :
        List.Forall₂ (fun actual expected => types.compatible actual expected = true)
          (hidden.map fun _ => .any) hidden :=
      List.forall₂_map_left_iff.mpr
        (List.forall₂_same.mpr fun result _ => types.any_compatible result)
    have whole := List.rel_append (supposed (results.take (results.length - operands.length))) fits
    dsimp only at whole
    rw [List.take_append_drop] at whole
    exact ⟨_, whole⟩

/-- What a region shows ends in its results exactly if its operands fit them. -/
theorem Region.ends_in_iff_fits (types : Registry) (region : Region) (results : List ValueType) :
    region.endsIn types results = true ↔ types.Fits region.dead region.operands results := by
  obtain ⟨operands, dead⟩ := region
  rw [Region.ends_in_iff]
  cases dead with
  | false =>
      constructor
      · rintro ⟨left, admits, fits⟩
        rwa [(start_admits_iff operands left).mp admits] at fits
      · intro fits
        exact ⟨operands, admits_operands _, fits⟩
  | true =>
      rw [Registry.Fits, if_pos rfl, ← exists_below_iff]
      constructor
      · rintro ⟨_, ⟨below, rfl, -⟩, fits⟩
        exact ⟨below, fits⟩
      · rintro ⟨below, fits⟩
        exact ⟨below ++ operands, ⟨below, rfl, nofun⟩, fits⟩

/-! ## The checks of a region that ends -/

namespace State

variable {state : State} {label : Label} {outer : List Label}

/-- What surrounds the region of the innermost label. -/
def surroundings (state : State) (label : Label) (outer : List Label) : Surroundings :=
  ⟨state.operands.take label.limit, label.kind, label.params, label.results, outer⟩

/-- A state whose stack reaches the innermost limit is cut there. -/
theorem eq_keeping (opened : state.labels = label :: outer)
    (grounded : state.limit ≤ state.operands.length) :
    state = (state.surroundings label outer).keeping ⟨state.region, label.unreachable⟩
      state.tableTypes := by
  have limit : state.limit = label.limit := by
    simp only [State.limit, opened]
  have cut : (state.operands.take label.limit).length = label.limit := by
    rw [List.length_take]
    omega
  have whole : state.operands.take label.limit ++ state.region = state.operands := by
    rw [State.region, limit, List.take_append_drop]
  show state = ⟨state.operands.take label.limit ++ state.region,
    ⟨label.kind, label.params, label.results, (state.operands.take label.limit).length,
      label.unreachable⟩ :: outer, state.tableTypes⟩
  rw [whole, cut, ← opened]

end State

namespace Check

variable (env : Environment) {state : State} {label : Label} {outer : List Label}

/-- The operands that are looked at, removed and looked for again fit the results. -/
theorem check_results_keeping_ok_iff (around : Surroundings) (region : Region)
    (kept : Option (List ValueType)) (label : Label) (construct last : String) :
    (checkResults label construct last env (around.keeping region kept)).result = .ok () ↔
      env.types.Fits region.dead region.operands label.results := by
  have labels (shown : Region) : (around.keeping shown kept).labels =
      around.label shown.dead :: around.outer := rfl
  have checked : signatureVerdict env (around.keeping region kept) label.results =
      signatureVerdict env (around.state region) label.results :=
    signature_verdict_keeping env _ kept _
  rw [checkResults, also_result, Verdict.and_eq_ok_iff, pop_signature_state,
    around.keeping_remove, check_region_empty_result (labels _), popSignature, also_result,
    Verdict.and_eq_ok_iff, check_signature_result, check_signature_state,
    drop_types_of_open (labels region), checked, ← pop_is_some_iff env around,
    ← Region.ends_in_iff_fits, Region.endsIn]
  cases popped : region.pop env.types label.results with
  | none => simp
  | some rest =>
      obtain ⟨found, shown, -, rfl⟩ := (Region.pop_eq_some_iff rest).mp popped
      have removable : discardVerdict (around.keeping region kept) label.results.length = .ok () :=
        (discard_verdict_ok_iff around region _).mpr (by rw [shown]; rfl)
      have remaining : emptyVerdict (around.keeping (region.discard label.results.length) kept) =
          .ok () ↔ (region.discard label.results.length).operands = [] :=
        empty_verdict_ok_iff around _
      simpa [removable] using remaining

theorem require_kind_ok_iff (rule : LabelRule) (label : Label) (state : State) :
    (requireKind rule label env state).result = .ok () ↔ rule.allows label.kind = true := by
  rw [requireKind, ensure, ask_result_ok_iff]
  split <;> simp_all

theorem leave_region_result (label : Label) (construct last : String) (state : State) :
    (leaveRegion label construct last env state).result =
      (checkResults label construct last env state).result := by
  rw [leaveRegion, also_result, closeLabel, act_apply, Verdict.and_ok]

section Grounded

variable (opened : state.labels = label :: outer) (grounded : state.limit ≤ state.operands.length)

include opened grounded

theorem check_results_ok_iff (construct last : String) :
    (checkResults label construct last env state).result = .ok () ↔
      env.types.Fits label.unreachable state.region label.results := by
  have checked := check_results_keeping_ok_iff env (state.surroundings label outer)
    ⟨state.region, label.unreachable⟩ state.tableTypes label construct last
  rwa [← State.eq_keeping opened grounded] at checked

theorem close_under_ok_iff (rule : LabelRule) (construct last : String) :
    (closeUnder rule construct last env state).result = .ok () ↔
      rule.allows label.kind = true ∧
        env.types.Fits label.unreachable state.region label.results := by
  rw [closeUnder, innermost_bind_of_open opened, also_result, Verdict.and_eq_ok_iff,
    require_kind_ok_iff, require_kind_state, leave_region_result,
    check_results_ok_iff env opened grounded]

theorem next_arm_ok_iff (rule : LabelRule) (construct : String) (kind : LabelKind)
    (types : List ValueType) :
    (nextArm rule label construct kind types env state).result = .ok () ↔
      rule.allows label.kind = true ∧
        env.types.Fits label.unreachable state.region label.results := by
  rw [nextArm, all_cons, also_result, Verdict.and_eq_ok_iff, require_kind_ok_iff,
    require_kind_state, all_cons, also_result, Verdict.and_eq_ok_iff,
    check_results_ok_iff env opened grounded]
  exact and_congr_right fun _ => and_iff_left rfl

/-- The `end` of a region. Without `else` the parameters are the operands of a second arm. -/
theorem end_region_ok_iff :
    (endRegion env state).result = .ok () ↔
      env.types.Fits label.unreachable state.region label.results ∧
        (label.kind = .ifThen → env.types.allCompatible label.params label.results = true) := by
  rw [endRegion, innermost_bind_of_open opened]
  by_cases conditional : label.kind = .ifThen
  · rw [if_pos conditional, also_result, Verdict.and_eq_ok_iff, leave_region_result,
      else_arm_state_of_open opened]
    have arm : (state.remove label.results.length).beginArm .elseArm label.params =
        ({ state.surroundings label outer with kind := .elseArm } : Surroundings).keeping
          (.start label.params) state.tableTypes := by
      conv_lhs => rw [State.eq_keeping opened grounded]
      rw [Surroundings.keeping_remove, Surroundings.keeping_begin_arm]
    rw [arm, check_results_keeping_ok_iff, elseArm, innermost_bind_of_open opened,
      next_arm_ok_iff env opened grounded]
    simp [conditional, LabelRule.allows, Registry.Fits, Region.start]
  · rw [if_neg conditional, leave_region_result, check_results_ok_iff env opened grounded]
    simp [conditional]

end Grounded

/-- A `delegate` closes the region if its depth, counted from outside, names a label. -/
theorem delegate_ok_iff (few : state.labels.length ≤ greatestDepth) (depth : Nat) :
    (delegate depth env state).result = .ok () ↔
      depth + 1 < state.labels.length ∧
        (closeUnder .delegateAfterTry "try block" "try block" env state).result = .ok () := by
  rw [delegate]
  by_cases named : depth + 1 < state.labels.length
  · have exact : min (depth + 1) greatestDepth = depth + 1 := by omega
    have found := (state.resolve_eq_ok_iff (depth + 1) _).mpr (List.getElem?_eq_getElem named)
    rw [exact, resolve, ask_bind_of_ok found, and_iff_right named]
  · -- a depth that is cut off at the greatest one names no label either
    have beyond : state.labels.length ≤ min (depth + 1) greatestDepth := by omega
    cases found : state.resolve (min (depth + 1) greatestDepth) with
    | ok label =>
        rw [State.resolve_eq_ok_iff, List.getElem?_eq_none beyond] at found
        cases found
    | error complaint =>
        rw [resolve, ask_bind_of_error found]
        simp [named]

end Check

/-- In every state that steps can lead to and that has an open label: the innermost region
can be closed, or continued by its next arm, exactly if its label is of the right kind and
its operands fit its results; a `delegate` also needs a label to delegate to, provided that
all depths are 32-bit numbers, and the end of an `if` without `else` needs parameters that
fit the results. -/
theorem closing_conditions_are_exact (env : Environment) (operations : List Operation)
    {label : Label} {outer : List Label}
    (opened : (State.empty.after env operations).labels = label :: outer) :
    let state := State.empty.after env operations
    let fits := env.types.Fits label.unreachable state.region label.results
    ((Operation.endFunction.run env state).result = .ok () ↔ label.kind = .function ∧ fits) ∧
    ((Operation.endInitExpr.run env state).result = .ok () ↔ label.kind = .initExpr ∧ fits) ∧
    ((Operation.elseArm.run env state).result = .ok () ↔ label.kind = .ifThen ∧ fits) ∧
    (∀ values, ((Operation.catchArm values).run env state).result = .ok () ↔
      (label.kind = .tryBlock ∨ label.kind = .catchArm) ∧ fits) ∧
    (state.labels.length ≤ Check.greatestDepth → ∀ depth,
      ((Operation.delegate depth).run env state).result = .ok () ↔
        depth + 1 < state.labels.length ∧ label.kind = .tryBlock ∧ fits) ∧
    ((Operation.endBlock.run env state).result = .ok () ↔
      fits ∧ (label.kind = .ifThen →
        env.types.allCompatible label.params label.results = true)) := by
  intro state fits
  have grounded : state.limit ≤ state.operands.length :=
    (State.empty_disciplined.after env operations).grounded
  have closes (rule : LabelRule) (construct last : String) :
      (Check.closeUnder rule construct last env state).result = .ok () ↔
        rule.allows label.kind = true ∧ fits :=
    Check.close_under_ok_iff env opened grounded rule construct last
  have continues (rule : LabelRule) (construct : String) (kind : LabelKind)
      (types : List ValueType) :
      (Check.nextArm rule label construct kind types env state).result = .ok () ↔
        rule.allows label.kind = true ∧ fits :=
    Check.next_arm_ok_iff env opened grounded rule construct kind types
  refine ⟨?_, ?_, ?_, ?_, ?_, Check.end_region_ok_iff env opened grounded⟩
  · exact (closes .functionEnd _ _).trans (and_congr_left fun _ => decide_eq_true_iff)
  · exact (closes .initExprEnd _ _).trans (and_congr_left fun _ => decide_eq_true_iff)
  · rw [Operation.run, Check.elseArm, Check.innermost_bind_of_open opened, continues]
    exact and_congr_left fun _ => decide_eq_true_iff
  · intro values
    rw [Operation.run, Check.catchArm, Check.innermost_bind_of_open opened, continues]
    exact and_congr_left fun _ => by simp [LabelRule.allows]
  · intro few depth
    rw [Operation.run, Check.delegate_ok_iff env few, closes]
    exact and_congr_right fun _ => and_congr_left fun _ => decide_eq_true_iff

/-- The first arm of an `if` whose code is unreachable shows only the last of two results.
It can be followed by an `else`; it cannot be ended, since there are no parameters for the
second arm to return. -/
theorem unreachable_arm_needs_else :
    let env : Environment := ⟨.empty, .all⟩
    let operations : List Operation :=
      [.beginFunction [], .plain (.constant .i32), .enter .ifThen [] [.i64, .i32], .unreachable,
        .plain (.constant .i32)]
    let state := State.empty.after env operations
    state.region = [.i32] ∧ (Operation.elseArm.run env state).result = .ok () ∧
      (Operation.endBlock.run env state).result ≠ .ok () := by
  intro env operations state
  have opened : state.labels =
      [⟨.ifThen, [], [.i64, .i32], 0, true⟩, ⟨.function, [], [], 0, false⟩] := by decide
  have region : state.region = [.i32] := by decide
  have fits : env.types.Fits true state.region [.i64, .i32] := by
    rw [region]
    decide
  obtain ⟨-, -, elseArm, -, -, ends⟩ := closing_conditions_are_exact env operations opened
  refine ⟨region, elseArm.mpr ⟨rfl, fits⟩, ?_⟩
  intro ended
  exact absurd ((ends.mp ended).2 rfl) (by decide)

end WasmTyping
