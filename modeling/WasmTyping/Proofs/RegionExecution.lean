import WasmTyping.Proofs.AcceptedRuns
import WasmTyping.Proofs.RegionFlow

/-!
# The checker follows the flow of its innermost region

A state splits into its innermost region and what surrounds it. Every check that
is accepted changes the region as the flow says and leaves the surroundings as
they are; entering a structured instruction makes the region part of the
surroundings of the next one, and its `end` gives it back with the results.
-/

set_option autoImplicit false

namespace WasmTyping

/-- What surrounds the innermost region of a state. -/
structure Surroundings where
  below : List ValueType
  kind : LabelKind
  params : List ValueType
  results : List ValueType
  outer : List Label

namespace Surroundings

variable (around : Surroundings) (region : Region)

def label (dead : Bool) : Label :=
  ⟨around.kind, around.params, around.results, around.below.length, dead⟩

/-- The state with the given innermost region. -/
def state : State :=
  ⟨around.below ++ region.operands, around.label region.dead :: around.outer, none⟩

/-- The state within a `br_table` whose first target is known. -/
def keeping (kept : Option (List ValueType)) : State :=
  { around.state region with tableTypes := kept }

/-- The surroundings of a region that is entered from the given one. -/
def nest (kind : LabelKind) (params results : List ValueType) : Surroundings :=
  ⟨around.below ++ region.operands, kind, params, results,
    around.label region.dead :: around.outer⟩

/-- What a branch to each of the open labels carries, innermost first. -/
def branchTypes : List (List ValueType) :=
  (around.label false).branchTypes :: around.outer.map Label.branchTypes

theorem state_labels :
    (around.state region).labels = around.label region.dead :: around.outer := rfl

theorem state_region : (around.state region).region = region.operands :=
  List.drop_left

theorem state_push (types : List ValueType) :
    (around.state region).push types = around.state (region.push types) := by
  simp [state, State.push, Region.push]

theorem state_discard (count : Nat) :
    (around.state region).discard count = around.state (region.discard count) := by
  have bound : max around.below.length ((around.below ++ region.operands).length - count) =
      around.below.length + (region.operands.length - count) := by
    rw [List.length_append]
    omega
  have kept : (around.below ++ region.operands).take
      (around.below.length + (region.operands.length - count)) =
      around.below ++ region.operands.take (region.operands.length - count) :=
    List.take_length_add_append _
  show State.mk ((around.below ++ region.operands).take
    (max around.below.length ((around.below ++ region.operands).length - count))) _ _ = _
  rw [bound, kept]
  rfl

theorem state_mark_unreachable :
    (around.state region).markUnreachable = around.state .unknown := by
  simp [state, State.markUnreachable, Region.unknown, label]

section Keeping

variable (kept : Option (List ValueType))

theorem keeping_push (types : List ValueType) :
    (around.keeping region kept).push types = around.keeping (region.push types) kept := by
  show { (around.state region).push types with tableTypes := kept } = _
  rw [around.state_push]
  rfl

theorem keeping_remove (count : Nat) :
    (around.keeping region kept).remove count = around.keeping (region.discard count) kept := by
  show { (around.state region).discard count with tableTypes := kept } = _
  rw [around.state_discard]
  rfl

theorem keeping_mark_unreachable :
    (around.keeping region kept).markUnreachable = around.keeping .unknown kept := by
  show { (around.state region).markUnreachable with tableTypes := kept } = _
  rw [around.state_mark_unreachable]
  rfl

/-- The state around the innermost region. -/
def outside : State :=
  ⟨around.below, around.outer, none⟩

theorem keeping_leave :
    (around.keeping region kept).leave =
      { around.outside.push around.results with tableTypes := kept } := by
  have cut : (around.below ++ region.operands).take around.below.length = around.below :=
    List.take_left
  show State.mk ((around.below ++ region.operands).take around.below.length ++ around.results)
    around.outer kept = _
  rw [cut]
  rfl

theorem keeping_begin_arm (kind : LabelKind) (types : List ValueType) :
    (around.keeping region kept).beginArm kind types =
      ({ around with kind := kind } : Surroundings).keeping (.start types) kept := by
  have cut : (around.below ++ region.operands).take around.below.length = around.below :=
    List.take_left
  show State.mk ((around.below ++ region.operands).take around.below.length ++ types) _ _ = _
  rw [cut]
  rfl

end Keeping

theorem nest_take_below (kind : LabelKind) (params results : List ValueType) (left : Region) :
    ((around.nest region kind params results).state left).operands.take
      (around.nest region kind params results).below.length =
        around.below ++ region.operands :=
  List.take_left

theorem nest_leave (kind : LabelKind) (params results : List ValueType) (left : Region) :
    ((around.nest region kind params results).state left).leave =
      around.state (region.push results) := by
  show State.mk (((around.nest region kind params results).state left).operands.take
    (around.nest region kind params results).below.length ++ results) _ _ = _
  rw [nest_take_below, List.append_assoc]
  rfl

theorem nest_begin_arm (kind next : LabelKind) (params results : List ValueType)
    (left : Region) :
    ((around.nest region kind params results).state left).beginArm next params =
      (around.nest region next params results).state (.start params) := by
  show State.mk (((around.nest region kind params results).state left).operands.take
    (around.nest region kind params results).below.length ++ params) _ _ = _
  rw [nest_take_below]
  rfl

/-- The outermost region is left by its results. -/
def Rooted : Prop :=
  ∀ dead label, (around.label dead :: around.outer).getLast? = some label →
    label.branchTypes = label.results

theorem nest_rooted (rooted : around.Rooted) (kind : LabelKind)
    (params results : List ValueType) : (around.nest region kind params results).Rooted := by
  intro dead label last
  rw [nest, List.getLast?_cons_cons] at last
  exact rooted region.dead label last

theorem state_branch_types :
    (around.state region).labels.map Label.branchTypes = around.branchTypes := rfl

theorem state_peek (depth : Nat) :
    (around.state region).peek depth =
      match region.peek? depth with
      | some type => .ok type
      | none => .error .stackUnderflow := by
  simp only [State.peek, state_labels, state_region, Region.peek?]
  cases region.operands.reverse[depth]? with
  | some type => rfl
  | none =>
      cases dead : region.dead <;> simp [label]

end Surroundings

section Operands

variable (env : Environment) (around : Surroundings) (region : Region)

theorem operand_verdict_ok_iff (depth : Nat) (expected : ValueType) :
    operandVerdict env (around.state region) depth expected = .ok () ↔
      ∃ actual, region.peek? depth = some actual ∧
        env.types.compatible actual expected = true := by
  unfold operandVerdict
  rw [around.state_peek]
  cases region.peek? depth with
  | none => simp
  | some actual => simp [env.check_type_ok_iff]

/-- A signature is checked from the deepest operand on. -/
theorem signature_verdict_ok_iff (params : List ValueType) :
    signatureVerdict env (around.state region) params = .ok () ↔
      ∃ found, region.top params.length = some found ∧
        env.types.allCompatible found params = true := by
  induction params with
  | nil => simp [signatureVerdict, Region.top, Registry.all_compatible_iff]
  | cons expected rest ih =>
      rw [signatureVerdict, Verdict.and_eq_ok_iff, ih, operand_verdict_ok_iff]
      simp only [List.length_cons, Region.top, Registry.all_compatible_iff]
      constructor
      · rintro ⟨⟨actual, peeked, fits⟩, found, shown, restFits⟩
        refine ⟨actual :: found, ?_, .cons fits restFits⟩
        rw [peeked, shown]
        rfl
      · rintro ⟨found, shown, fits⟩
        obtain ⟨actual, peeked, mapped⟩ := Option.bind_eq_some_iff.mp shown
        obtain ⟨others, restShown, rfl⟩ := Option.map_eq_some_iff.mp mapped
        cases fits with
        | cons here there => exact ⟨⟨actual, peeked, here⟩, others, restShown, there⟩

theorem pop_is_some_iff (params : List ValueType) :
    (region.pop env.types params).isSome = true ↔
      signatureVerdict env (around.state region) params = .ok () := by
  rw [signature_verdict_ok_iff, Option.isSome_iff_exists]
  simp only [Region.pop_eq_some_iff]
  constructor
  · rintro ⟨_, found, shown, fits, -⟩
    exact ⟨found, shown, fits⟩
  · rintro ⟨found, shown, fits⟩
    exact ⟨_, found, shown, fits, rfl⟩

/-- Operands can be removed exactly where they can be seen. -/
theorem discard_verdict_ok_iff (count : Nat) :
    discardVerdict (around.state region) count = .ok () ↔
      (region.top count).isSome = true := by
  have reach : (around.state region).isUnreachable = region.dead := rfl
  unfold discardVerdict
  rw [around.state_region, reach, region.top_is_some_iff]
  cases region.dead <;> simp

/-- The verdict on an empty region. -/
theorem empty_verdict_ok_iff :
    emptyVerdict (around.state region) = .ok () ↔ region.operands = [] := by
  have limit : (around.state region).limit = around.below.length := rfl
  have operands : (around.state region).operands = around.below ++ region.operands := rfl
  unfold emptyVerdict
  rw [limit, operands, List.length_append]
  cases region.operands <;> simp

end Operands

/-- Remove operands for several signatures, one after the other. -/
def Region.popAll (types : Registry) : Region → List (List ValueType) → Option Region
  | region, [] => some region
  | region, params :: rest => (region.pop types params).bind fun next => popAll types next rest

theorem Region.pop_all_singleton (types : Registry) (region : Region)
    (params : List ValueType) : popAll types region [params] = region.pop types params := by
  rw [popAll]
  cases region.pop types params <;> rfl

namespace Check

variable (env : Environment) (around : Surroundings) (region : Region)

/-! ## Operands of the innermost region -/

theorem check_signature_accepted (params : List ValueType) (construct : String) :
    (checkSignature params construct).accepted env (around.state region) =
      (region.pop env.types params).map fun _ => around.state region := by
  apply accepted_eq_map
  · rw [check_signature_result, pop_is_some_iff env around]
  · intro _ _
    exact check_signature_state params construct

theorem drop_types_accepted (count : Nat) :
    (dropTypes count).accepted env (around.state region) =
      (region.top count).map fun _ => around.state (region.discard count) := by
  have dropped := @drop_types_of_open env _ _ _ (around.state_labels region) count
  apply accepted_eq_map
  · rw [dropped]
    exact discard_verdict_ok_iff around region count
  · intro _ _
    rw [dropped]
    exact around.state_discard region count

section Exchange

variable {env around region} {first : Check Unit} {params : List ValueType}

/-- Operands that were checked can be removed. -/
theorem checked_pop_accepted
    (checked : first.accepted env (around.state region) =
      (region.pop env.types params).map fun _ => around.state region) :
    (first.also (dropTypes params.length)).accepted env (around.state region) =
      (region.pop env.types params).map around.state := by
  rw [also_accepted, checked]
  cases popped : region.pop env.types params with
  | none => rfl
  | some rest =>
      obtain ⟨found, shown, -, rfl⟩ := (Region.pop_eq_some_iff rest).mp popped
      rw [Option.map_some, Option.bind_some, drop_types_accepted, shown]
      rfl

theorem popped_push_accepted
    (popped : first.accepted env (around.state region) =
      (region.pop env.types params).map around.state) (results : List ValueType) :
    (first.also (pushTypes results)).accepted env (around.state region) =
      (region.exchange env.types params results).map around.state := by
  rw [also_accepted, popped, Region.exchange]
  cases region.pop env.types params with
  | none => rfl
  | some rest =>
      rw [Option.map_some, Option.bind_some, push_types_accepted, around.state_push]
      rfl

end Exchange

theorem pop_signature_accepted (params : List ValueType) (construct : String) :
    (popSignature params construct).accepted env (around.state region) =
      (region.pop env.types params).map around.state :=
  checked_pop_accepted (check_signature_accepted env around region params construct)

theorem exchange_accepted (params results : List ValueType) (construct : String) :
    ((popSignature params construct).also (pushTypes results)).accepted env
      (around.state region) = (region.exchange env.types params results).map around.state :=
  popped_push_accepted (pop_signature_accepted env around region params construct) results

theorem set_unreachable_accepted :
    setUnreachable.accepted env (around.state region) = some (around.state .unknown) := by
  have marked := @set_unreachable_of_open env _ _ _ (around.state_labels region)
  rw [accepted_of_ok (congrArg Outcome.result marked), marked, around.state_mark_unreachable]

/-! ## Branches -/

/-- What is done with a label depends on the values a branch to it carries. -/
theorem branch_types_bind (depth : Nat) (effect : List ValueType → Option Region) :
    ((around.state region).labels[depth]?.bind fun label =>
      (effect label.branchTypes).map around.state) =
        (around.branchTypes[depth]?.bind effect).map around.state := by
  rw [← around.state_branch_types region, List.getElem?_map]
  cases (around.state region).labels[depth]? <;> rfl

theorem jump_accepted (carried : List ValueType) (construct : String) :
    ((checkSignature carried construct).also setUnreachable).accepted env (around.state region) =
      (region.jump env.types carried).map around.state := by
  rw [also_accepted, check_signature_accepted, Region.jump]
  cases region.pop env.types carried with
  | none => rfl
  | some rest =>
      rw [Option.map_some, Option.bind_some, set_unreachable_accepted]
      rfl

theorem br_accepted (depth : Nat) :
    (br depth).accepted env (around.state region) =
      (around.branchTypes[depth]?.bind (region.jump env.types)).map around.state := by
  rw [br, resolve_bind_accepted, ← branch_types_bind around region]
  simp only [jump_accepted]

theorem br_if_accepted (depth : Nat) :
    (brIf depth).accepted env (around.state region) =
      ((region.pop env.types [.i32]).bind fun rest =>
        around.branchTypes[depth]?.bind fun carried =>
          rest.exchange env.types carried carried).map around.state := by
  rw [brIf, attempt_bind_accepted, pop_signature_accepted]
  · cases region.pop env.types [.i32] with
    | none => rfl
    | some rest =>
        have taken : ∀ label : Label, (all [settle (.ok ()), popSignature label.branchTypes "br_if",
            pushTypes label.branchTypes]).accepted env (around.state rest) =
            (rest.exchange env.types label.branchTypes label.branchTypes).map around.state := by
          intro label
          rw [all_cons, also_accepted, settle_ok_accepted, Option.bind_some, all_pair_accepted,
            exchange_accepted]
        rw [Option.map_some, Option.bind_some, Option.bind_some, resolve_bind_accepted,
          ← branch_types_bind around rest]
        simp only [taken]
  · intro fault state
    rw [resolve_bind_accepted]
    cases state.labels[depth]? <;> simp

theorem return_values_accepted (rooted : around.Rooted) :
    returnValues.accepted env (around.state region) =
      (around.branchTypes.getLast?.bind (region.jump env.types)).map around.state := by
  have left : ∀ label : Label,
      ((popSignature label.results "return").also setUnreachable).accepted env
        (around.state region) = (region.jump env.types label.results).map around.state := by
    intro label
    rw [also_accepted, pop_signature_accepted, Region.jump]
    cases region.pop env.types label.results with
    | none => rfl
    | some rest => exact set_unreachable_accepted env around rest
  rw [returnValues, outermost_bind_accepted, ← around.state_branch_types region,
    List.getLast?_map]
  cases last : (around.state region).labels.getLast? with
  | none => rfl
  | some label =>
      rw [Option.bind_some, left, Option.map_some, Option.bind_some, rooted region.dead label last]

theorem drop_accepted :
    drop.accepted env (around.state region) =
      (region.pop env.types [.any]).map around.state := by
  have anything : region.pop env.types [.any] =
      (region.top 1).map fun _ => region.discard 1 := by
    simp only [Region.pop, List.length_singleton, Region.top]
    cases region.peek? 0 with
    | none => rfl
    | some type =>
        have fits : env.types.allCompatible [type] [.any] = true :=
          (all_compatible_singleton_iff _ _ _).mpr ⟨type, rfl, env.types.compatible_any type⟩
        simp [fits]
  rw [drop, attempt_bind_accepted, drop_types_accepted, anything]
  · cases region.top 1 <;> rfl
  · intro fault state
    rfl

/-- With a declared type the operands of `select` are those of a signature. -/
theorem select_verdict_ok_iff (state : State) (type : ValueType) :
    (selectVerdict env state (some type)).1 = .ok () ↔
      signatureVerdict env state [type, type, .i32] = .ok () := by
  simp only [selectVerdict, signatureVerdict, operandVerdict, State.peekD, List.length_cons,
    List.length_nil, Verdict.and_eq_ok_iff, Nat.zero_add, Nat.reduceAdd]
  cases state.peek 1 with
  | error fault => simp [Verdict.of]
  | ok first =>
      cases state.peek 2 with
      | error fault => simp [Verdict.of]
      | ok second =>
          simp only [Verdict.of, and_true]
          constructor
          · rintro ⟨condition, left, right⟩
            exact ⟨right, left, condition⟩
          · rintro ⟨right, left, condition⟩
            exact ⟨condition, left, right⟩

theorem select_accepted (type : ValueType) :
    (select (some type)).accepted env (around.state region) =
      (region.exchange env.types [type, type, .i32] [type]).map around.state := by
  have checked : ∀ diagnostic, (explain (selectVerdict env (around.state region) (some type)).1
      diagnostic).accepted env (around.state region) =
      (region.pop env.types [type, type, .i32]).map fun _ => around.state region := by
    intro diagnostic
    apply accepted_eq_map
    · rw [explain_result, select_verdict_ok_iff, pop_is_some_iff env around]
    · intro _ _
      rfl
  have popped := checked_pop_accepted (checked fun state =>
    state.mismatch .inside "select" [type, type, .i32])
  have pushed := popped_push_accepted popped [type]
  rw [← pushed, select, observe_bind_accepted]
  show (all [explain _ _, dropTypes 3, pushTypes [type]]).accepted env (around.state region) = _
  rw [all_cons, also_accepted, also_accepted, also_accepted, Option.bind_assoc]
  congr 1
  funext next
  rw [all_pair_accepted, also_accepted]
  rfl

/-! ## Tables -/

theorem table_targets_agree_self (features : Features) (carried : List ValueType) :
    tableTargetsAgree features carried carried = true := by
  unfold tableTargetsAgree
  split <;> simp

theorem signature_verdict_keeping (state : State) (kept : Option (List ValueType))
    (params : List ValueType) :
    signatureVerdict env { state with tableTypes := kept } params =
      signatureVerdict env state params := by
  induction params with
  | nil => rfl
  | cons expected rest ih =>
      rw [signatureVerdict, signatureVerdict, ih]
      rfl

theorem check_signature_keeping_accepted (kept : Option (List ValueType))
    (params : List ValueType) (construct : String) :
    (checkSignature params construct).accepted env (around.keeping region kept) =
      (region.pop env.types params).map fun _ => around.keeping region kept := by
  apply accepted_eq_map
  · rw [check_signature_result, Surroundings.keeping, signature_verdict_keeping,
      pop_is_some_iff env around]
  · intro _ _
    exact check_signature_state params construct

theorem check_table_types_accepted (kept : Option (List ValueType)) (carried : List ValueType) :
    (ask fun env state => checkTableTypes env state carried).accepted env
      (around.keeping region kept) =
        if kept.all fun first => tableTargetsAgree env.features first carried then
          some (around.keeping region kept)
        else none := by
  rw [ask_accepted]
  cases kept with
  | none => rfl
  | some first =>
      have question : checkTableTypes env (around.keeping region (some first)) carried =
          if tableTargetsAgree env.features first carried then .ok ()
          else .error ⟨.tableTargets first carried, .tableTargets⟩ := rfl
      rw [question, Option.all_some]
      split <;> rfl

theorem br_table_target_accepted (kept : Option (List ValueType)) (depth : Nat) :
    (brTableTarget depth).accepted env (around.keeping region kept) =
      around.branchTypes[depth]?.bind fun carried =>
        if (region.pop env.types carried).isSome &&
            kept.all fun first => tableTargetsAgree env.features first carried then
          some (around.keeping region (some (kept.getD carried)))
        else none := by
  rw [brTableTarget, resolve_bind_accepted, ← around.state_branch_types region,
    List.getElem?_map]
  show (around.state region).labels[depth]?.bind _ = _
  cases (around.state region).labels[depth]? with
  | none => rfl
  | some label =>
      rw [Option.bind_some, Option.map_some, Option.bind_some, all_cons, also_accepted,
        check_signature_keeping_accepted]
      cases region.pop env.types label.branchTypes with
      | none => rfl
      | some rest =>
          rw [Option.map_some, Option.bind_some, all_pair_accepted, also_accepted,
            check_table_types_accepted, Option.isSome_some, Bool.true_and]
          split <;> rfl

/-- Targets after the first are compared with it. -/
theorem br_table_targets_accepted (first : List ValueType) (targets : List Nat) :
    (all (targets.map brTableTarget)).accepted env (around.keeping region (some first)) =
      if targets.all fun depth => around.branchTypes[depth]?.any fun carried =>
          (region.pop env.types carried).isSome &&
            tableTargetsAgree env.features first carried then
        some (around.keeping region (some first))
      else none := by
  induction targets with
  | nil => rfl
  | cons target rest ih =>
      rw [List.map_cons, all_cons, also_accepted, br_table_target_accepted, List.all_cons]
      cases around.branchTypes[target]? with
      | none => rfl
      | some carried =>
          rw [Option.bind_some, Option.all_some, Option.any_some, Option.getD_some]
          cases (region.pop env.types carried).isSome &&
              tableTargetsAgree env.features first carried with
          | false => rfl
          | true =>
              rw [if_pos rfl, Option.bind_some, ih, Bool.true_and]

theorem br_table_accepted (target : Nat) (targets : List Nat) :
    (all (beginBrTable :: (target :: targets).map brTableTarget ++ [endBrTable])).accepted env
      (around.state region) =
        ((region.pop env.types [.i32]).bind fun rest =>
          if rest.carriesAll env.types env.features around.branchTypes (target :: targets) then
            some .unknown
          else none).map around.state := by
  have begun : beginBrTable.accepted env (around.state region) =
      (region.pop env.types [.i32]).map around.state := by
    rw [beginBrTable, also_accepted, modify_accepted, Option.bind_some]
    exact pop_signature_accepted env around region [.i32] "br_table"
  rw [List.cons_append, all_cons, also_accepted, begun]
  cases region.pop env.types [.i32] with
  | none => rfl
  | some rest =>
      rw [Option.map_some, Option.bind_some, Option.bind_some, all_append_accepted]
      show ((all ((target :: targets).map brTableTarget)).accepted env
        (around.keeping rest none)).bind _ = _
      rw [List.map_cons, all_cons, also_accepted, br_table_target_accepted]
      unfold Region.carriesAll
      rw [List.head?_cons, Option.bind_some]
      cases found : around.branchTypes[target]? with
      | none => rfl
      | some first =>
          rw [Option.any_some, List.all_cons, found, Option.any_some, table_targets_agree_self,
            Bool.and_true, Option.bind_some, Option.all_none, Bool.and_true, Option.getD_none]
          cases (rest.pop env.types first).isSome with
          | false => rfl
          | true =>
              rw [if_pos rfl, Option.bind_some, br_table_targets_accepted, Bool.true_and]
              split
              · rw [Option.bind_some, all_singleton_accepted, endBrTable, also_accepted,
                  modify_accepted, Option.bind_some]
                exact set_unreachable_accepted env around rest
              · rfl

/-! ## Entering and leaving -/

theorem pop_signatures_accepted (signatures : List (List ValueType)) (construct : String) :
    (popSignatures signatures construct).accepted env (around.state region) =
      (Region.popAll env.types region signatures).map around.state := by
  induction signatures generalizing region with
  | nil => rfl
  | cons params rest ih =>
      rw [popSignatures, List.map_cons, all_cons, also_accepted, pop_signature_accepted,
        Region.popAll]
      cases region.pop env.types params with
      | none => rfl
      | some next => exact ih next

theorem enter_accepted (opening : Opening) (params results : List ValueType) :
    (Operation.enter opening params results).run.accepted env (around.state region) =
      (Region.popAll env.types region (opening.pops params)).map fun rest =>
        (around.nest rest opening.label params results).state (.start params) := by
  rw [Operation.run, also_accepted, pop_signatures_accepted]
  cases Region.popAll env.types region (opening.pops params) <;> rfl

theorem check_region_empty_accepted (construct : String) :
    (checkRegionEmpty construct).accepted env (around.state region) =
      if region.operands.isEmpty then some (around.state region) else none := by
  have verdict := @check_region_empty_result env _ _ _ (around.state_labels region) construct
  have decided : (checkRegionEmpty construct).accepted env (around.state region) =
      (if region.operands.isEmpty then some () else none).map fun _ => around.state region := by
    apply accepted_eq_map
    · rw [verdict, empty_verdict_ok_iff]
      split <;> simp_all
    · intro _ _
      exact check_region_empty_state construct
  rw [decided]
  split <;> rfl

theorem check_results_accepted (label : Label) (construct last : String) :
    (checkResults label construct last).accepted env (around.state region) =
      if region.endsIn env.types label.results then some (around.state ⟨[], region.dead⟩)
      else none := by
  rw [checkResults, also_accepted, pop_signature_accepted, Region.endsIn]
  cases popped : region.pop env.types label.results with
  | none => rfl
  | some rest =>
      obtain ⟨found, -, -, rfl⟩ := (Region.pop_eq_some_iff rest).mp popped
      rw [Option.map_some, Option.bind_some, Option.any_some, check_region_empty_accepted]
      cases remaining : (region.discard label.results.length).operands with
      | nil =>
          have same : region.discard label.results.length = ⟨[], region.dead⟩ := by
            rw [← remaining]
            rfl
          rw [same]
      | cons type others => rfl

/-- A region of the right kind can be closed where it ends in its results. -/
theorem close_region_accepted {rule : LabelRule} (allowed : rule.allows around.kind = true)
    (construct last : String) :
    (closeUnder rule construct last).accepted env (around.state region) =
      if region.endsIn env.types around.results then some (around.outside.push around.results)
      else none := by
  have right : ∀ state, (requireKind rule (around.label region.dead)).accepted env state =
      some state := by
    intro state
    have kind : rule.allows (around.label region.dead).kind = true := allowed
    rw [requireKind, ensure, ask_accepted, kind]
    rfl
  rw [closeUnder, innermost_bind_accepted env (around.state_labels region), also_accepted, right,
    Option.bind_some, leaveRegion, also_accepted, check_results_accepted]
  show (if region.endsIn env.types around.results then _ else none).bind _ = _
  split
  · rw [Option.bind_some, closeLabel, act_accepted]
    exact congrArg some (around.keeping_leave ⟨[], region.dead⟩ none)
  · rfl

variable (kind : LabelKind) (params results : List ValueType) (left : Region)

theorem leave_region_accepted (label : Label) (construct last : String)
    (same : label.results = results) :
    (leaveRegion label construct last).accepted env
      ((around.nest region kind params results).state left) =
        if left.endsIn env.types results then some (around.state (region.push results))
        else none := by
  rw [leaveRegion, also_accepted, check_results_accepted, same]
  split
  · rw [Option.bind_some, closeLabel, act_accepted, around.nest_leave]
  · rfl

theorem else_arm_accepted :
    elseArm.accepted env ((around.nest region .ifThen params results).state left) =
      if left.endsIn env.types results then
        some ((around.nest region .elseArm params results).state (.start params))
      else none := by
  rw [elseArm, innermost_bind_accepted env (Surroundings.state_labels _ left), nextArm, all_cons,
    also_accepted]
  have allowed : ∀ state, (requireKind .elseAfterIf
      ((around.nest region .ifThen params results).label left.dead)).accepted env state =
      some state := by
    intro state
    rfl
  rw [allowed, Option.bind_some, all_pair_accepted, also_accepted, check_results_accepted]
  show (if left.endsIn env.types results then _ else none).bind _ = _
  split
  · rw [Option.bind_some, modify_accepted]
    exact congrArg some (around.nest_begin_arm region .ifThen .elseArm params results _)
  · rfl

theorem end_region_accepted (plain : kind ≠ .ifThen) :
    endRegion.accepted env ((around.nest region kind params results).state left) =
      if left.endsIn env.types results then some (around.state (region.push results))
      else none := by
  rw [endRegion, innermost_bind_accepted env (Surroundings.state_labels _ left)]
  have other : ((around.nest region kind params results).label left.dead).kind ≠ .ifThen := plain
  rw [if_neg other]
  exact leave_region_accepted env around region kind params results left _ _ _ rfl

/-- Without `else` the parameters are the operands of the second arm. -/
theorem end_if_accepted :
    endRegion.accepted env ((around.nest region .ifThen params results).state left) =
      if left.endsIn env.types results ∧ (Region.start params).endsIn env.types results then
        some (around.state (region.push results))
      else none := by
  rw [endRegion, innermost_bind_accepted env (Surroundings.state_labels _ left)]
  have conditional :
      ((around.nest region .ifThen params results).label left.dead).kind = .ifThen := rfl
  rw [if_pos conditional, also_accepted, else_arm_accepted]
  by_cases ends : left.endsIn env.types results = true
  · rw [if_pos ends, Option.bind_some]
    rw [leave_region_accepted env around region .elseArm params results (.start params) _ _ _ rfl]
    simp [ends]
  · simp [ends]

/-- A `delegate` closes a `try` as its `end` does, if the depth it takes names a label. -/
theorem delegate_accepted (depth : Nat) :
    (delegate depth).accepted env ((around.nest region .tryBlock params results).state left) =
      if min (depth + 1) greatestDepth < around.outer.length + 2 ∧
          left.endsIn env.types results then
        some (around.state (region.push results))
      else none := by
  rw [delegate, resolve_bind_accepted]
  by_cases named : min (depth + 1) greatestDepth < around.outer.length + 2
  · have found : min (depth + 1) greatestDepth <
        ((around.nest region .tryBlock params results).state left).labels.length := named
    have allowed : ∀ state, (requireKind .delegateAfterTry
        ((around.nest region .tryBlock params results).label left.dead)).accepted env state =
        some state := by
      intro state
      rfl
    rw [List.getElem?_eq_getElem found, Option.bind_some, closeUnder,
      innermost_bind_accepted env (Surroundings.state_labels _ left), also_accepted, allowed,
      Option.bind_some,
      leave_region_accepted env around region .tryBlock params results left _ _ _ rfl]
    simp [named]
  · have missing : ((around.nest region .tryBlock params results).state left).labels.length ≤
        min (depth + 1) greatestDepth := Nat.le_of_not_lt named
    rw [List.getElem?_eq_none missing, if_neg fun both => named both.1]
    rfl

end Check

end WasmTyping
