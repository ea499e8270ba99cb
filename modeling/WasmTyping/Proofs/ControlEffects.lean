import WasmTyping.Proofs.StackDiscipline

/-!
# Control effects

What a step does to the labels, to the table in progress and to the height of the operand
stack is a function of these three alone. It is given here for every step, without a look
at the types on the stack and without a verdict: a step that fails has the effect it has
where it succeeds. Only a depth or a type index that names nothing ends a step early.
-/

set_option autoImplicit false

namespace WasmTyping

/-- A state without the types on its operand stack. -/
structure Control where
  labels : List Label
  tableTypes : Option (List ValueType)
  height : Nat
  deriving DecidableEq

def State.control (state : State) : Control :=
  ⟨state.labels, state.tableTypes, state.operands.length⟩

namespace Control

def empty : Control := ⟨[], none, 0⟩

/-- Push a number of operands. -/
def push (control : Control) (count : Nat) : Control :=
  { control with height := control.height + count }

/-- Remove operands, at most those of the innermost region; none without a label. -/
def remove (control : Control) (count : Nat) : Control :=
  match control.labels with
  | [] => control
  | label :: _ =>
    { control with height := min (max label.limit (control.height - count)) control.height }

/-- Remove the operands of several signatures, one after the other. -/
def removeAll (control : Control) (signatures : List (List ValueType)) : Control :=
  signatures.foldl (fun current signature => current.remove signature.length) control

def keepTable (control : Control) (types : Option (List ValueType)) : Control :=
  { control with tableTypes := types }

def enter (control : Control) (kind : LabelKind) (params results : List ValueType) : Control :=
  { control with
    labels := ⟨kind, params, results, control.height, false⟩ :: control.labels
    height := control.height + params.length }

def markUnreachable (control : Control) : Control :=
  match control.labels with
  | [] => control
  | label :: outer =>
    { control with
      labels := { label with unreachable := true } :: outer
      height := min label.limit control.height }

/-- Begin another arm with a number of operands. -/
def beginArm (control : Control) (kind : LabelKind) (count : Nat) : Control :=
  match control.labels with
  | [] => control
  | label :: outer =>
    { control with
      labels := { label with kind := kind, unreachable := false } :: outer
      height := min label.limit control.height + count }

def leave (control : Control) : Control :=
  match control.labels with
  | [] => control
  | label :: outer =>
    { control with
      labels := outer
      height := min label.limit control.height + label.results.length }

/-- Go on with what is found, or end early. -/
def following {α : Type} (control : Control) (found : Option α) (next : α → Control) : Control :=
  match found with
  | none => control
  | some value => next value

/-- Go on with the label that a depth names. -/
def atLabel (control : Control) (depth : Nat) (next : Label → Control) : Control :=
  control.following control.labels[depth]? next

/-- End the innermost region, which may still hold results. -/
def close (control : Control) (label : Label) : Control :=
  (control.remove label.results.length).leave

/-- End an arm of the innermost region and begin the next one. -/
def nextArm (control : Control) (label : Label) (kind : LabelKind) (count : Nat) : Control :=
  (control.remove label.results.length).beginArm kind count

def elseArm (control : Control) : Control :=
  control.atLabel 0 fun label => control.nextArm label .elseArm label.params.length

def apply (control : Control) (effect : Effect) : Control :=
  (control.removeAll effect.pops).push effect.pushes.length

/-- A call of a registered type, whose operands and reference are removed. -/
def removeCallee (control : Control) (type : FuncType) : Control :=
  (control.remove 1).remove type.params.length

end Control

/-- The effect of a step on what is left of a state without the types on its stack. -/
def Operation.control (env : Environment) (control : Control) : Operation → Control
  | beginFunction results => Control.empty.enter .function [] results
  | beginInitExpr type => Control.empty.enter .initExpr [] [type]
  | endFunction | endInitExpr => control.atLabel 0 control.close
  | enter opening params results =>
    (control.removeAll (opening.pops params)).enter opening.label params results
  | elseArm => control.elseArm
  | endBlock =>
    control.atLabel 0 fun label =>
      if label.kind = .ifThen then control.elseArm.close label else control.close label
  | catchArm values =>
    control.atLabel 0 fun label => control.nextArm label .catchArm values.length
  | delegate depth =>
    control.atLabel (min (depth + 1) Check.greatestDepth) fun _ =>
      control.atLabel 0 control.close
  | rethrow depth =>
    control.atLabel depth fun label =>
      if label.kind = .catchArm then control.markUnreachable else control
  | throwTag values => (control.remove values.length).markUnreachable
  | throwRef => (control.remove 1).markUnreachable
  | beginTryTable params => control.remove params.length
  | tryTableCatch _ _ => control
  | finishTryTable params results => control.enter .tryTable params results
  | br depth => control.atLabel depth fun _ => control.markUnreachable
  | brIf depth =>
    (control.remove 1).atLabel depth fun label =>
      ((control.remove 1).remove label.branchTypes.length).push label.branchTypes.length
  | beginBrTable => (control.keepTable none).remove 1
  | brTableTarget depth =>
    control.atLabel depth fun label =>
      control.keepTable (some (control.tableTypes.getD label.branchTypes))
  | endBrTable => (control.keepTable none).markUnreachable
  | brOnNull depth => (control.remove 1).atLabel depth fun _ => (control.remove 1).push 1
  | brOnNonNull _ => control.remove 1
  | callRef index =>
    control.following (env.types.get? index) fun type =>
      (control.removeCallee type).push type.results.length
  | returnValues =>
    control.following control.labels.getLast? fun label =>
      (control.remove label.results.length).markUnreachable
  | returnCall params _ => (control.remove params.length).markUnreachable
  | returnCallIndirect params _ _ =>
    ((control.remove 1).remove params.length).markUnreachable
  | returnCallRef index =>
    control.following (env.types.get? index) fun type =>
      (control.removeCallee type).markUnreachable
  | plain instruction => control.apply instruction.effect
  | lane op _ | shuffle op _ => control.apply (Plain.numeric op).effect
  | laneAccess op memory _ => control.apply (Plain.access op memory).effect
  | drop => control.remove 1
  | select _ => (control.remove 3).push 1
  | unreachable => control.markUnreachable
  | refIsNull | refAsNonNull => (control.remove 1).push 1
  | checkType _ _ | checkTypes _ _ => control
  | dropTypes count => control.remove count

/-! ## Changes of the state -/

namespace State

variable (state : State)

theorem control_push (types : List ValueType) :
    (state.push types).control = state.control.push types.length := by
  simp only [control, push, Control.push, List.length_append]

theorem control_remove (count : Nat) :
    (state.remove count).control = state.control.remove count := by
  rcases opened : state.labels with _ | ⟨label, outer⟩
  · rw [remove_of_closed opened]
    simp only [Control.remove, control, opened]
  · rw [remove_of_open opened]
    simp only [Control.remove, control, discard, limit, opened, List.length_take]

theorem control_enter (kind : LabelKind) (params results : List ValueType) :
    (state.enter kind params results).control = state.control.enter kind params results := by
  simp only [control, enter, Control.enter, List.length_append]

theorem control_mark_unreachable :
    state.markUnreachable.control = state.control.markUnreachable := by
  rcases opened : state.labels with _ | ⟨label, outer⟩
  · simp only [markUnreachable, Control.markUnreachable, control, opened]
  · simp only [markUnreachable, Control.markUnreachable, control, opened, List.length_take]

theorem control_begin_arm (kind : LabelKind) (types : List ValueType) :
    (state.beginArm kind types).control = state.control.beginArm kind types.length := by
  rcases opened : state.labels with _ | ⟨label, outer⟩
  · simp only [beginArm, Control.beginArm, control, opened]
  · simp only [beginArm, Control.beginArm, control, opened, List.length_append, List.length_take]

theorem control_leave : state.leave.control = state.control.leave := by
  rcases opened : state.labels with _ | ⟨label, outer⟩
  · simp only [leave, Control.leave, control, opened]
  · simp only [leave, Control.leave, control, opened, List.length_append, List.length_take]

end State

/-! ## Checks -/

namespace Check

variable {env : Environment} {state : State}

/-- To go on with an answer that the control part alone decides. -/
theorem ask_bind_control {α : Type} {question : Environment → State → Except Complaint α}
    {found : Option α} (decided : (question env state).toOption = found) {next : α → Check Unit}
    {lead : α → Control} (rest : ∀ value, (next value env state).state.control = lead value) :
    ((ask question >>= next) env state).state.control = state.control.following found lead := by
  subst decided
  rcases answer : question env state with complaint | value
  · rw [ask_bind_of_error answer]
    rfl
  · rw [ask_bind_of_ok answer]
    exact rest value

theorem resolve_bind_control (depth : Nat) {next : Label → Check Unit} {lead : Label → Control}
    (rest : ∀ label, (next label env state).state.control = lead label) :
    ((resolve depth >>= next) env state).state.control = state.control.atLabel depth lead :=
  ask_bind_control (State.resolve_to_option state depth) rest

theorem resolve_type_bind_control (index : Nat) {next : FuncType → Check Unit}
    {lead : FuncType → Control} (rest : ∀ type, (next type env state).state.control = lead type) :
    ((resolveType index >>= next) env state).state.control =
      state.control.following (env.types.get? index) lead := by
  apply ask_bind_control
  · cases env.types.get? index <;> rfl
  · exact rest

theorem set_unreachable_control :
    (setUnreachable env state).state.control = state.control.markUnreachable := by
  rw [set_unreachable_state, State.control_mark_unreachable]

theorem pop_signature_control (signature : List ValueType) (construct : String) :
    (popSignature signature construct env state).state.control =
      state.control.remove signature.length := by
  rw [pop_signature_state, State.control_remove]

theorem throw_values_control (values : List ValueType) (construct : String) :
    (throwValues values construct env state).state.control =
      (state.control.remove values.length).markUnreachable := by
  rw [throwValues, also_state, set_unreachable_control, pop_signature_control]

theorem pop_signatures_control (signatures : List (List ValueType)) (construct : String) :
    (popSignatures signatures construct env state).state.control =
      state.control.removeAll signatures := by
  induction signatures generalizing state with
  | nil => rfl
  | cons signature rest ih =>
      show (popSignatures rest construct env
        (popSignature signature construct env state).state).state.control = _
      rw [ih, pop_signature_control]
      rfl

theorem effect_control (effect : Effect) :
    (effect.check env state).state.control = state.control.apply effect := by
  rw [Effect.check, also_state, push_types_apply, State.control_push, pop_signatures_control]
  rfl

theorem leave_region_control (label : Label) (construct last : String) :
    (leaveRegion label construct last env state).state.control = state.control.close label := by
  rw [leave_region_state, State.control_leave, State.control_remove]
  rfl

theorem close_under_control (rule : LabelRule) (construct last : String) :
    (closeUnder rule construct last env state).state.control =
      state.control.atLabel 0 state.control.close := by
  apply resolve_bind_control
  intro label
  rw [also_state, require_kind_state, leave_region_control]

theorem next_arm_control (rule : LabelRule) (label : Label) (construct : String)
    (kind : LabelKind) (types : List ValueType) :
    (nextArm rule label construct kind types env state).state.control =
      state.control.nextArm label kind types.length := by
  rw [next_arm_state, State.control_begin_arm, State.control_remove]
  rfl

theorem else_arm_control : (elseArm env state).state.control = state.control.elseArm := by
  apply resolve_bind_control
  intro label
  rw [next_arm_control]

theorem end_region_control :
    (endRegion env state).state.control = Operation.endBlock.control env state.control := by
  apply resolve_bind_control
  intro label
  split
  · rw [also_state, leave_region_control, else_arm_control]
  · rw [leave_region_control]

theorem rethrow_control (depth : Nat) :
    (rethrow depth env state).state.control =
      (Operation.rethrow depth).control env state.control := by
  have decided := state.check_rethrow_ok_iff depth
  have labels : state.control.labels = state.labels := rfl
  simp only [Operation.control, Control.atLabel, Control.following, labels]
  cases answer : state.checkRethrow depth with
  | error complaint =>
      rw [rethrow, ask_bind_of_error answer]
      rw [answer] at decided
      cases found : state.labels[depth]? with
      | none => rfl
      | some label =>
          have other : label.kind ≠ .catchArm := by
            intro same
            cases decided.mpr ⟨label, found, same⟩
          simp only [if_neg other]
  | ok _ =>
      obtain ⟨label, found, same⟩ := decided.mp answer
      rw [rethrow, ask_bind_of_ok answer, set_unreachable_control]
      simp only [found, if_pos same]

/-- A noted verdict does not change where the rest of a check leads from. -/
theorem attempt_bind_state (check : Check Unit) (next : Verdict → Check Unit) :
    ((attempt check >>= next) env state).state =
      (next (check env state).result env (check env state).state).state := by
  rw [attempt_bind_apply]

/-- A reference is removed whether or not it is one. -/
theorem pop_reference_bind_state (construct : String) (next : ValueType × Verdict → Check Unit) :
    ∃ type verdict, ((popReference construct >>= next) env state).state =
      (next (type, verdict) env (state.remove 1)).state := by
  have removed := @pop_reference_apply env state construct
  rw [bind_apply_ok (congrArg Outcome.result removed), removed]
  exact ⟨_, _, rfl⟩

/-- A reference makes place for one value, whatever it was. -/
theorem reference_replaced_control (construct : String) (result : ValueType → ValueType) :
    ((popReference construct >>= fun popped =>
      (settle popped.2).also (pushTypes [result popped.1])) env state).state.control =
        (state.control.remove 1).push 1 := by
  obtain ⟨type, verdict, reached⟩ := pop_reference_bind_state construct _
  rw [reached, also_state, push_types_apply, State.control_push, ← State.control_remove]
  rfl

theorem leave_with_control (results : List ValueType) :
    (leaveWith results env state).state.control = state.control.markUnreachable := by
  rcases found : state.outermost with complaint | label
  · have closed : state.labels = [] := by
      have missing := state.outermost_to_option
      rw [found] at missing
      exact List.getLast?_eq_none_iff.mp missing.symm
    rw [leaveWith, outermost, ask_bind_of_error found]
    simp only [Control.markUnreachable, State.control, closed]
  · rw [leaveWith, outermost, ask_bind_of_ok found, also_state, ask_state,
      set_unreachable_control]

theorem tail_call_control (construct : String) (pops : List (List ValueType))
    (results : List ValueType) :
    (tailCall construct pops results env state).state.control =
      (state.control.removeAll pops).markUnreachable := by
  rw [tailCall, also_state, leave_with_control, pop_signatures_control]

theorem all_lanes_state (lanes : List Nat) (count : Nat) (fault : Fault) :
    (all (lanes.map (checkLane count · fault)) env state).state = state := by
  induction lanes with
  | nil => rfl
  | cons lane rest ih => exact ih

end Check

/-- A step has its effect on the control part of a state whatever its verdict. -/
theorem Operation.run_control (operation : Operation) (env : Environment) (state : State) :
    (operation.run env state).state.control = operation.control env state.control := by
  cases operation with
  | beginFunction results => rfl
  | beginInitExpr type => rfl
  | endFunction => exact Check.close_under_control _ _ _
  | endInitExpr => exact Check.close_under_control _ _ _
  | enter opening params results =>
      show ((Check.popSignatures _ _ env state).state.enter _ _ _).control = _
      rw [State.control_enter, Check.pop_signatures_control]
      rfl
  | elseArm => exact Check.else_arm_control
  | endBlock => exact Check.end_region_control
  | catchArm values => exact Check.resolve_bind_control 0 fun _ => Check.next_arm_control _ _ _ _ _
  | delegate depth => exact Check.resolve_bind_control _ fun _ => Check.close_under_control _ _ _
  | rethrow depth => exact Check.rethrow_control depth
  | throwTag values => exact Check.throw_values_control _ _
  | throwRef => exact Check.throw_values_control _ _
  | beginTryTable params => exact Check.pop_signature_control _ _
  | tryTableCatch values depth => rfl
  | finishTryTable params results => exact state.control_enter _ _ _
  | br depth =>
      apply Check.resolve_bind_control
      intro label
      rw [Check.also_state, Check.check_signature_state, Check.set_unreachable_control]
  | brIf depth =>
      rw [run, Check.brIf, Check.attempt_bind_state, Check.pop_signature_state, Operation.control,
        ← State.control_remove]
      apply Check.resolve_bind_control
      intro label
      show ((Check.popSignature _ _ env (state.remove 1)).state.push _).control = _
      rw [State.control_push, Check.pop_signature_control]
  | beginBrTable => exact Check.pop_signature_control _ _
  | brTableTarget depth =>
      apply Check.resolve_bind_control
      intro label
      show State.control { (Check.checkSignature _ _ env state).state with tableTypes := _ } = _
      rw [Check.check_signature_state]
      rfl
  | endBrTable => exact Check.set_unreachable_control
  | brOnNull depth =>
      obtain ⟨type, verdict, reached⟩ := Check.pop_reference_bind_state "br_on_null" _
      rw [run, Check.brOnNull, reached, Operation.control, ← State.control_remove]
      apply Check.resolve_bind_control
      intro label
      show ((Check.checkSignature _ _ env (state.remove 1)).state.push _).control = _
      rw [State.control_push, Check.check_signature_state]
      rfl
  | brOnNonNull depth =>
      obtain ⟨type, verdict, reached⟩ := Check.pop_reference_bind_state "br_on_non_null" _
      rw [run, Check.brOnNonNull, reached, Operation.control, ← State.control_remove]
      dsimp only
      -- what follows the removal only asks
      rcases found : (state.remove 1).resolve depth with complaint | label
      · rw [Check.resolve, Check.ask_bind_of_error found]
      · rw [Check.resolve, Check.ask_bind_of_ok found]
        cases label.branchTypes.getLast? <;> rfl
  | callRef index =>
      apply Check.resolve_type_bind_control
      exact fun type => Check.effect_control _
  | returnValues =>
      apply Check.ask_bind_control state.outermost_to_option
      intro label
      rw [Check.also_state, Check.set_unreachable_control, Check.pop_signature_control]
  | returnCall params results => exact Check.tail_call_control _ _ _
  | returnCallIndirect params results table => exact Check.tail_call_control _ _ _
  | returnCallRef index =>
      apply Check.resolve_type_bind_control
      exact fun type => Check.tail_call_control _ _ _
  | plain instruction => exact Check.effect_control _
  | lane op index => exact Check.effect_control _
  | shuffle op lanes =>
      rw [run, Check.also_state, Check.all_lanes_state]
      exact Check.effect_control _
  | laneAccess op memory index => exact Check.effect_control _
  | drop =>
      rw [run, Check.drop, Check.attempt_bind_state, Check.explain_state, Check.drop_types_state,
        State.control_remove]
      rfl
  | select declared =>
      rw [run, Check.select_state, State.control_push, State.control_remove]
      rfl
  | unreachable => exact Check.set_unreachable_control
  | refIsNull => exact Check.reference_replaced_control "ref.is_null" fun _ => .i32
  | refAsNonNull => exact Check.reference_replaced_control "ref.as_non_null" ValueType.asNonNull
  | checkType actual expected => rfl
  | checkTypes actual expected => rfl
  | dropTypes count =>
      rw [run, Check.drop_types_state, State.control_remove]
      rfl

theorem State.after_control (state : State) (env : Environment) (operations : List Operation) :
    (state.after env operations).control =
      operations.foldl (fun control operation => operation.control env control) state.control := by
  induction operations generalizing state with
  | nil => rfl
  | cons operation rest ih => rw [after_cons, ih, operation.run_control, List.foldl_cons]

/-- Two states with the same labels, the same table in progress and stacks of equal height,
whatever types these hold: every step has the same effect on the three in both states,
whatever the two verdicts, and so has every sequence of steps. -/
theorem control_ignores_operand_types (env : Environment) {state other : State}
    (labels : other.labels = state.labels) (table : other.tableTypes = state.tableTypes)
    (height : other.operands.length = state.operands.length) :
    (∀ operation : Operation,
      (operation.run env state).state.control = operation.control env state.control ∧
        (operation.run env other).state.control = operation.control env state.control) ∧
      ∀ operations : List Operation,
        (other.after env operations).labels = (state.after env operations).labels ∧
          (other.after env operations).tableTypes = (state.after env operations).tableTypes ∧
          (other.after env operations).operands.length =
            (state.after env operations).operands.length := by
  have same : other.control = state.control := by
    rw [State.control, State.control, labels, table, height]
  constructor
  · intro operation
    rw [operation.run_control, operation.run_control, same]
    exact ⟨rfl, rfl⟩
  · intro operations
    have reached : (other.after env operations).control = (state.after env operations).control := by
      rw [State.after_control, State.after_control, same]
    exact ⟨congrArg Control.labels reached, congrArg Control.tableTypes reached,
      congrArg Control.height reached⟩

/-- A branch, a call and a selection, on operands that fit and on operands none of which
fits. -/
theorem failing_call_keeps_control :
    let env : Environment := ⟨.empty, .all⟩
    let labels : List Label :=
      [⟨.block, [], [.i64], 1, false⟩, ⟨.function, [], [.f32], 0, false⟩]
    let state : State := ⟨[.f32, .i32, .i64, .i32], labels, none⟩
    let other : State := ⟨[.v128, .exnref, .f32, .funcref true], labels, none⟩
    let operations : List Operation :=
      [.brIf 0, .plain (.call [.i32, .i64] [.f64]), .plain (.constant .f64),
        .plain (.constant .i32), .select none, .drop, .plain (.constant .i64), .br 0, .endBlock]
    (state.replies env operations).all (fun reply => reply.1.isOk) = true ∧
      (other.replies env operations).all (fun reply => reply.1.isOk) = false ∧
      (other.after env operations).labels = (state.after env operations).labels ∧
      (other.after env operations).operands.length =
        (state.after env operations).operands.length := by
  intro env labels state other operations
  obtain ⟨-, reached⟩ := @control_ignores_operand_types env state other rfl rfl rfl
  obtain ⟨sameLabels, -, sameHeight⟩ := reached operations
  exact ⟨by decide, by decide, sameLabels, sameHeight⟩

end WasmTyping
