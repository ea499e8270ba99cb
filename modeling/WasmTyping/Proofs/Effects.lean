import WasmTyping.Checker.Operation

/-!
# What checks do to the state and to the verdict

Each way of building a check is described by the state it leaves and the verdict
it reaches. The facts about single operations follow from these; no later proof
opens the definition of a check again.
-/

set_option autoImplicit false

namespace WasmTyping

@[simp] theorem Verdict.ok_and (second : Verdict) : Verdict.and (.ok ()) second = second := rfl

@[simp] theorem Verdict.and_ok (first : Verdict) : Verdict.and first (.ok ()) = first := by
  cases first <;> rfl

theorem Verdict.and_assoc (first second third : Verdict) :
    Verdict.and (Verdict.and first second) third = Verdict.and first (Verdict.and second third) := by
  cases first <;> rfl

theorem Verdict.and_eq_ok_iff (first second : Verdict) :
    Verdict.and first second = .ok () ↔ first = .ok () ∧ second = .ok () := by
  cases first <;> simp [Verdict.and]

theorem Environment.check_type_ok_iff (env : Environment) (actual expected : ValueType) :
    env.checkType actual expected = .ok () ↔ env.types.compatible actual expected = true := by
  unfold checkType
  split
  · simp_all
  · split <;> simp_all

namespace State

/-- Remove operands where a label is open; without one nothing is removed. -/
def remove (state : State) (count : Nat) : State :=
  match state.labels with
  | [] => state
  | _ :: _ => state.discard count

variable {state : State} {label : Label} {outer : List Label}

theorem remove_of_open (opened : state.labels = label :: outer) (count : Nat) :
    state.remove count = state.discard count := by
  simp only [remove, opened]

theorem remove_of_closed (closed : state.labels = []) (count : Nat) :
    state.remove count = state := by
  simp only [remove, closed]

@[simp] theorem remove_labels (state : State) (count : Nat) :
    (state.remove count).labels = state.labels := by
  unfold remove
  split <;> rfl

@[simp] theorem remove_table_types (state : State) (count : Nat) :
    (state.remove count).tableTypes = state.tableTypes := by
  unfold remove
  split <;> rfl

theorem resolve_eq_ok_iff (state : State) (depth : Nat) (label : Label) :
    state.resolve depth = .ok label ↔ state.labels[depth]? = some label := by
  unfold resolve label?
  rcases state.labels[depth]? with _ | found
  · simp only [reduceCtorEq, iff_false]
    split <;> simp
  · simp

theorem resolve_to_option (state : State) (depth : Nat) :
    (state.resolve depth).toOption = state.labels[depth]? := by
  unfold resolve label?
  cases state.labels[depth]? with
  | some label => rfl
  | none => cases state.labels <;> rfl

theorem resolve_zero (opened : state.labels = label :: outer) :
    state.resolve 0 = .ok label := by
  rw [resolve_eq_ok_iff, opened]
  rfl

theorem resolve_of_closed (closed : state.labels = []) (depth : Nat) :
    state.resolve depth = .error ⟨.noOpenBlock, .noOpenLabel⟩ := by
  simp [resolve, label?, closed]

theorem outermost_eq_ok_iff (state : State) (label : Label) :
    state.outermost = .ok label ↔ state.labels.getLast? = some label := by
  unfold outermost
  cases state.labels.getLast? <;> simp

theorem outermost_to_option (state : State) :
    state.outermost.toOption = state.labels.getLast? := by
  unfold outermost
  cases state.labels.getLast? <;> rfl

theorem outermost_of_closed (closed : state.labels = []) :
    state.outermost = .error ⟨.noOpenBlock, .noOpenLabel⟩ := by
  simp [outermost, closed]

/-- Only the label of a `catch` region can be rethrown to. -/
theorem check_rethrow_ok_iff (state : State) (depth : Nat) :
    state.checkRethrow depth = .ok () ↔
      ∃ label, state.labels[depth]? = some label ∧ label.kind = .catchArm := by
  simp only [← resolve_eq_ok_iff]
  unfold checkRethrow
  cases state.resolve depth with
  | error complaint => simp
  | ok label =>
      dsimp only
      split
      · simp_all
      · split <;> simp_all

/-- What can be seen can be removed. -/
theorem discard_verdict_succ (opened : state.labels ≠ []) (depth : Nat) :
    discardVerdict state (depth + 1) = Verdict.of (state.peek depth) := by
  obtain ⟨label, outer, labels⟩ := List.exists_cons_of_ne_nil opened
  unfold discardVerdict isUnreachable
  simp only [peek, labels]
  by_cases within : depth < state.region.length
  · have enough : ¬state.region.length < depth + 1 := by omega
    have found : depth < state.region.reverse.length := by simpa using within
    rw [List.getElem?_eq_getElem found]
    simp [enough, Verdict.of]
  · have short : state.region.length < depth + 1 := by omega
    have missing : state.region.reverse[depth]? = none := by
      apply List.getElem?_eq_none
      simpa using within
    rw [missing]
    cases label.unreachable <;> simp [short, Verdict.of]

/-- Operands that are removed before the region is cut back make no difference. -/
theorem mark_unreachable_remove (state : State) (count : Nat) :
    (state.remove count).markUnreachable = state.markUnreachable := by
  rcases opened : state.labels with _ | ⟨label, outer⟩
  · rw [remove_of_closed opened]
  · rw [remove_of_open opened]
    have cut : label.limit ≤ max label.limit (state.operands.length - count) :=
      Nat.le_max_left _ _
    simp only [markUnreachable, discard, limit, opened, List.take_take, Nat.min_eq_left cut]

/-- A reference that passes can be seen. -/
theorem peek_of_check_reference {construct : String}
    (passed : state.checkReference construct = .ok ()) :
    Verdict.of (state.peek 0) = .ok () := by
  unfold checkReference at passed
  cases seen : state.peek 0 with
  | error fault => simp [seen] at passed
  | ok type => rfl

end State

namespace Check

variable {α β : Type} (env : Environment) (state : State)

/-! ## Ways of going on -/

@[simp] theorem settle_apply (verdict : Verdict) :
    settle verdict env state = ⟨verdict, state, []⟩ := rfl

@[simp] theorem act_apply (change : State → State) (log : State → List Event) :
    act change log env state = ⟨.ok (), change state, log state⟩ := rfl

@[simp] theorem modify_apply (change : State → State) :
    modify change env state = ⟨.ok (), change state, []⟩ := rfl

@[simp] theorem explain_result (verdict : Verdict) (diagnostic : State → Diagnostic) :
    (explain verdict diagnostic env state).result = verdict := rfl

@[simp] theorem explain_state (verdict : Verdict) (diagnostic : State → Diagnostic) :
    (explain verdict diagnostic env state).state = state := rfl

@[simp] theorem ask_state (question : Environment → State → Except Complaint α) :
    (ask question env state).state = state := rfl

@[simp] theorem also_state (first second : Check Unit) :
    ((first.also second) env state).state = (second env (first env state).state).state := rfl

@[simp] theorem also_result (first second : Check Unit) :
    ((first.also second) env state).result =
      Verdict.and (first env state).result (second env (first env state).state).result := rfl

@[simp] theorem all_nil_apply : all [] env state = ⟨.ok (), state, []⟩ := rfl

@[simp] theorem all_cons (check : Check Unit) (rest : List (Check Unit)) :
    all (check :: rest) = check.also (all rest) := rfl

theorem also_assoc (first second third : Check Unit) :
    (first.also second).also third = first.also (second.also third) := by
  funext env state
  ext1
  · exact Verdict.and_assoc _ _ _
  · rfl
  · exact List.append_assoc _ _ _

theorem all_singleton (check : Check Unit) : all [check] = check := by
  funext env state
  ext1
  · exact Verdict.and_ok _
  · rfl
  · exact List.append_nil _

theorem all_append (first second : List (Check Unit)) :
    all (first ++ second) = (all first).also (all second) := by
  induction first with
  | nil => rfl
  | cons check rest ih => rw [List.cons_append, all_cons, all_cons, also_assoc, ih]

theorem observe_bind_apply (view : Environment → State → α) (next : α → Check β) :
    (observe view >>= next) env state = next (view env state) env state := by
  have seen : (observe view env state).result = .ok (view env state) := rfl
  rw [bind_apply_ok seen]
  rfl

theorem attempt_bind_apply (check : Check Unit) (next : Verdict → Check β) :
    (attempt check >>= next) env state =
      let before := check env state
      let after := next before.result env before.state
      ⟨after.result, after.state, before.events ++ after.events⟩ := by
  have noted : (attempt check env state).result = .ok (check env state).result := rfl
  rw [bind_apply_ok noted]
  rfl

variable {env state}

theorem ask_result_ok_iff {question : Environment → State → Except Complaint α} {value : α} :
    (ask question env state).result = .ok value ↔ question env state = .ok value := by
  unfold ask
  cases question env state with
  | error complaint => exact ⟨nofun, nofun⟩
  | ok answer =>
      show Except.ok answer = Except.ok value ↔ _
      simp only [Except.ok.injEq]

theorem ask_bind_of_ok {question : Environment → State → Except Complaint α}
    {next : α → Check β} {value : α} (answered : question env state = .ok value) :
    (ask question >>= next) env state = next value env state := by
  have result : (ask question env state).result = .ok value := by
    simp only [ask, answered]
    rfl
  have events : (ask question env state).events = [] := by
    simp only [ask, answered]
  rw [bind_apply_ok result, ask_state, events]
  rfl

theorem ask_bind_of_error {question : Environment → State → Except Complaint α}
    {next : α → Check β} {complaint : Complaint}
    (refused : question env state = .error complaint) :
    (ask question >>= next) env state =
      ⟨.error complaint.fault, state, [.reported complaint.diagnostic]⟩ := by
  have result : (ask question env state).result = .error complaint.fault := by
    simp only [ask, refused]
    rfl
  have events : (ask question env state).events = [.reported complaint.diagnostic] := by
    simp only [ask, refused]
  rw [bind_apply_error result, ask_state, events]

/-- A check that always fails. -/
def Fatal (check : Check Unit) : Prop :=
  ∀ (env : Environment) (state : State), ∃ fault, (check env state).result = .error fault

namespace Fatal

theorem settle (fault : Fault) : (Check.settle (.error fault)).Fatal :=
  fun _ _ => ⟨fault, rfl⟩

theorem also {first : Check Unit} (fatal : first.Fatal) (second : Check Unit) :
    (first.also second).Fatal := by
  intro env state
  obtain ⟨fault, failed⟩ := fatal env state
  rw [also_result, failed]
  exact ⟨fault, rfl⟩

theorem ask_bind {question : Environment → State → Except Complaint α} {next : α → Check Unit}
    (fatal : ∀ value, (next value).Fatal) : (Check.ask question >>= next).Fatal := by
  intro env state
  rcases answer : question env state with complaint | value
  · rw [ask_bind_of_error answer]
    exact ⟨_, rfl⟩
  · rw [ask_bind_of_ok answer]
    exact fatal value env state

end Fatal

/-! ## Operands -/

section Operands

variable {label : Label} {outer : List Label}

theorem innermost_bind_of_open {next : Label → Check β} (opened : state.labels = label :: outer) :
    (innermost >>= next) env state = next label env state :=
  ask_bind_of_ok (State.resolve_zero opened)

theorem innermost_bind_of_closed {next : Label → Check β} (closed : state.labels = []) :
    (innermost >>= next) env state =
      ⟨.error .noOpenLabel, state, [.reported .noOpenBlock]⟩ := by
  unfold innermost resolve
  rw [ask_bind_of_error (State.resolve_of_closed closed 0)]

theorem resolve_bind_of_some {depth : Nat} {next : Label → Check β}
    (found : state.labels[depth]? = some label) :
    (resolve depth >>= next) env state = next label env state :=
  ask_bind_of_ok ((state.resolve_eq_ok_iff depth label).mpr found)

theorem resolve_bind_of_none {depth : Nat} {next : Label → Check β}
    (missing : state.labels[depth]? = none) :
    ∃ fault events, (resolve depth >>= next) env state = ⟨.error fault, state, events⟩ := by
  cases answer : state.resolve depth with
  | error complaint => exact ⟨_, _, ask_bind_of_error answer⟩
  | ok label =>
      rw [state.resolve_eq_ok_iff, missing] at answer
      cases answer

theorem outermost_bind_of_some {next : Label → Check β}
    (last : state.labels.getLast? = some label) :
    (outermost >>= next) env state = next label env state :=
  ask_bind_of_ok ((state.outermost_eq_ok_iff label).mpr last)

@[simp] theorem check_signature_state (signature : List ValueType) (construct : String) :
    (checkSignature signature construct env state).state = state := by
  rw [checkSignature, observe_bind_apply, explain_state]

@[simp] theorem check_signature_result (signature : List ValueType) (construct : String) :
    (checkSignature signature construct env state).result =
      signatureVerdict env state signature := by
  rw [checkSignature, observe_bind_apply, explain_result]

theorem drop_types_of_open (opened : state.labels = label :: outer) (count : Nat) :
    dropTypes count env state = ⟨discardVerdict state count, state.discard count, []⟩ := by
  rw [dropTypes, innermost_bind_of_open opened, observe_bind_apply]
  rfl

theorem drop_types_of_closed (closed : state.labels = []) (count : Nat) :
    dropTypes count env state = ⟨.error .noOpenLabel, state, [.reported .noOpenBlock]⟩ := by
  rw [dropTypes, innermost_bind_of_closed closed]

@[simp] theorem drop_types_state (count : Nat) :
    (dropTypes count env state).state = state.remove count := by
  rcases opened : state.labels with _ | ⟨label, outer⟩
  · rw [drop_types_of_closed opened, State.remove_of_closed opened]
  · rw [drop_types_of_open opened, State.remove_of_open opened]

@[simp] theorem pop_signature_state (signature : List ValueType) (construct : String) :
    (popSignature signature construct env state).state = state.remove signature.length := by
  rw [popSignature, also_state, check_signature_state, drop_types_state]

/-- Operands that cannot be removed were found missing before. -/
theorem pop_signature_result (opened : state.labels ≠ []) (signature : List ValueType)
    (construct : String) :
    (popSignature signature construct env state).result =
      signatureVerdict env state signature := by
  obtain ⟨label, outer, labels⟩ := List.exists_cons_of_ne_nil opened
  rw [popSignature, also_result, check_signature_result, check_signature_state,
    drop_types_of_open labels]
  cases signature with
  | nil => rfl
  | cons expected rest =>
      rw [List.length_cons, State.discard_verdict_succ opened, signatureVerdict, operandVerdict]
      cases state.peek rest.length with
      | error fault => rfl
      | ok actual => exact Verdict.and_ok _

@[simp] theorem push_types_apply (types : List ValueType) :
    pushTypes types env state = ⟨.ok (), state.push types, []⟩ := rfl

@[simp] theorem check_region_empty_state (construct : String) :
    (checkRegionEmpty construct env state).state = state := by
  rcases opened : state.labels with _ | ⟨label, outer⟩
  · rw [checkRegionEmpty, innermost_bind_of_closed opened]
  · rw [checkRegionEmpty, innermost_bind_of_open opened, observe_bind_apply, explain_state]

theorem check_region_empty_result (opened : state.labels = label :: outer) (construct : String) :
    (checkRegionEmpty construct env state).result = emptyVerdict state := by
  rw [checkRegionEmpty, innermost_bind_of_open opened, observe_bind_apply, explain_result]

/-- The check of a reference operand that is then removed. -/
def referenceCheck (construct : String) : Check Unit :=
  (ask fun _ state => state.checkReference construct).also (dropTypes 1)

theorem pop_reference_apply (construct : String) :
    popReference construct env state =
      ⟨.ok (state.peekD 0, (referenceCheck construct env state).result), state.remove 1,
        (referenceCheck construct env state).events⟩ := by
  rw [popReference, observe_bind_apply, attempt_bind_apply]
  simp [pure_apply, referenceCheck]

theorem select_result (declared : Option ValueType) :
    (select declared env state).result =
      Verdict.and (selectVerdict env state declared).1 (dropTypes 3 env state).result := by
  rw [select, observe_bind_apply]
  simp

theorem select_state (declared : Option ValueType) :
    (select declared env state).state =
      (state.remove 3).push [(selectVerdict env state declared).2] := by
  rw [select, observe_bind_apply]
  simp

end Operands

/-! ## Regions -/

section Regions

variable {label : Label} {outer : List Label}

theorem set_unreachable_of_open (opened : state.labels = label :: outer) :
    setUnreachable env state = ⟨.ok (), state.markUnreachable, [.unreachable label.kind]⟩ := by
  rw [setUnreachable, innermost_bind_of_open opened, act_apply]

@[simp] theorem set_unreachable_state :
    (setUnreachable env state).state = state.markUnreachable := by
  rcases opened : state.labels with _ | ⟨label, outer⟩
  · rw [setUnreachable, innermost_bind_of_closed opened, State.markUnreachable, opened]
  · rw [set_unreachable_of_open opened]

theorem set_unreachable_result (opened : state.labels ≠ []) :
    (setUnreachable env state).result = .ok () := by
  obtain ⟨label, outer, labels⟩ := List.exists_cons_of_ne_nil opened
  rw [set_unreachable_of_open labels]

/-- A branch asks for the operands that its label carries and keeps them. -/
theorem br_result {depth : Nat} (found : state.labels[depth]? = some label) :
    (br depth env state).result = signatureVerdict env state label.branchTypes := by
  have opened : state.labels ≠ [] := List.ne_nil_of_mem (List.mem_of_getElem? found)
  rw [br, resolve_bind_of_some found, also_result, check_signature_result,
    check_signature_state, set_unreachable_result opened, Verdict.and_ok]

theorem br_state {depth : Nat} (found : state.labels[depth]? = some label) :
    (br depth env state).state = state.markUnreachable := by
  rw [br, resolve_bind_of_some found, also_state, check_signature_state, set_unreachable_state]

@[simp] theorem require_kind_state (rule : LabelRule) :
    (requireKind rule label env state).state = state := rfl

@[simp] theorem check_results_state (construct last : String) :
    (checkResults label construct last env state).state =
      state.remove label.results.length := by
  simp [checkResults]

@[simp] theorem leave_region_state (construct last : String) :
    (leaveRegion label construct last env state).state =
      (state.remove label.results.length).leave := by
  simp [leaveRegion, closeLabel]

theorem close_under_state_of_open (opened : state.labels = label :: outer) (rule : LabelRule)
    (construct last : String) :
    (closeUnder rule construct last env state).state =
      (state.remove label.results.length).leave := by
  rw [closeUnder, innermost_bind_of_open opened]
  simp

theorem close_under_state_of_closed (closed : state.labels = []) (rule : LabelRule)
    (construct last : String) :
    (closeUnder rule construct last env state).state = state := by
  rw [closeUnder, innermost_bind_of_closed closed]

@[simp] theorem next_arm_state (rule : LabelRule) (construct : String) (kind : LabelKind)
    (types : List ValueType) :
    (nextArm rule label construct kind types env state).state =
      (state.remove label.results.length).beginArm kind types := by
  simp [nextArm]

theorem else_arm_state_of_open (opened : state.labels = label :: outer) :
    (elseArm env state).state =
      (state.remove label.results.length).beginArm .elseArm label.params := by
  rw [elseArm, innermost_bind_of_open opened, next_arm_state]

end Regions

end Check

end WasmTyping
