import WasmTyping.Body.Validation
import WasmTyping.Proofs.InstructionSteps

/-!
# A step fails exactly when it speaks

A check can fail without a diagnostic, as the removal of operands does, and can
speak and go on, as an attempt does. The steps of instructions do neither: they end
in a fault exactly when they have reported something. Removal follows a comparison
that would have failed and spoken where there is too little to remove, and an
attempt that failed is settled later on.
-/

set_option autoImplicit false

namespace WasmTyping

/-! ## Candid outcomes -/

/-- An outcome is a fault exactly when something was reported. -/
def Outcome.Candid {α : Type} (outcome : Outcome α) : Prop :=
  (∃ fault, outcome.result = .error fault) ↔ outcome.diagnostics ≠ []

namespace Outcome

variable {α β : Type}

namespace Candid

variable {outcome : Outcome α}

theorem of_ok {value : α} (succeeded : outcome.result = .ok value)
    (silent : outcome.diagnostics = []) : outcome.Candid := by
  simp [Candid, succeeded, silent]

theorem of_error {fault : Fault} (failed : outcome.result = .error fault)
    (spoken : outcome.diagnostics ≠ []) : outcome.Candid := by
  simp [Candid, failed, spoken]

theorem silent {value : α} (candid : outcome.Candid) (succeeded : outcome.result = .ok value) :
    outcome.diagnostics = [] := by
  simpa [Candid, succeeded] using candid

theorem spoken {fault : Fault} (candid : outcome.Candid)
    (failed : outcome.result = .error fault) : outcome.diagnostics ≠ [] :=
  candid.mp ⟨fault, failed⟩

theorem silent_iff {outcome : Outcome Unit} (candid : outcome.Candid) :
    outcome.diagnostics = [] ↔ outcome.result = .ok () := by
  cases result : outcome.result with
  | error fault => simpa using candid.spoken result
  | ok value => simpa using candid.silent result

/-- To go on after silence is candid if what follows is. -/
theorem after_silence {before : Outcome β} (silent : before.diagnostics = [])
    (candid : outcome.Candid) :
    (Outcome.mk outcome.result outcome.state (before.events ++ outcome.events)).Candid := by
  have same : (Outcome.mk outcome.result outcome.state
      (before.events ++ outcome.events)).diagnostics = outcome.diagnostics := by
    unfold diagnostics at silent ⊢
    rw [List.filterMap_append, silent, List.nil_append]
  rw [Candid, same]
  exact candid

/-- After words only a fault is candid. -/
theorem after_words {before : Outcome β} {fault : Fault} {state : State} {events : List Event}
    {result : Except Fault α} (spoken : before.diagnostics ≠ [])
    (failed : result = .error fault) :
    (Outcome.mk result state (before.events ++ events)).Candid := by
  refine of_error failed ?_
  unfold diagnostics at spoken ⊢
  rw [List.filterMap_append]
  exact List.append_ne_nil_of_left_ne_nil spoken _

end Candid

end Outcome

/-- A check whose outcomes are all candid. -/
def Check.Candid {α : Type} (check : Check α) : Prop :=
  ∀ (env : Environment) (state : State), (check env state).Candid

namespace Check

variable {α β : Type}

/-! ## Ways of going on -/

namespace Candid

theorem observe (view : Environment → State → α) : (Check.observe view).Candid :=
  fun _ _ => .of_ok rfl rfl

theorem modify (change : State → State) : (Check.modify change).Candid :=
  fun _ _ => .of_ok rfl rfl

theorem ask (question : Environment → State → Except Complaint α) :
    (Check.ask question).Candid := by
  intro env state
  rcases answer : question env state with complaint | value
  · apply Outcome.Candid.of_error
    · simp only [Check.ask, answer]
      rfl
    · simp [Check.ask, answer, Outcome.diagnostics, Event.diagnostic?]
  · apply Outcome.Candid.of_ok
    · simp only [Check.ask, answer]
      rfl
    · simp [Check.ask, answer, Outcome.diagnostics]

theorem explain (verdict : Verdict) (diagnostic : State → Diagnostic) :
    (Check.explain verdict diagnostic).Candid := by
  intro env state
  cases verdict with
  | ok _ => exact .of_ok rfl rfl
  | error fault => exact .of_error rfl (List.cons_ne_nil _ _)

theorem bind {check : Check α} {next : α → Check β} (first : check.Candid)
    (rest : ∀ value, (next value).Candid) : (check >>= next).Candid := by
  intro env state
  have before := first env state
  rcases result : (check env state).result with fault | value
  · rw [bind_apply_error result]
    exact .of_error rfl (before.spoken result)
  · rw [bind_apply_ok result]
    exact .after_silence (before.silent result) (rest value env _)

theorem also_at {first second : Check Unit} {env : Environment} {state : State}
    (before : (first env state).Candid)
    (after : (second env (first env state).state).Candid) :
    ((first.also second) env state).Candid := by
  rw [also_apply]
  rcases result : (first env state).result with fault | _
  · exact .after_words (before.spoken result) rfl
  · exact .after_silence (before.silent result) after

theorem also {first second : Check Unit} (left : first.Candid) (right : second.Candid) :
    (first.also second).Candid :=
  fun env state => also_at (left env state) (right env _)

theorem all {checks : List (Check Unit)} (each : ∀ check ∈ checks, check.Candid) :
    (Check.all checks).Candid := by
  induction checks with
  | nil => exact fun _ _ => .of_ok rfl rfl
  | cons check rest ih =>
      rw [all_cons]
      apply also
      · exact each check List.mem_cons_self
      · exact ih fun other member => each other (List.mem_cons_of_mem _ member)

/-- What was said in an attempt that failed counts, because the check fails later. -/
theorem attempt_bind {check : Check Unit} {next : Verdict → Check Unit} (first : check.Candid)
    (kept : (next (.ok ())).Candid) (fatal : ∀ fault, (next (.error fault)).Fatal) :
    (attempt check >>= next).Candid := by
  intro env state
  have before := first env state
  rw [attempt_bind_apply]
  dsimp only
  rcases result : (check env state).result with fault | _
  · obtain ⟨later, failed⟩ := fatal fault env (check env state).state
    exact .after_words (before.spoken result) failed
  · exact .after_silence (before.silent result) (kept env _)

end Candid

end Check

/-! ## Operands -/

section Operands

variable {env : Environment} {state : State} (opened : state.labels ≠ [])

include opened

/-- Operands that pass a signature can be removed. -/
theorem discard_verdict_of_signature {signature : List ValueType}
    (passed : signatureVerdict env state signature = .ok ()) :
    discardVerdict state signature.length = .ok () := by
  cases signature with
  | nil => simp [discardVerdict]
  | cons expected rest =>
      rw [signatureVerdict, Verdict.and_eq_ok_iff, operandVerdict] at passed
      rw [List.length_cons, State.discard_verdict_succ opened]
      cases seen : state.peek rest.length with
      | error fault =>
          rw [seen] at passed
          cases passed.1
      | ok type => rfl

/-- The operands of `select` that were found can be removed. -/
theorem discard_verdict_of_select {declared : Option ValueType}
    (passed : (selectVerdict env state declared).1 = .ok ()) :
    discardVerdict state 3 = .ok () := by
  rw [State.discard_verdict_succ opened]
  unfold selectVerdict at passed
  cases declared with
  | some type =>
      simp only [Verdict.and_eq_ok_iff] at passed
      exact passed.1.2.2
  | none =>
      dsimp only at passed
      split at passed <;>
        · simp only [Verdict.and_eq_ok_iff] at passed
          exact passed.1.2.2

end Operands

namespace Check

/-- Removal is candid after a check that speaks where there is too little. -/
theorem also_drop_candid {first : Check Unit} {env : Environment} {state : State} {count : Nat}
    (candid : (first env state).Candid) (kept : (first env state).state = state)
    (enough : (first env state).result = .ok () → state.labels ≠ [] →
      discardVerdict state count = .ok ()) :
    ((first.also (dropTypes count)) env state).Candid := by
  rw [also_apply, kept]
  rcases result : (first env state).result with fault | _
  · exact .after_words (candid.spoken result) rfl
  · refine .after_silence (candid.silent result) ?_
    rcases labels : state.labels with _ | ⟨label, outer⟩
    · rw [drop_types_of_closed labels]
      exact .of_error rfl (List.cons_ne_nil _ _)
    · rw [drop_types_of_open labels, enough result (by simp [labels])]
      exact .of_ok rfl rfl

namespace Candid

theorem check_signature (signature : List ValueType) (construct : String) :
    (Check.checkSignature signature construct).Candid :=
  bind (observe _) fun _ => explain _ _

theorem pop_signature (signature : List ValueType) (construct : String) :
    (Check.popSignature signature construct).Candid := by
  intro env state
  apply also_drop_candid (check_signature signature construct env state)
  · exact check_signature_state signature construct
  · intro passed opened
    rw [check_signature_result] at passed
    exact discard_verdict_of_signature opened passed

theorem pop_signatures (signatures : List (List ValueType)) (construct : String) :
    (Check.popSignatures signatures construct).Candid := by
  apply all
  intro check member
  obtain ⟨signature, _, rfl⟩ := List.mem_map.mp member
  exact pop_signature signature construct

theorem push_types (types : List ValueType) : (Check.pushTypes types).Candid :=
  modify _

theorem check_region_empty (construct : String) : (Check.checkRegionEmpty construct).Candid :=
  bind (ask _) fun _ => bind (observe _) fun _ => explain _ _

theorem reference_check (construct : String) : (Check.referenceCheck construct).Candid := by
  intro env state
  apply also_drop_candid (ask _ env state) rfl
  intro passed opened
  rw [State.discard_verdict_succ opened]
  exact State.peek_of_check_reference (ask_result_ok_iff.mp passed)

/-- What was said about a reference counts, because the check fails later. -/
theorem pop_reference_bind {construct : String} {next : ValueType × Verdict → Check Unit}
    (kept : ∀ type, (next (type, .ok ())).Candid)
    (fatal : ∀ type fault, (next (type, .error fault)).Fatal) :
    (Check.popReference construct >>= next).Candid := by
  intro env state
  have before := reference_check construct env state
  have popped := @pop_reference_apply env state construct
  rw [bind_apply_ok (congrArg Outcome.result popped), popped]
  rcases result : (Check.referenceCheck construct env state).result with fault | _
  · obtain ⟨later, failed⟩ := fatal (state.peekD 0) fault env (state.remove 1)
    exact .after_words (before.spoken result) failed
  · exact .after_silence (before.silent result) (kept _ env _)

theorem drop : Check.drop.Candid := by
  intro env state
  rw [Check.drop, attempt_bind_apply]
  rcases labels : state.labels with _ | ⟨label, outer⟩
  · rw [drop_types_of_closed labels]
    exact .of_error rfl (List.cons_ne_nil _ _)
  · rw [drop_types_of_open labels]
    have silent : (Outcome.mk (discardVerdict state 1) (state.discard 1) []).diagnostics = [] :=
      rfl
    exact .after_silence silent (explain _ _ env _)

theorem select (declared : Option ValueType) : (Check.select declared).Candid := by
  intro env state
  rw [Check.select, observe_bind_apply]
  dsimp only
  rw [all_cons, all_cons, ← also_assoc]
  refine also_at (also_drop_candid (explain _ _ env state) rfl ?_) (push_types _ env _)
  intro passed opened
  exact discard_verdict_of_select opened passed

/-! ## Regions -/

theorem set_unreachable : Check.setUnreachable.Candid :=
  bind (ask _) fun _ => fun _ _ => .of_ok rfl rfl

theorem enter_region (kind : LabelKind) (params results : List ValueType) :
    (Check.enterRegion kind params results).Candid :=
  fun _ _ => .of_ok rfl rfl

theorem enter_body (kind : LabelKind) (results : List ValueType) :
    (Check.enterBody kind results).Candid :=
  also (modify _) (enter_region _ _ _)

theorem check_results (label : Label) (construct last : String) :
    (Check.checkResults label construct last).Candid :=
  also (pop_signature _ _) (check_region_empty _)

theorem close_label : Check.closeLabel.Candid := by
  intro env state
  refine .of_ok rfl ?_
  show (state.labels.head?.toList.map fun label => Event.closed label.kind).filterMap
    Event.diagnostic? = []
  cases state.labels <;> rfl

theorem leave_region (label : Label) (construct last : String) :
    (Check.leaveRegion label construct last).Candid :=
  also (check_results _ _ _) close_label

theorem close_under (rule : LabelRule) (construct last : String) :
    (Check.closeUnder rule construct last).Candid :=
  bind (ask _) fun _ => also (ask _) (leave_region _ _ _)

theorem next_arm (rule : LabelRule) (label : Label) (construct : String) (kind : LabelKind)
    (types : List ValueType) : (Check.nextArm rule label construct kind types).Candid := by
  apply all
  simp only [List.forall_mem_cons]
  exact ⟨ask _, check_results _ _ _, modify _, nofun⟩

theorem else_arm : Check.elseArm.Candid :=
  bind (ask _) fun _ => next_arm _ _ _ _ _

theorem end_region : Check.endRegion.Candid := by
  apply bind (ask _)
  intro label
  split
  · exact also else_arm (leave_region _ _ _)
  · exact leave_region _ _ _

theorem effect (effect : Effect) : effect.check.Candid :=
  also (pop_signatures _ _) (push_types _)

theorem tail_call (construct : String) (pops : List (List ValueType)) (results : List ValueType) :
    (Check.tailCall construct pops results).Candid :=
  also (pop_signatures _ _) (bind (ask _) fun _ => also (ask _) set_unreachable)

theorem catch_count (depth : Nat) : (Check.catchCount depth).Candid :=
  bind (ask _) fun _ => observe _

end Candid

end Check

/-- Every operation that is a step of the checker is candid, in every state. -/
theorem Operation.run_candid {operation : Operation} (step : operation.isQuery = false) :
    operation.run.Candid := by
  cases operation with
  | beginFunction results => exact .enter_body _ _
  | endFunction => exact .close_under _ _ _
  | beginInitExpr type => exact .enter_body _ _
  | endInitExpr => exact .close_under _ _ _
  | enter opening params results => exact .also (.pop_signatures _ _) (.enter_region _ _ _)
  | elseArm => exact .else_arm
  | endBlock => exact .end_region
  | catchArm values => exact .bind (.ask _) fun _ => .next_arm _ _ _ _ _
  | delegate depth => exact .bind (.ask _) fun _ => .close_under _ _ _
  | rethrow depth => exact .bind (.ask _) fun _ => .set_unreachable
  | throwTag values => exact .also (.pop_signature _ _) .set_unreachable
  | throwRef => exact .also (.pop_signature _ _) .set_unreachable
  | beginTryTable params => exact .pop_signature _ _
  | tryTableCatch values depth => exact .ask _
  | finishTryTable params results => exact .enter_region _ _ _
  | br depth => exact .bind (.ask _) fun _ => .also (.check_signature _ _) .set_unreachable
  | brIf depth =>
      refine .attempt_bind (.pop_signature _ _) ?_ ?_
      · refine .bind (.ask _) fun label => .all ?_
        simp only [List.forall_mem_cons]
        exact ⟨fun _ _ => .of_ok rfl rfl, .pop_signature _ _, .push_types _, nofun⟩
      · exact fun fault => .ask_bind fun label => .also (.settle fault) _
  | beginBrTable => exact .also (.modify _) (.pop_signature _ _)
  | brTableTarget depth =>
      refine .bind (.ask _) fun label => .all ?_
      simp only [List.forall_mem_cons]
      exact ⟨.check_signature _ _, .ask _, .modify _, nofun⟩
  | endBrTable => exact .also (.modify _) .set_unreachable
  | brOnNull depth =>
      refine .pop_reference_bind ?_ ?_
      · intro type
        refine .bind (.ask _) fun label => .all ?_
        simp only [List.forall_mem_cons]
        exact ⟨fun _ _ => .of_ok rfl rfl, .check_signature _ _, .push_types _, nofun⟩
      · exact fun type fault => .ask_bind fun label => .also (.settle fault) _
  | brOnNonNull depth =>
      refine .pop_reference_bind ?_ ?_
      · intro type
        refine .bind (.ask _) fun label => ?_
        split
        · exact .also (fun _ _ => .of_ok rfl rfl) (.ask _)
        · apply Check.Candid.all
          simp only [List.forall_mem_cons]
          exact ⟨fun _ _ => .of_ok rfl rfl, .bind (.observe _) fun _ => .explain _ _,
            .check_signature _ _, nofun⟩
      · intro type fault
        refine .ask_bind fun label => ?_
        split
        · exact .also (.settle fault) _
        · exact .also (.settle fault) _
  | callRef index => exact .bind (.ask _) fun type => .effect _
  | returnValues =>
      exact .bind (.ask _) fun label => .also (.pop_signature _ _) .set_unreachable
  | returnCall params results => exact .tail_call _ _ _
  | returnCallIndirect params results table => exact .tail_call _ _ _
  | returnCallRef index => exact .bind (.ask _) fun type => .tail_call _ _ _
  | plain instruction => exact .effect _
  | lane op index => exact .also (.ask _) (.effect _)
  | shuffle op lanes =>
      refine .also (.all ?_) (.effect _)
      intro check member
      obtain ⟨lane, _, rfl⟩ := List.mem_map.mp member
      exact .ask _
  | laneAccess op memory index => exact .also (.ask _) (.effect _)
  | drop => exact .drop
  | select declared => exact .select declared
  | unreachable => exact .set_unreachable
  | refIsNull =>
      refine .pop_reference_bind ?_ ?_
      · exact fun type => .also (fun _ _ => .of_ok rfl rfl) (.push_types _)
      · exact fun type fault => .also (.settle fault) _
  | refAsNonNull =>
      refine .pop_reference_bind ?_ ?_
      · exact fun type => .also (fun _ _ => .of_ok rfl rfl) (.push_types _)
      · exact fun type fault => .also (.settle fault) _
  | checkType | checkTypes | dropTypes => cases step

/-! ## Instructions -/

theorem Action.run_all_candid {actions : List Action}
    (performs : Perform (fun operation => !operation.isQuery) actions) :
    (runAll actions).Candid := by
  apply Check.Candid.all
  intro check member
  obtain ⟨action, listed, rfl⟩ := List.mem_map.mp member
  cases action with
  | refuse complaint => exact .ask _
  | perform operation =>
      apply Operation.run_candid
      simpa using performs operation listed

/-- A candid failure needs no summary. -/
theorem Outcome.Candid.explained {outcome : Outcome Unit} (candid : outcome.Candid) :
    outcome.explained = outcome := by
  unfold Outcome.explained
  split
  · rfl
  · rename_i fault failed
    rw [if_neg]
    simpa using candid.spoken failed

namespace Scope

/-- What an instruction of a body checks, at a label depth. -/
def check (scope : Scope) (closed : Bool) (depth : Nat) (instruction : Instruction) :
    Check Unit :=
  if closed then .complain ⟨.afterEnd instruction.name scope.kind, .afterEnd⟩
  else Action.runAll (scope.actions depth instruction)

variable (scope : Scope) (closed : Bool)

theorem check_candid (depth : Nat) (instruction : Instruction) :
    (scope.check closed depth instruction).Candid := by
  cases closed with
  | true => exact .ask _
  | false => exact Action.run_all_candid (scope.actions_perform_steps depth instruction)

/-- The summary of a fault is never needed. -/
theorem step_eq_check (state : State) (instruction : Instruction) :
    scope.step closed state instruction =
      scope.check closed state.labels.length instruction scope.environment state :=
  (scope.check_candid closed _ instruction _ _).explained

theorem step_candid (state : State) (instruction : Instruction) :
    (scope.step closed state instruction).Candid := by
  rw [step_eq_check]
  exact scope.check_candid closed _ instruction _ _

end Scope

end WasmTyping
