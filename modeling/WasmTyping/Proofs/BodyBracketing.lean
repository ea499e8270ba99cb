import Mathlib.Control.Monad.Basic
import WasmTyping.Proofs.AcceptedRuns
import WasmTyping.Proofs.InstructionSteps

/-!
# Accepted bodies are well bracketed

The checker keeps no tree. All it knows about the structure of a body are the kinds
of the open labels, which `else` and `catch` change in place. An accepted
instruction turns these kinds as the grammar of structured code demands, and so
what remains of an accepted body is, for each open region from the innermost on,
the rest of an arm and the end of the region.
-/

set_option autoImplicit false

namespace WasmTyping

/-- The kinds of the open regions, innermost first. -/
def State.kinds (state : State) : List LabelKind :=
  state.labels.map Label.kind

/-! ## How steps turn the open regions -/

theorem State.Edited.kinds {before after : State} (edited : before.Edited after) :
    after.kinds = before.kinds := by
  induction edited with
  | same state => rfl
  | push state types => rfl
  | remove state count => rw [State.kinds, State.remove_labels, State.kinds]
  | keepTable state types => rfl
  | markUnreachable state =>
      rcases opened : state.labels with _ | ⟨label, outer⟩
      · simp [State.kinds, State.markUnreachable, opened]
      · simp [State.kinds, State.markUnreachable, opened]
  | trans left right leftIh rightIh => exact rightIh.trans leftIh

namespace Action

variable {env : Environment} {state : State}

theorem run_all_append_state (first second : List Action) :
    (runAll (first ++ second) env state).state =
      (runAll second env (runAll first env state).state).state := by
  induction first generalizing state with
  | nil => rfl
  | cons action rest ih => exact ih

theorem Perform.kinds {actions : List Action} (performs : Perform Operation.isOrdinary actions) :
    (runAll actions env state).state.kinds = state.kinds := by
  induction actions generalizing state with
  | nil => rfl
  | cons action rest ih =>
      have after : (runAll rest env (action.run env state).state).state.kinds =
          (action.run env state).state.kinds :=
        ih fun operation member => performs operation (List.mem_cons_of_mem _ member)
      refine after.trans ?_
      cases action with
      | refuse complaint => rfl
      | perform operation =>
          have ordinary := performs operation List.mem_cons_self
          simp only [Operation.isOrdinary, Bool.and_eq_true, Bool.not_eq_true'] at ordinary
          exact (Operation.run_edits ordinary.1 env state).kinds

/-- A region is opened after ordinary actions. -/
theorem run_all_opening_kinds {actions : List Action} {operation : Operation} {kind : LabelKind}
    (performs : Perform Operation.isOrdinary actions)
    (opens : ∀ state, (operation.run env state).state.kinds = kind :: state.kinds) :
    (runAll (actions ++ [.perform operation]) env state).state.kinds = kind :: state.kinds := by
  rw [run_all_append_state]
  show (operation.run env (runAll actions env state).state).state.kinds = _
  rw [opens, performs.kinds]

end Action

namespace Check

variable {env : Environment} {state next : State} {label : Label} {outer : List Label}

/-- A check that begins with the demand of a kind is accepted only for that kind. -/
theorem allowed_of_accepted {rule : LabelRule} {rest : Check Unit}
    (accepted : ((requireKind rule label).also rest).accepted env state = some next) :
    rule.allows label.kind = true := by
  rw [also_accepted, requireKind, ensure, ask_accepted] at accepted
  cases allowed : rule.allows label.kind with
  | true => rfl
  | false =>
      rw [allowed] at accepted
      cases accepted

theorem next_arm_accepted {rule : LabelRule} {construct : String} {kind : LabelKind}
    {types : List ValueType} (opened : state.labels = label :: outer)
    (accepted : (nextArm rule label construct kind types).accepted env state = some next) :
    rule.allows label.kind = true ∧ next.kinds = kind :: outer.map Label.kind := by
  constructor
  · rw [nextArm, all_cons] at accepted
    exact allowed_of_accepted accepted
  · rw [← state_of_accepted accepted, next_arm_state]
    simp [State.kinds, State.beginArm, opened]

theorem leave_remove_labels (opened : state.labels = label :: outer) (count : Nat) :
    (state.remove count).leave.labels = outer := by
  simp [State.leave, opened]

theorem close_under_accepted {rule : LabelRule} {construct last : String}
    (opened : state.labels = label :: outer)
    (accepted : (closeUnder rule construct last).accepted env state = some next) :
    rule.allows label.kind = true ∧ next.labels = outer := by
  constructor
  · rw [closeUnder, innermost_bind_accepted env opened] at accepted
    exact allowed_of_accepted accepted
  · rw [← state_of_accepted accepted, close_under_state_of_open opened]
    exact leave_remove_labels opened _

theorem end_region_labels (opened : state.labels = label :: outer) :
    (endRegion env state).state.labels = outer := by
  rw [endRegion, innermost_bind_of_open opened]
  split
  · rw [also_state, leave_region_state, else_arm_state_of_open opened]
    simp [State.beginArm, State.leave, opened]
  · rw [leave_region_state]
    exact leave_remove_labels opened _

end Check

/-- How an accepted instruction turns the kinds of the open regions. -/
inductive Turns : Instruction → List LabelKind → List LabelKind → Prop where
  | plain {instruction : Instruction} (isPlain : instruction.isPlain = true)
      (kinds : List LabelKind) : Turns instruction kinds kinds
  | enter (opening : Opening) (type : BlockType) (kinds : List LabelKind) :
      Turns (.enter opening type) kinds (opening.label :: kinds)
  | tryTable (type : BlockType) (clauses : List CatchClause) (kinds : List LabelKind) :
      Turns (.tryTable type clauses) kinds (.tryTable :: kinds)
  | elseArm (outer : List LabelKind) : Turns .elseArm (.ifThen :: outer) (.elseArm :: outer)
  | handler (head : Handler) {kind : LabelKind}
      (caught : LabelRule.catchAfterTry.allows kind = true) (outer : List LabelKind) :
      Turns head.instruction (kind :: outer) (.catchArm :: outer)
  | delegate (depth : Nat) (outer : List LabelKind) :
      Turns (.delegate depth) (.tryBlock :: outer) outer
  | endBlock (kind : LabelKind) (outer : List LabelKind) :
      Turns .endBlock (kind :: outer) outer

namespace Scope

variable {scope : Scope} {state next : State} {label : Label} {outer : List Label}

theorem enter_actions_kinds (opening : Opening) (type : BlockType) :
    (Action.runAll (scope.enterActions opening type) scope.environment state).state.kinds =
      opening.label :: state.kinds := by
  apply Action.run_all_opening_kinds (.block_signature _ _)
  intro state
  exact congrArg (List.cons opening.label) (Check.Edits.pop_signatures _ _ _ state).kinds

theorem try_table_actions_kinds (type : BlockType) (clauses : List CatchClause) :
    (Action.runAll (scope.tryTableActions type clauses) scope.environment state).state.kinds =
      .tryTable :: state.kinds := by
  apply Action.run_all_opening_kinds
  · refine .append (.append (.block_signature _ _) (.one rfl)) ?_
    exact .flat_map clauses (.clause_actions fun _ _ => rfl)
  · intro state
    rfl

theorem catch_arm_turns (opened : state.labels = label :: outer) (head : Handler)
    {values : List ValueType}
    (accepted : (Action.runAll [.perform (.catchArm values)]).accepted scope.environment state =
      some next) :
    Turns head.instruction state.kinds next.kinds := by
  rw [Action.run_all_perform_accepted, Operation.run, Check.catchArm,
    Check.innermost_bind_accepted _ opened] at accepted
  obtain ⟨allowed, kinds⟩ := Check.next_arm_accepted opened accepted
  rw [kinds, State.kinds, opened]
  exact .handler head allowed _

theorem end_actions_turns {results : List ValueType} (function : scope.kind = .function results)
    (opened : state.labels = label :: outer) (depth : Nat)
    (accepted : (Action.runAll (scope.endActions depth)).accepted scope.environment state =
      some next) :
    Turns .endBlock state.kinds next.kinds := by
  have closed : next.labels = outer := by
    unfold endActions at accepted
    split at accepted
    · rw [function, Action.run_all_perform_accepted] at accepted
      exact (Check.close_under_accepted opened accepted).2
    · rw [Action.run_all_perform_accepted] at accepted
      rw [← Check.state_of_accepted accepted]
      exact Check.end_region_labels opened
  rw [State.kinds, State.kinds, opened, closed]
  exact .endBlock label.kind _

/-- Every accepted instruction turns the open regions as the grammar demands. -/
theorem advance_turns {results : List ValueType} (function : scope.kind = .function results)
    (opened : state.labels = label :: outer) {instruction : Instruction}
    (advanced : scope.advance state instruction = some next) :
    Turns instruction state.kinds next.kinds := by
  rw [advance_eq function] at advanced
  by_cases isPlain : instruction.isPlain = true
  · rw [← Check.state_of_accepted advanced, (scope.plain_performs _ isPlain).kinds]
    exact .plain isPlain _
  · cases instruction with
    | enter opening type =>
        have entered : (Action.runAll (scope.enterActions opening type)).accepted
            scope.environment state = some next := by
          unfold instructionActions at advanced
          dsimp only at advanced
          split at advanced
          · exact (accepted_of_requiring advanced).2
          · exact advanced
        rw [← Check.state_of_accepted entered, enter_actions_kinds]
        exact .enter opening type _
    | tryTable type clauses =>
        have entered := (accepted_of_requiring advanced).2
        rw [← Check.state_of_accepted entered, try_table_actions_kinds]
        exact .tryTable type clauses _
    | elseArm =>
        rw [instructionActions, Action.run_all_perform_accepted, Operation.run, Check.elseArm,
          Check.innermost_bind_accepted _ opened] at advanced
        obtain ⟨allowed, kinds⟩ := Check.next_arm_accepted opened advanced
        have conditional : label.kind = .ifThen := of_decide_eq_true allowed
        rw [kinds, State.kinds, opened, List.map_cons, conditional]
        exact .elseArm _
    | endBlock => exact end_actions_turns function opened _ advanced
    | catchTag tag =>
        have caught := (accepted_of_requiring advanced).2
        unfold catchActions at caught
        split at caught
        · exact catch_arm_turns opened (.tag tag) caught
        · rw [← List.singleton_append, Action.run_all_append_accepted,
            Action.run_all_refuse_accepted] at caught
          cases caught
    | catchAll => exact catch_arm_turns opened .all (accepted_of_requiring advanced).2
    | delegate depth =>
        have closed := (accepted_of_requiring advanced).2
        rw [Action.run_all_perform_accepted, Operation.run, Check.delegate,
          Check.resolve_bind_accepted] at closed
        obtain ⟨_, -, closing⟩ := Option.bind_eq_some_iff.mp closed
        obtain ⟨allowed, labels⟩ := Check.close_under_accepted opened closing
        have tried : label.kind = .tryBlock := of_decide_eq_true allowed
        rw [State.kinds, State.kinds, opened, labels, List.map_cons, tried]
        exact .delegate depth _
    | _ => exact absurd rfl isPlain

end Scope

/-! ## What remains of an accepted body -/

/-- What ends an arm of a region of a kind, up to the end of the region. -/
inductive Ending : LabelKind → List Instruction → Prop where
  | close (kind : LabelKind) : Ending kind [.endBlock]
  | otherArm (other : Forms) : Ending .ifThen (.elseArm :: (other.flatten ++ [.endBlock]))
  | handlers {kind : LabelKind} (caught : LabelRule.catchAfterTry.allows kind = true)
      (handlers : Handlers) : Ending kind (handlers.flatten ++ [.endBlock])
  | delegate (depth : Nat) : Ending .tryBlock [.delegate depth]

/-- A region without further arms ends with `end`. -/
theorem Ending.eq_close {kind : LabelKind} {ending : List Instruction}
    (ends : Ending kind ending) (conditional : kind ≠ .ifThen)
    (caught : LabelRule.catchAfterTry.allows kind = false) : ending = [.endBlock] := by
  cases ends with
  | close => rfl
  | otherArm other => exact absurd rfl conditional
  | handlers allowed =>
      rw [allowed] at caught
      cases caught
  | delegate depth => cases caught

/-- The rest of a body whose regions of the given kinds are open: for each of them
the rest of an arm and what ends it. -/
inductive Remainder : List LabelKind → List Instruction → Prop where
  | nothing : Remainder [] []
  | region {kind : LabelKind} {outer : List LabelKind} {ending rest : List Instruction}
      (forms : Forms) (ends : Ending kind ending) (after : Remainder outer rest) :
      Remainder (kind :: outer) (forms.flatten ++ (ending ++ rest))

namespace Remainder

variable {kind : LabelKind} {outer : List LabelKind} {rest : List Instruction}

theorem plain {instruction : Instruction} (isPlain : instruction.isPlain = true)
    (remainder : Remainder (kind :: outer) rest) :
    Remainder (kind :: outer) (instruction :: rest) := by
  cases remainder with
  | region forms ends after => exact .region (.plain instruction isPlain forms) ends after

/-- A form that is entered is followed by the rest of the arm it stands in. -/
theorem opened {inside : LabelKind} {instruction : Instruction}
    (remainder : Remainder (inside :: kind :: outer) rest)
    (form : ∀ (forms more : Forms) {ending : List Instruction}, Ending inside ending →
      ∃ whole : Forms, whole.flatten =
        instruction :: (forms.flatten ++ (ending ++ more.flatten))) :
    Remainder (kind :: outer) (instruction :: rest) := by
  cases remainder with
  | region forms ends after =>
      cases after with
      | region more outerEnds beyond =>
          obtain ⟨whole, flattened⟩ := form forms more ends
          have read := Remainder.region whole outerEnds beyond
          rw [flattened] at read
          simpa using read

theorem single (opener : Opener) {inside : LabelKind}
    (remainder : Remainder (inside :: kind :: outer) rest) (conditional : inside ≠ .ifThen)
    (caught : LabelRule.catchAfterTry.allows inside = false) :
    Remainder (kind :: outer) (opener.instruction :: rest) := by
  apply remainder.opened
  intro forms more ending ends
  rw [ends.eq_close conditional caught]
  exact ⟨.region opener forms more, rfl⟩

theorem conditional (type : BlockType) (remainder : Remainder (.ifThen :: kind :: outer) rest) :
    Remainder (kind :: outer) (.enter .ifThen type :: rest) := by
  apply remainder.opened
  intro forms more ending ends
  cases ends with
  | close => exact ⟨.ifThen type forms more, rfl⟩
  | otherArm other => exact ⟨.ifElse type forms other more, by simp [Forms.flatten]⟩
  | handlers caught => cases caught

theorem tried (type : BlockType) (remainder : Remainder (.tryBlock :: kind :: outer) rest) :
    Remainder (kind :: outer) (.enter .tryBlock type :: rest) := by
  apply remainder.opened
  intro forms more ending ends
  cases ends with
  | close => exact ⟨.tryCatch type forms .done more, rfl⟩
  | handlers caught handlers =>
      exact ⟨.tryCatch type forms handlers more, by simp [Forms.flatten]⟩
  | delegate depth => exact ⟨.tryDelegate type forms depth more, rfl⟩

/-- An instruction that turns the open regions puts them before what remains. -/
theorem turned {instruction : Instruction} {kinds : List LabelKind}
    (turns : Turns instruction (kind :: outer) kinds) (remainder : Remainder kinds rest) :
    Remainder (kind :: outer) (instruction :: rest) := by
  cases turns with
  | plain isPlain => exact remainder.plain isPlain
  | enter opening type =>
      cases opening with
      | block => exact remainder.single (.block type) nofun rfl
      | loop => exact remainder.single (.loop type) nofun rfl
      | ifThen => exact conditional type remainder
      | tryBlock => exact tried type remainder
  | tryTable type clauses => exact remainder.single (.tryTable type clauses) nofun rfl
  | elseArm =>
      cases remainder with
      | region forms ends after =>
          have read := region .done (.otherArm forms) after
          rw [ends.eq_close nofun rfl]
          simpa [Forms.flatten] using read
  | handler head caught =>
      cases remainder with
      | region forms ends after =>
          cases ends with
          | close =>
              have read := region .done (.handlers caught (.handler head forms .done)) after
              simpa [Forms.flatten, Handlers.flatten] using read
          | handlers _ handlers =>
              have read := region .done (.handlers caught (.handler head forms handlers)) after
              simpa [Forms.flatten, Handlers.flatten] using read
  | delegate depth => exact .region .done (.delegate depth) remainder
  | endBlock => exact .region .done (.close kind) remainder

/-- What remains of a function body in its outermost region. -/
theorem of_function (remainder : Remainder [.function] rest) :
    ∃ forms : Forms, rest = forms.flatten ++ [.endBlock] := by
  cases remainder with
  | region forms ends after =>
      cases after with
      | nothing =>
          rw [ends.eq_close nofun rfl]
          exact ⟨forms, by simp⟩

end Remainder

namespace Scope

variable {scope : Scope} {results : List ValueType} (function : scope.kind = .function results)

include function

/-- What completes a body closes every region that is open. -/
theorem completes_remainder {body : List Instruction} {state : State}
    (opened : state.labels ≠ []) (completes : scope.Completes body state) :
    Remainder state.kinds body := by
  induction body generalizing state with
  | nil => cases completes
  | cons instruction rest ih =>
      obtain ⟨next, advanced, continues⟩ := completes
      obtain ⟨label, outer, labels⟩ := List.exists_cons_of_ne_nil opened
      have turns := advance_turns function labels advanced
      have remainder : Remainder next.kinds rest := by
        split at continues
        · next closed =>
            rw [continues, State.kinds, closed]
            exact .nothing
        · next still => exact ih still continues
      rw [State.kinds, labels] at turns ⊢
      exact remainder.turned turns

end Scope

/-- An accepted function body consists of structured code and the `end` of the
function. It can be read in one way only, and no shorter part of it is a whole
body. -/
theorem accepted_bodies_are_well_bracketed (validator : Validator) (index : Nat)
    (locals : List ValueType) (body : List Instruction)
    (accepted : (validator.validateFunction index locals body).verdict = .ok ()) :
    ∃ forms : Forms, body = forms.flatten ++ [.endBlock] ∧
      ∀ (other : Forms) (rest : List Instruction),
        body = other.flatten ++ .endBlock :: rest → other = forms ∧ rest = [] := by
  obtain ⟨type, -, completes⟩ :=
    (validator.validate_function_ok_iff index locals body).mp accepted
  have remainder : Remainder [.function] body :=
    Scope.completes_remainder rfl (List.cons_ne_nil _ _) completes
  obtain ⟨forms, rfl⟩ := remainder.of_function
  refine ⟨forms, rfl, ?_⟩
  intro other rest same
  obtain ⟨equal, tail⟩ :=
    Forms.flatten_append_injective forms other (.cons rfl _) (.cons rfl _) same
  exact ⟨equal.symm, (List.cons.inj tail).2.symm⟩

/-- A `try` with a handler, around an `if` with both arms. -/
theorem handled_conditional_is_well_bracketed :
    let types : Registry := Registry.empty.insert 0 ⟨[], [.i32]⟩
    let validator := Validator.start { Module.ofTypes types with functions := [0] } ⟨.all, true, 1⟩
    let body : List Instruction :=
      [.enter .tryBlock (.value .i32), .i32Const 0, .enter .ifThen (.value .i32), .i32Const 1,
        .elseArm, .unreachable, .endBlock, .catchAll, .i32Const 2, .endBlock, .endBlock]
    (validator.validateFunction 0 [] body).verdict = .ok () ∧
      ∃ forms : Forms, body = forms.flatten ++ [.endBlock] ∧
        ∀ (other : Forms) (rest : List Instruction),
          body = other.flatten ++ .endBlock :: rest → other = forms ∧ rest = [] := by
  intro types validator body
  have accepted : (validator.validateFunction 0 [] body).verdict = .ok () := by decide +kernel
  exact ⟨accepted, accepted_bodies_are_well_bracketed validator 0 [] body accepted⟩

end WasmTyping
