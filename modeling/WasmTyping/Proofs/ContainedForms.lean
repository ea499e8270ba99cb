import WasmTyping.Proofs.BodyBracketing
import WasmTyping.Proofs.ClosingConditions
import WasmTyping.Proofs.ControlEffects
import WasmTyping.Proofs.DeclarativeTyping

/-!
# Structured code stays in its region

Between two instructions no table is in progress, and the state splits into its innermost
region and what surrounds it. Accepted instructions that form a structured sequence leave
the surroundings as they are, whatever regions they open and close in between.
-/

set_option autoImplicit false

namespace WasmTyping

/-! ## Tables are finished within an instruction -/

namespace Control

variable {control : Control}

@[simp] theorem push_table_types (count : Nat) :
    (control.push count).tableTypes = control.tableTypes := rfl

@[simp] theorem remove_table_types (count : Nat) :
    (control.remove count).tableTypes = control.tableTypes := by
  unfold remove
  split <;> rfl

@[simp] theorem remove_all_table_types (signatures : List (List ValueType)) :
    (control.removeAll signatures).tableTypes = control.tableTypes := by
  induction signatures generalizing control with
  | nil => rfl
  | cons signature rest ih => exact ih.trans (remove_table_types _)

@[simp] theorem enter_table_types (kind : LabelKind) (params results : List ValueType) :
    (control.enter kind params results).tableTypes = control.tableTypes := rfl

@[simp] theorem mark_unreachable_table_types :
    control.markUnreachable.tableTypes = control.tableTypes := by
  unfold markUnreachable
  split <;> rfl

@[simp] theorem begin_arm_table_types (kind : LabelKind) (count : Nat) :
    (control.beginArm kind count).tableTypes = control.tableTypes := by
  unfold beginArm
  split <;> rfl

@[simp] theorem leave_table_types : control.leave.tableTypes = control.tableTypes := by
  unfold leave
  split <;> rfl

theorem following_table_types {α : Type} {found : Option α} {next : α → Control}
    {types : Option (List ValueType)} (here : control.tableTypes = types)
    (there : ∀ value, (next value).tableTypes = types) :
    (control.following found next).tableTypes = types := by
  cases found with
  | none => exact here
  | some value => exact there value

@[simp] theorem close_table_types (label : Label) :
    (control.close label).tableTypes = control.tableTypes := by
  rw [close, leave_table_types, remove_table_types]

@[simp] theorem next_arm_table_types (label : Label) (kind : LabelKind) (count : Nat) :
    (control.nextArm label kind count).tableTypes = control.tableTypes := by
  rw [nextArm, begin_arm_table_types, remove_table_types]

@[simp] theorem else_arm_table_types : control.elseArm.tableTypes = control.tableTypes :=
  following_table_types rfl fun _ => next_arm_table_types _ _ _

@[simp] theorem apply_table_types (effect : Effect) :
    (control.apply effect).tableTypes = control.tableTypes := by
  rw [apply, push_table_types, remove_all_table_types]

@[simp] theorem remove_callee_table_types (type : FuncType) :
    (control.removeCallee type).tableTypes = control.tableTypes := by
  rw [removeCallee, remove_table_types, remove_table_types]

end Control

/-- A table is begun by its first target only. -/
theorem Operation.control_table_none {operation : Operation} {env : Environment}
    {control : Control} (other : ∀ depth, operation ≠ .brTableTarget depth)
    (finished : control.tableTypes = none) :
    (operation.control env control).tableTypes = none := by
  cases operation with
  | brTableTarget depth => exact absurd rfl (other depth)
  | beginFunction | beginInitExpr | tryTableCatch | checkType | checkTypes =>
      first | rfl | exact finished
  | endFunction | endInitExpr =>
      refine Control.following_table_types finished fun label => ?_
      rw [Control.close_table_types, finished]
  | catchArm =>
      refine Control.following_table_types finished fun label => ?_
      rw [Control.next_arm_table_types, finished]
  | endBlock =>
      refine Control.following_table_types finished fun label => ?_
      split <;> simp [finished]
  | delegate =>
      refine Control.following_table_types finished fun _ => ?_
      refine Control.following_table_types finished fun label => ?_
      rw [Control.close_table_types, finished]
  | rethrow =>
      refine Control.following_table_types finished fun label => ?_
      split <;> simp [finished]
  | br | callRef | returnValues | returnCallRef =>
      refine Control.following_table_types finished fun _ => ?_
      simp [finished]
  | brIf | brOnNull =>
      refine Control.following_table_types (by simp [finished]) fun _ => ?_
      simp [finished]
  | beginBrTable | endBrTable => simp [Operation.control, Control.keepTable]
  | _ => simp [Operation.control, finished]

namespace Action

variable {env : Environment} {state : State} {actions : List Action}

theorem Perform.table_none {instruction : Instruction}
    (performs : Perform (Operation.serves instruction) actions)
    (other : ∀ targets fallback, instruction ≠ .brTable targets fallback)
    (finished : state.tableTypes = none) :
    (runAll actions env state).state.tableTypes = none := by
  induction actions generalizing state with
  | nil => exact finished
  | cons action rest ih =>
      apply ih fun operation member => performs operation (List.mem_cons_of_mem _ member)
      cases action with
      | refuse complaint => exact finished
      | perform operation =>
          have serves := performs operation List.mem_cons_self
          have step := congrArg Control.tableTypes (operation.run_control env state)
          refine step.trans (Operation.control_table_none ?_ finished)
          rintro depth rfl
          simp only [Operation.serves] at serves
          cases serves

end Action

theorem Scope.advance_table_none {scope : Scope} {results : List ValueType}
    (function : scope.kind = .function results) {state next : State} {instruction : Instruction}
    (finished : state.tableTypes = none)
    (advanced : scope.advance state instruction = some next) : next.tableTypes = none := by
  rw [advance_eq function] at advanced
  rw [← Check.state_of_accepted advanced]
  by_cases table : ∃ targets fallback, instruction = .brTable targets fallback
  · obtain ⟨targets, fallback, rfl⟩ := table
    rw [instructionActions, Action.run_all_append_state]
    refine (congrArg Control.tableTypes
      (Operation.run_control .endBrTable scope.environment _)).trans ?_
    simp [Operation.control, Control.keepTable]
  · apply Action.Perform.table_none _ (fun targets fallback same =>
      table ⟨targets, fallback, same⟩) finished
    exact (scope.instruction_steps _ instruction).mono fun _ allowed =>
      (Bool.and_eq_true_iff.mp allowed).2

/-! ## Instructions in a region -/

/-- Ordinary changes leave the surroundings of the region as they are. -/
theorem State.Edited.keeping {before after : State} (edited : before.Edited after)
    {around : Surroundings} {region : Region} {kept : Option (List ValueType)}
    (here : before = around.keeping region kept) :
    ∃ left table, after = around.keeping left table := by
  induction edited generalizing region kept with
  | same state => exact ⟨region, kept, here⟩
  | push state types =>
      rw [here, around.keeping_push]
      exact ⟨_, _, rfl⟩
  | remove state count =>
      rw [here, around.keeping_remove]
      exact ⟨_, _, rfl⟩
  | keepTable state types =>
      rw [here]
      exact ⟨region, types, rfl⟩
  | markUnreachable state =>
      rw [here, around.keeping_mark_unreachable]
      exact ⟨_, _, rfl⟩
  | trans left right leftIh rightIh =>
      obtain ⟨middle, table, reached⟩ := leftIh here
      exact rightIh reached

theorem Action.Perform.keeping {actions : List Action}
    (performs : Perform Operation.isOrdinary actions) (env : Environment) (around : Surroundings)
    (region : Region) (kept : Option (List ValueType)) :
    ∃ left table, (runAll actions env (around.keeping region kept)).state =
      around.keeping left table := by
  induction actions generalizing region kept with
  | nil => exact ⟨region, kept, rfl⟩
  | cons action rest ih =>
      have others : Perform Operation.isOrdinary rest :=
        fun operation member => performs operation (List.mem_cons_of_mem _ member)
      cases action with
      | refuse complaint => exact ih others region kept
      | perform operation =>
          have ordinary := performs operation List.mem_cons_self
          simp only [Operation.isOrdinary, Bool.and_eq_true, Bool.not_eq_true'] at ordinary
          obtain ⟨middle, table, reached⟩ :=
            (Operation.run_edits ordinary.1 env (around.keeping region kept)).keeping rfl
          show ∃ left table, (runAll rest env
            (operation.run env (around.keeping region kept)).state).state = _
          rw [reached]
          exact ih others middle table

theorem Check.catch_arm_accepted (env : Environment) (around : Surroundings) (region : Region)
    (kind : LabelKind) (params results : List ValueType) (left : Region)
    (caught : LabelRule.catchAfterTry.allows kind = true) (values : List ValueType) :
    (catchArm values).accepted env ((around.nest region kind params results).state left) =
      if left.endsIn env.types results then
        some ((around.nest region .catchArm params results).state (.start values))
      else none := by
  have allowed : ∀ state, (requireKind .catchAfterTry
      ((around.nest region kind params results).label left.dead)).accepted env state =
      some state := by
    intro state
    have right : LabelRule.catchAfterTry.allows
        ((around.nest region kind params results).label left.dead).kind = true := caught
    rw [requireKind, ensure, ask_accepted, right]
    rfl
  rw [catchArm, innermost_bind_accepted env (Surroundings.state_labels _ left), nextArm, all_cons,
    also_accepted, allowed, Option.bind_some, all_pair_accepted, also_accepted,
    check_results_accepted]
  show (if left.endsIn env.types results then _ else none).bind _ = _
  split
  · rw [Option.bind_some, modify_accepted]
    exact congrArg some (Surroundings.keeping_begin_arm _ ⟨[], left.dead⟩ none .catchArm values)
  · rfl

namespace Scope

variable {scope : Scope} {around : Surroundings} {region inner left : Region}
  {kind : LabelKind} {params returned : List ValueType} {next : State}

/-- What an accepted handler leaves on the stack at its beginning. -/
def caught? (scope : Scope) (head : Handler) : Option (List ValueType) :=
  if scope.features.enabled .exceptions then
    match head with
    | .tag index => (scope.module.tagParams index).toOption
    | .all => some []
  else none

variable {results : List ValueType} (function : scope.kind = .function results)

include function

theorem plain_advance {instruction : Instruction} (isPlain : instruction.isPlain = true)
    (advanced : scope.advance (around.state region) instruction = some next) :
    ∃ left, next = around.state left := by
  have finished := advance_table_none function rfl advanced
  rw [advance_eq function] at advanced
  obtain ⟨left, table, reached⟩ := (scope.plain_performs _ isPlain).keeping scope.environment
    around region none
  have same : next = around.keeping left table :=
    (Check.state_of_accepted advanced).symm.trans reached
  rw [same] at finished
  have none : table = none := finished
  rw [same, none]
  exact ⟨left, rfl⟩

theorem opening_advance {opening : Opening} {type : BlockType}
    (advanced : scope.advance (around.state region) (.enter opening type) = some next) :
    ∃ inner params returned,
      next = (around.nest inner opening.label params returned).state (.start params) := by
  have entered : (Action.runAll (scope.enterActions opening type)).accepted
      scope.environment (around.state region) = some next := by
    rw [advance_eq function] at advanced
    unfold instructionActions at advanced
    dsimp only at advanced
    split at advanced
    · exact (accepted_of_requiring advanced).2
    · exact advanced
  rw [enter_actions_accepted] at entered
  obtain ⟨signature, -, entered⟩ := Option.bind_eq_some_iff.mp entered
  rw [Check.enter_accepted] at entered
  obtain ⟨inner, -, reached⟩ := Option.map_eq_some_iff.mp entered
  exact ⟨inner, signature.params, signature.results, reached.symm⟩

theorem try_table_advance {type : BlockType} {clauses : List CatchClause}
    (advanced : scope.advance (around.state region) (.tryTable type clauses) = some next) :
    ∃ inner params returned,
      next = (around.nest inner .tryTable params returned).state (.start params) := by
  have finished := advance_table_none function rfl advanced
  rw [advance_eq function] at advanced
  have entered := Check.state_of_accepted (accepted_of_requiring advanced).2
  have ordinary : Action.Perform Operation.isOrdinary
      ((scope.blockSignature "try_table" type).2 ++
        [.perform (.beginTryTable (scope.blockSignature "try_table" type).1.params)] ++
        clauses.flatMap scope.clauseActions) :=
    .append (.append (.block_signature _ _) (.one rfl))
      (.flat_map clauses (.clause_actions fun _ _ => rfl))
  obtain ⟨inner, table, reached⟩ := ordinary.keeping scope.environment around region none
  unfold tryTableActions at entered
  dsimp only at entered
  rw [Action.run_all_append_state] at entered
  change (Action.runAll _ scope.environment
    (Action.runAll _ scope.environment (around.keeping region none)).state).state = next at entered
  rw [reached] at entered
  rw [← entered] at finished
  have none : table = none := finished
  rw [none] at entered
  exact ⟨inner, _, _, entered.symm⟩

theorem opener_advance {opener : Opener}
    (advanced : scope.advance (around.state region) opener.instruction = some next) :
    ∃ inner kind params returned,
      next = (around.nest inner kind params returned).state (.start params) := by
  cases opener with
  | block type | loop type =>
      obtain ⟨inner, params, returned, reached⟩ := opening_advance function advanced
      exact ⟨inner, _, params, returned, reached⟩
  | tryTable type clauses =>
      obtain ⟨inner, params, returned, reached⟩ := try_table_advance function advanced
      exact ⟨inner, _, params, returned, reached⟩

theorem closing_advance
    (advanced : scope.advance ((around.nest inner kind params returned).state left) .endBlock =
      some next) : next = around.state (inner.push returned) := by
  rw [end_advance function] at advanced
  by_cases conditional : kind = .ifThen
  · subst conditional
    rw [Check.end_if_accepted] at advanced
    exact (Option.some.inj (Option.ite_none_right_eq_some.mp advanced).2).symm
  · rw [Check.end_region_accepted _ _ _ _ _ _ _ conditional] at advanced
    exact (Option.some.inj (Option.ite_none_right_eq_some.mp advanced).2).symm

theorem else_advance
    (advanced : scope.advance ((around.nest inner .ifThen params returned).state left) .elseArm =
      some next) :
    next = (around.nest inner .elseArm params returned).state (.start params) := by
  rw [advance_eq function, instructionActions, Action.run_all_perform_accepted, Operation.run,
    Check.else_arm_accepted] at advanced
  exact (Option.some.inj (Option.ite_none_right_eq_some.mp advanced).2).symm

theorem delegate_advance {depth : Nat}
    (advanced : scope.advance ((around.nest inner .tryBlock params returned).state left)
      (.delegate depth) = some next) : next = around.state (inner.push returned) := by
  rw [advance_eq function] at advanced
  have closed := (accepted_of_requiring advanced).2
  rw [Action.run_all_perform_accepted, Operation.run, Check.delegate_accepted] at closed
  exact (Option.some.inj (Option.ite_none_right_eq_some.mp closed).2).symm

/-- A handler begins where the arm before it ends in the results of the `try`. -/
theorem handler_advance (caught : LabelRule.catchAfterTry.allows kind = true) (head : Handler) :
    scope.advance ((around.nest inner kind params returned).state left) head.instruction =
      (scope.caught? head).bind fun values =>
        if left.endsIn scope.module.types returned then
          some ((around.nest inner .catchArm params returned).state (.start values))
        else none := by
  have begun (values : List ValueType) :
      (Action.runAll [.perform (.catchArm values)]).accepted scope.environment
        ((around.nest inner kind params returned).state left) =
          if left.endsIn scope.module.types returned then
            some ((around.nest inner .catchArm params returned).state (.start values))
          else none := by
    rw [Action.run_all_perform_accepted]
    exact Check.catch_arm_accepted _ _ _ _ _ _ _ caught values
  rw [advance_eq function]
  unfold caught?
  cases head with
  | all =>
      rw [Handler.instruction, instructionActions, requiring_accepted]
      split
      · exact begun []
      · rfl
  | tag index =>
      rw [Handler.instruction, instructionActions, requiring_accepted]
      split
      · rw [catchActions]
        dsimp only
        cases scope.module.tagParams index with
        | ok values => exact begun values
        | error space =>
            have refused := Action.run_all_append_accepted
              [.refuse (.invalidIndex space index)] [.perform (.catchArm [])]
              scope.environment ((around.nest inner kind params returned).state left)
            rw [Action.run_all_refuse_accepted] at refused
            exact refused
      · rfl

end Scope

/-! ## Runs through structured code -/

namespace Scope

variable (scope : Scope)

/-- The state after some instructions, where all of them are accepted and a region stays
open after each. -/
def pass : List Instruction → State → Option State
  | [], state => some state
  | instruction :: rest, state =>
    (scope.advance state instruction).bind fun next =>
      if next.labels = [] then none else pass rest next

variable {scope} {state final : State} {first rest : List Instruction}

theorem pass_cons_eq_some_iff {instruction : Instruction} :
    scope.pass (instruction :: rest) state = some final ↔
      ∃ next, scope.advance state instruction = some next ∧ next.labels ≠ [] ∧
        scope.pass rest next = some final := by
  rw [pass, Option.bind_eq_some_iff]
  simp only [Option.ite_none_left_eq_some, ne_eq]

theorem pass_append_eq_some_iff :
    scope.pass (first ++ rest) state = some final ↔
      ∃ next, scope.pass first state = some next ∧ scope.pass rest next = some final := by
  induction first generalizing state with
  | nil => simp [pass]
  | cons instruction more ih =>
      rw [List.cons_append, pass_cons_eq_some_iff]
      simp only [ih, pass_cons_eq_some_iff]
      grind

/-- Instructions that do not close the body are passed before the rest completes it. -/
theorem completes_append_iff (goesOn : rest ≠ []) :
    scope.Completes (first ++ rest) state ↔
      ∃ next, scope.pass first state = some next ∧ scope.Completes rest next := by
  induction first generalizing state with
  | nil => simp [pass]
  | cons instruction more ih =>
      simp only [List.cons_append, Completes, pass_cons_eq_some_iff]
      constructor
      · rintro ⟨next, advanced, continues⟩
        split at continues
        · exact absurd (List.append_eq_nil_iff.mp continues).2 goesOn
        · next still =>
            obtain ⟨last, passed, completes⟩ := ih.mp continues
            exact ⟨last, ⟨next, advanced, still, passed⟩, completes⟩
      · rintro ⟨last, ⟨next, advanced, still, passed⟩, completes⟩
        refine ⟨next, advanced, ?_⟩
        rw [if_neg still]
        exact ih.mpr ⟨last, passed, completes⟩

end Scope

/-- Code that keeps to its region is passed within it. -/
theorem Scope.pass_through {scope : Scope} {around : Surroundings} {region : Region}
    {code rest : List Instruction} {final : State}
    (contained : ∀ {next}, scope.pass code (around.state region) = some next →
      ∃ left, next = around.state left)
    (passed : scope.pass (code ++ rest) (around.state region) = some final) :
    ∃ left, scope.pass rest (around.state left) = some final := by
  obtain ⟨next, inside, passed⟩ := pass_append_eq_some_iff.mp passed
  obtain ⟨left, rfl⟩ := contained inside
  exact ⟨left, passed⟩

section Contained

variable {scope : Scope} {results : List ValueType} (function : scope.kind = .function results)

include function

namespace Scope

variable {around : Surroundings} {region inner left : Region} {kind : LabelKind}
  {params returned : List ValueType} {rest : List Instruction} {final : State}

theorem pass_opening {opening : Opening} {type : BlockType}
    (passed : scope.pass (.enter opening type :: rest) (around.state region) = some final) :
    ∃ inner params returned, scope.pass rest
      ((around.nest inner opening.label params returned).state (.start params)) = some final := by
  obtain ⟨_, advanced, -, passed⟩ := pass_cons_eq_some_iff.mp passed
  obtain ⟨inner, params, returned, rfl⟩ := opening_advance function advanced
  exact ⟨inner, params, returned, passed⟩

theorem pass_closing
    (passed : scope.pass (.endBlock :: rest)
      ((around.nest inner kind params returned).state left) = some final) :
    scope.pass rest (around.state (inner.push returned)) = some final := by
  obtain ⟨_, advanced, -, passed⟩ := pass_cons_eq_some_iff.mp passed
  obtain rfl := closing_advance function advanced
  exact passed

end Scope

mutual

/-- Structured code leaves the surroundings of its region as they are. -/
theorem Forms.contained (forms : Forms) {around : Surroundings} {region : Region} {final : State}
    (passed : scope.pass forms.flatten (around.state region) = some final) :
    ∃ left, final = around.state left := by
  cases forms with
  | done =>
      cases passed
      exact ⟨region, rfl⟩
  | plain instruction isPlain rest =>
      obtain ⟨_, advanced, -, passed⟩ := Scope.pass_cons_eq_some_iff.mp passed
      obtain ⟨left, rfl⟩ := Scope.plain_advance function isPlain advanced
      exact rest.contained passed
  | region opener body rest =>
      obtain ⟨_, advanced, -, passed⟩ := Scope.pass_cons_eq_some_iff.mp passed
      obtain ⟨inner, kind, params, returned, rfl⟩ := Scope.opener_advance function advanced
      obtain ⟨left, passed⟩ := Scope.pass_through body.contained passed
      exact rest.contained (Scope.pass_closing function passed)
  | ifThen type arm rest =>
      obtain ⟨inner, params, returned, passed⟩ := Scope.pass_opening function passed
      obtain ⟨left, passed⟩ := Scope.pass_through arm.contained passed
      exact rest.contained (Scope.pass_closing function passed)
  | ifElse type arm other rest =>
      obtain ⟨inner, params, returned, passed⟩ := Scope.pass_opening function passed
      obtain ⟨left, passed⟩ := Scope.pass_through arm.contained passed
      obtain ⟨_, advanced, -, passed⟩ := Scope.pass_cons_eq_some_iff.mp passed
      obtain rfl := Scope.else_advance function advanced
      obtain ⟨left, passed⟩ := Scope.pass_through other.contained passed
      exact rest.contained (Scope.pass_closing function passed)
  | tryCatch type body handlers rest =>
      obtain ⟨inner, params, returned, passed⟩ := Scope.pass_opening function passed
      obtain ⟨left, passed⟩ := Scope.pass_through body.contained passed
      obtain ⟨_, handled, passed⟩ := Scope.pass_append_eq_some_iff.mp passed
      obtain ⟨kind, left, rfl⟩ := handlers.contained rfl handled
      exact rest.contained (Scope.pass_closing function passed)
  | tryDelegate type body depth rest =>
      obtain ⟨inner, params, returned, passed⟩ := Scope.pass_opening function passed
      obtain ⟨left, passed⟩ := Scope.pass_through body.contained passed
      obtain ⟨_, advanced, -, passed⟩ := Scope.pass_cons_eq_some_iff.mp passed
      obtain rfl := Scope.delegate_advance function advanced
      exact rest.contained passed

/-- Handlers change the kind of the region they belong to and nothing around it. -/
theorem Handlers.contained (handlers : Handlers) {around : Surroundings} {inner left : Region}
    {kind : LabelKind} (caught : LabelRule.catchAfterTry.allows kind = true)
    {params returned : List ValueType} {final : State}
    (passed : scope.pass handlers.flatten ((around.nest inner kind params returned).state left) =
      some final) :
    ∃ kind left, final = (around.nest inner kind params returned).state left := by
  cases handlers with
  | done =>
      cases passed
      exact ⟨kind, left, rfl⟩
  | handler head body rest =>
      obtain ⟨_, advanced, -, passed⟩ := Scope.pass_cons_eq_some_iff.mp passed
      rw [Scope.handler_advance function caught] at advanced
      obtain ⟨values, -, advanced⟩ := Option.bind_eq_some_iff.mp advanced
      obtain ⟨-, ⟨⟩⟩ := Option.ite_none_right_eq_some.mp advanced
      obtain ⟨left, passed⟩ := Scope.pass_through body.contained passed
      exact rest.contained rfl passed

end

end Contained

end WasmTyping
