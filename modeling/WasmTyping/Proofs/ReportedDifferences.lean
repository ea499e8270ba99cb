import WasmTyping.Proofs.ShownDifferences
import WasmTyping.Proofs.StackDiscipline

/-!
# Reports of mismatches show a difference

The instructions of a body are checked one after the other while a region is open: all
steps of an instruction but the last leave one open, and nothing is compared after the
body has ended. What an instruction is refused for compares at most the elements of
tables. So every mismatch that is reported about a body shows a difference.
-/

set_option autoImplicit false

namespace WasmTyping

/-! ## Regions stay open -/

theorem State.enter_ready (state : State) (kind : LabelKind) (params results : List ValueType) :
    (state.enter kind params results).Ready := by
  refine ⟨List.cons_ne_nil _ _, ?_⟩
  simp only [enter, limit, List.length_append]
  omega

/-- Only a step that closes a region can leave none open. -/
theorem Operation.run_ready {operation : Operation} {state : State} (ready : state.Ready)
    (continues : operation.role ≠ .closes) (env : Environment) :
    (operation.run env state).state.Ready := by
  rcases role : operation.role with ⟨kind, results⟩ | ⟨kind, params, results⟩ | _ | _
  · rw [operation.run_of_begins role]
    exact State.enter_ready _ _ _ _
  · obtain ⟨middle, -, entered⟩ := @run_of_opens env _ _ _ _ _ role ready.grounded
    rw [entered]
    exact State.enter_ready _ _ _ _
  · exact absurd role continues
  · exact ready.of_confined (run_of_stays role ready.grounded)

/-! ## Actions -/

/-- Refusals show a difference where they compare, and steps leave a region open. -/
def Action.Tells : Action → Prop
  | refuse complaint => complaint.diagnostic.Tells
  | perform operation => operation.role ≠ .closes

def Action.AllTell (actions : List Action) : Prop :=
  ∀ action ∈ actions, action.Tells

theorem Action.run_all_tells {actions : List Action} (tell : AllTell actions) :
    (runAll actions).Tells := by
  intro env state ready
  induction actions generalizing state with
  | nil => exact .silent rfl
  | cons action rest ih =>
      obtain ⟨here, later⟩ := List.forall_mem_cons.mp tell
      cases action with
      | refuse complaint => exact .joined (.complain here) (ih later state ready)
      | perform operation =>
          exact .joined (operation.run_tells env state ready)
            (ih later _ (operation.run_ready ready here env))

/-- A step on its own may close a region. -/
theorem Action.run_one_tells (operation : Operation) : (runAll [.perform operation]).Tells :=
  fun env state ready => .joined (operation.run_tells env state ready) (.silent rfl)

namespace Action.AllTell

variable {actions : List Action}

theorem nothing : AllTell [] :=
  List.forall_mem_nil _

theorem refusal {complaint : Complaint} (tells : complaint.diagnostic.Tells) :
    AllTell [.refuse complaint] :=
  List.forall_mem_singleton.mpr tells

theorem one {operation : Operation} (continues : operation.role ≠ .closes) :
    AllTell [.perform operation] :=
  List.forall_mem_singleton.mpr continues

theorem append {more : List Action} (first : AllTell actions) (second : AllTell more) :
    AllTell (actions ++ more) :=
  List.forall_mem_append.mpr ⟨first, second⟩

theorem demand {holds : Bool} {complaint : Complaint}
    (tells : holds = false → complaint.diagnostic.Tells) :
    AllTell (Scope.demand holds complaint) := by
  cases holds with
  | true => exact nothing
  | false => exact refusal (tells rfl)

theorem resolving {α : Type} {found : Except IndexSpace α} {index : Nat}
    {rest : α → List Action} (tell : ∀ value, AllTell (rest value)) :
    AllTell (Scope.resolving found index rest) := by
  cases found with
  | ok value => exact tell value
  | error space => exact refusal trivial

variable {scope : Scope}

theorem requiring {feature : Feature} {name : String} (tell : AllTell actions) :
    AllTell (scope.requiring feature name actions) := by
  unfold Scope.requiring
  split
  · exact tell
  · exact refusal trivial

theorem requiring_simd_for {op : Opcode} (tell : AllTell actions) :
    AllTell (scope.requiringSimdFor op actions) := by
  unfold Scope.requiringSimdFor
  split
  · exact requiring tell
  · exact tell

theorem accessing {op : Opcode} {arg : MemArg} {operation : Limits → Operation}
    (continues : ∀ limits, (operation limits).role ≠ .closes) :
    AllTell (scope.accessing op arg operation) :=
  resolving fun limits => append (demand fun _ => trivial) (one (continues limits))

theorem data_segment_refusal (index : Nat) : AllTell (scope.dataSegmentRefusal index) := by
  unfold Scope.dataSegmentRefusal
  split
  · exact nothing
  · exact refusal trivial
  · exact refusal trivial

theorem block_signature (name : String) (type : BlockType) :
    AllTell (scope.blockSignature name type).2 := by
  unfold Scope.blockSignature
  split
  · unfold Scope.arityRefusal
    split
    · exact nothing
    · exact requiring nothing
  · exact refusal trivial
  · exact nothing

theorem clause_actions (clause : CatchClause) : AllTell (scope.clauseActions clause) := by
  unfold Scope.clauseActions
  dsimp only
  split
  · exact one nofun
  · exact resolving fun _ => one nofun

/-- Elements are refused only if their type is not the one of the table. -/
theorem element_refusal (name : String) (actual expected : ValueType) :
    AllTell (scope.elementRefusal name actual expected) := by
  refine demand fun misfit => ?_
  intro same
  rw [same, scope.module.types.compatible_refl] at misfit
  cases misfit

theorem enter_actions (opening : Opening) (type : BlockType) :
    AllTell (scope.enterActions opening type) :=
  append (block_signature _ _) (one nofun)

end Action.AllTell

/-! ## Instructions -/

def Instruction.closesRegion : Instruction → Bool
  | endBlock | delegate _ => true
  | _ => false

namespace Scope

open WasmTyping.Action (AllTell)

variable (scope : Scope) (depth : Nat)

/-- An instruction that closes no region compares only while one is open. -/
theorem instruction_actions_tell {instruction : Instruction}
    (continues : instruction.closesRegion = false) :
    AllTell (scope.instructionActions depth instruction) := by
  unfold instructionActions
  cases instruction with
  | endBlock | delegate => cases continues
  | unreachable | nop | br | brIf | returnValues | drop | elseArm => exact .one nofun
  | i32Const | i64Const | f32Const | f64Const => exact .one nofun
  | rethrow | throwRef | brOnNull | brOnNonNull | callRef | v128Const | atomicFence | lane
  | shuffle | refNull | refIsNull | refAsNonNull | catchAll => exact .requiring (.one nofun)
  | throwTag | returnCall | tableGet | tableSet | tableSize | tableGrow | tableFill | refFunc =>
      exact .requiring (.resolving fun _ => .one nofun)
  | call | localGet | localSet | localTee | globalGet | elemDrop | memorySize | memoryGrow
  | memoryFill => exact .resolving fun _ => .one nofun
  | enter opening type =>
      dsimp only
      split
      · exact .requiring (.enter_actions _ _)
      · exact .enter_actions _ _
  | tryTable type clauses =>
      refine .requiring (.append (.append (.append (.block_signature _ _) (.one nofun)) ?_)
        (.one nofun))
      intro action member
      obtain ⟨clause, -, inside⟩ := List.mem_flatMap.mp member
      exact AllTell.clause_actions clause action inside
  | catchTag tag =>
      apply AllTell.requiring
      unfold catchActions
      split
      · exact .one nofun
      · exact List.forall_mem_cons.mpr ⟨trivial, AllTell.one nofun⟩
  | brTable targets fallback =>
      refine .append (.append (.one nofun) ?_) (.one nofun)
      intro action member
      obtain ⟨target, -, rfl⟩ := List.mem_map.mp member
      exact nofun
  | callIndirect =>
      exact .resolving fun _ => .resolving fun _ =>
        .append (.demand fun _ => trivial) (.one nofun)
  | tableCopy | tableInit =>
      exact .resolving fun _ => .resolving fun _ => .append (.element_refusal _ _ _) (.one nofun)
  | returnCallIndirect =>
      exact .requiring (.resolving fun _ => .resolving fun _ =>
        .append (.demand fun _ => trivial) (.one nofun))
  | returnCallRef => exact .requiring (.requiring (.one nofun))
  | select declared =>
      cases declared with
      | none => exact .one nofun
      | some type => exact .requiring (.one nofun)
  | globalSet => exact .resolving fun _ => .append (.demand fun _ => trivial) (.one nofun)
  | memoryCopy => exact .resolving fun _ => .resolving fun _ => .one nofun
  | memoryInit => exact .resolving fun _ => .append (.data_segment_refusal _) (.one nofun)
  | dataDrop segment =>
      have refusals : AllTell (scope.dataSegmentRefusal segment) := .data_segment_refusal segment
      dsimp only
      split
      · exact .one nofun
      · exact refusals
  | numeric => exact .requiring_simd_for (.one nofun)
  | access kind op arg =>
      dsimp only
      split
      · exact .requiring (.accessing fun _ => nofun)
      · exact .requiring_simd_for (.accessing fun _ => nofun)
  | laneAccess => exact .requiring (.accessing fun _ => nofun)

theorem run_instruction_tells (instruction : Instruction) :
    (Action.runAll (scope.instructionActions depth instruction)).Tells := by
  rcases closing : instruction.closesRegion with _ | _
  · exact Action.run_all_tells (scope.instruction_actions_tell depth closing)
  · cases instruction with
    | endBlock =>
        show (Action.runAll (scope.endActions depth)).Tells
        unfold endActions
        split
        · split <;> exact Action.run_one_tells _
        · exact Action.run_one_tells _
    | delegate target =>
        show (Action.runAll (scope.requiring _ _ _)).Tells
        unfold requiring
        split
        · exact Action.run_one_tells _
        · exact Action.run_all_tells (.refusal trivial)
    | _ => cases closing

theorem run_actions_tells (instruction : Instruction) :
    (Action.runAll (scope.actions depth instruction)).Tells := by
  unfold actions
  split
  · exact scope.run_instruction_tells depth instruction
  · split
    · exact Action.run_all_tells (.refusal trivial)
    · split
      · exact scope.run_instruction_tells depth instruction
      · exact Action.run_all_tells (.refusal trivial)

/-! ## Bodies -/

variable (stopping : Bool)

/-- Along a body a region is open until the body has ended. -/
theorem trail_tells (body : List Instruction) (closed : Bool) (state : State)
    (disciplined : state.Disciplined) (opened : closed = false → state.labels ≠ []) :
    ∀ outcome ∈ scope.trail stopping body closed state, outcome.Tells := by
  induction body generalizing closed state with
  | nil =>
      cases closed with
      | true => exact List.forall_mem_nil _
      | false => exact List.forall_mem_singleton.mpr (Outcome.Tells.complain trivial)
  | cons instruction rest ih =>
      rw [trail, List.forall_mem_cons, step_eq_check]
      cases closed with
      | true =>
          have ended : (Check.complain ⟨.afterEnd instruction.name scope.kind, .afterEnd⟩
              scope.environment state).Tells := .complain trivial
          exact ⟨ended, List.forall_mem_nil _⟩
      | false =>
          have ready : state.Ready := ⟨opened rfl, disciplined.grounded⟩
          refine ⟨scope.run_actions_tells _ instruction _ state ready, ?_⟩
          split
          · exact List.forall_mem_nil _
          · apply ih
            · exact Action.run_all_disciplined disciplined _ _
            · intro continues
              simpa using continues

theorem body_trail_tells (body : List Instruction) :
    ∀ outcome ∈ scope.bodyTrail stopping body, outcome.Tells := by
  apply trail_tells
  · exact State.empty_disciplined.run _ _
  · intro _
    unfold opening
    split <;> exact List.cons_ne_nil _ _

end Scope

theorem Validator.reports_tell (validator : Validator) (task : Task) :
    ∀ report ∈ (validator.perform task).reports, report.diagnostic.Tells := by
  intro report member
  cases resolved : task.scope validator.module validator.config.features with
  | error space =>
      obtain ⟨-, index, reports⟩ := perform_of_unresolved resolved
      rw [reports] at member
      cases List.mem_singleton.mp member
      trivial
  | ok scope =>
      obtain ⟨-, reports⟩ := perform_of_resolved resolved
      rw [reports] at member
      obtain ⟨index, outcome, found, inside⟩ :=
        mem_reports_from_iff.mp (List.mem_of_mem_take member)
      have tells := scope.body_trail_tells _ _ outcome (List.mem_of_getElem? found)
      exact tells report.diagnostic (Outcome.mem_located_iff.mp inside).2

/-- In every state with an open label that steps can lead to, and along every body, a
message about a mismatch shows an expectation and a finding that differ as texts. -/
theorem mismatch_messages_show_a_difference :
    (∀ (env : Environment) (history : List Operation),
      (State.empty.after env history).labels ≠ [] →
      ∀ operation : Operation,
        ∀ diagnostic ∈ (operation.run env (State.empty.after env history)).diagnostics,
          diagnostic.ShowsDifference) ∧
    ∀ (validator : Validator) (task : Task),
      ∀ report ∈ (validator.perform task).reports, report.diagnostic.ShowsDifference := by
  constructor
  · intro env history opened operation diagnostic member
    have grounded := (State.empty_disciplined.after env history).grounded
    exact (operation.run_tells env _ ⟨opened, grounded⟩ diagnostic member).shows
  · intro validator task report member
    exact (validator.reports_tell task report member).shows

/-- A `select` whose deepest operand is of another type, above operands that are left out,
and a body that copies between tables of different elements. -/
theorem select_and_table_copy_show_a_difference :
    let types : Registry := Registry.empty.insert 0 ⟨[], []⟩
    let env : Environment := ⟨types, .all⟩
    let history : List Operation := [.beginFunction [],
      .plain (.constant .i32), .plain (.constant .f32), .plain (.constant .i64),
      .plain (.constant .i32)]
    let selected : Diagnostic :=
      .mismatch .inside "select" [.i64, .i64, .i32] [.f32, .i64, .i32] true
    let limits : Limits := ⟨1, none, false, false⟩
    let module : Module := { Module.ofTypes types with
      functions := [0], tables := [⟨.funcref true, limits⟩, ⟨.externref true, limits⟩] }
    let validator := Validator.start module ⟨.all, false, 4⟩
    let task : Task := .function 0 [] [.i32Const 0, .i32Const 0, .i32Const 0, .tableCopy 0 1,
      .endBlock]
    let copied : Report :=
      ⟨some 3, .elementMismatch "table.copy" (.funcref true) (.externref true)⟩
    ((State.empty.after env history).labels ≠ [] ∧
      selected ∈ (Operation.run (.select none) env (State.empty.after env history)).diagnostics ∧
      selected.text =
        "type mismatch in select, expected [i64, i64, i32] but got [... f32, i64, i32]" ∧
      selected.ShowsDifference) ∧
    copied ∈ (validator.perform task).reports ∧
      copied.text =
        "@3: type mismatch in table.copy, expected element type funcref but got externref" ∧
      copied.diagnostic.ShowsDifference := by
  intro types env history selected limits module validator task copied
  have opened : (State.empty.after env history).labels ≠ [] := by decide
  have said : selected ∈
      (Operation.run (.select none) env (State.empty.after env history)).diagnostics := by
    decide +kernel
  have reported : copied ∈ (validator.perform task).reports := by decide +kernel
  exact ⟨⟨opened, said, by decide +kernel,
      mismatch_messages_show_a_difference.1 env history opened _ selected said⟩,
    reported, by decide +kernel,
    mismatch_messages_show_a_difference.2 validator task copied reported⟩

end WasmTyping
