import WasmTyping.Proofs.BodyBracketing
import WasmTyping.Proofs.DeclarativeTyping
import WasmTyping.Proofs.TableBranches
import WasmTyping.Proofs.WiderScopes

/-!
# Immediates of accepted bodies

An instruction names what it works on by indices and depths, and selects alignments and
lanes by number. Each kind of instruction looks its own immediates up, some of them before
the checker takes a step and some of them within that step, and a failed look-up does not
always end the instruction. In an accepted body all the same every immediate names
something: what the table of immediates lists for an instruction exists in the module, in
the body, or among the labels that are open where the instruction stands. That number of
labels is read off the instructions before it.

A `delegate` counts its depth on by one and stays at the greatest depth. So a `delegate` to
the greatest depth needs fewer than `2 ^ 32` open labels for this, and the body that shows
it is one case of any number of nested `try` regions.
-/

set_option autoImplicit false

namespace WasmTyping

/-! ## What instructions name -/

/-- Something that an instruction names or selects. -/
inductive Immediate where
  | localVariable (index : Nat)
  | global (index : Nat)
  /-- A global that is written to. -/
  | mutableGlobal (index : Nat)
  | function (index : Nat)
  /-- A function whose signature is needed. -/
  | callee (index : Nat)
  | table (index : Nat)
  | memory (index : Nat)
  | tag (index : Nat)
  | element (segment : Nat)
  | data (segment : Nat)
  | type (index : Nat)
  | label (depth : Nat)
  /-- A label, counted from outside the innermost region. -/
  | outerLabel (depth : Nat)
  | alignment (op : Opcode) (exponent : Nat)
  | lane (count index : Nat)
  deriving DecidableEq

/-- An immediate names something in a module, for a body with a number of locals and where a
number of labels are open. -/
def Immediate.Resolves (module : Module) (locals labels : Nat) : Immediate → Prop
  | localVariable index => index < locals
  | global index => index < module.globals.length
  | mutableGlobal index =>
    ∃ global, module.globals[index]? = some global ∧ global.isMutable = true
  | function index => index < module.functions.length
  | callee index =>
    ∃ type, module.functions[index]? = some type ∧ module.types.contains type = true
  | table index => index < module.tables.length
  | memory index => index < module.memories.length
  | tag index => ∃ type, module.tags[index]? = some type ∧ module.types.contains type = true
  | element segment => segment < module.elements.length
  | data segment => ∃ count, module.dataCount = some count ∧ segment < count
  | type index => module.types.contains index = true
  | label depth => depth < labels
  | outerLabel depth => depth + 1 < labels
  | alignment op exponent =>
    exponent < 32 ∧ Nat.pow 2 exponent ≤ op.memorySize ∧
      (op.isAtomic = true → Nat.pow 2 exponent = op.memorySize)
  | lane count index => index < count

def BlockType.immediates : BlockType → List Immediate
  | .index type => [.type type]
  | .empty | .value _ => []

def CatchClause.immediates (clause : CatchClause) : List Immediate :=
  clause.tag.toList.map .tag ++ [.label clause.depth]

namespace Instruction

/-- The immediates of an instruction. -/
def immediates : Instruction → List Immediate
  | enter _ type => type.immediates
  | tryTable type clauses => type.immediates ++ clauses.flatMap CatchClause.immediates
  | catchTag tag | throwTag tag => [.tag tag]
  | delegate depth => [.outerLabel depth]
  | rethrow depth | br depth | brIf depth | brOnNull depth | brOnNonNull depth => [.label depth]
  | brTable targets fallback => (targets ++ [fallback]).map .label
  | call function | returnCall function => [.callee function]
  | callIndirect table type | returnCallIndirect table type => [.table table, .type type]
  | callRef type | returnCallRef type => [.type type]
  | localGet index | localSet index | localTee index => [.localVariable index]
  | globalGet index => [.global index]
  | globalSet index => [.mutableGlobal index]
  | tableGet table | tableSet table | tableSize table | tableGrow table | tableFill table =>
    [.table table]
  | tableCopy target source => [.table target, .table source]
  | tableInit table segment => [.table table, .element segment]
  | elemDrop segment => [.element segment]
  | memorySize memory | memoryGrow memory | memoryFill memory => [.memory memory]
  | memoryCopy target source => [.memory target, .memory source]
  | memoryInit memory segment => [.memory memory, .data segment]
  | dataDrop segment => [.data segment]
  | access _ op arg => [.memory arg.memory, .alignment op arg.align]
  | lane op index => [.lane op.laneCount index.toNat]
  | shuffle _ lanes => lanes.toList.map fun lane => .lane 32 lane.toNat
  | laneAccess _ op arg index =>
    [.memory arg.memory, .alignment op arg.align, .lane op.laneCount index.toNat]
  | refFunc function => [.function function]
  | unreachable | nop | elseArm | endBlock | catchAll | throwRef | returnValues | drop => []
  | i32Const _ | i64Const _ | f32Const _ | f64Const _ | v128Const _ | numeric _ _ => []
  | select _ | atomicFence | refNull _ | refIsNull | refAsNonNull => []

/-- The number of open labels after an instruction, given the number before it. -/
def labelsAfter (labels : Nat) : Instruction → Nat
  | enter _ _ | tryTable _ _ => labels + 1
  | endBlock | delegate _ => labels - 1
  | _ => labels

end Instruction

/-- The number of labels open after the first instructions of a body, that of the body
itself among them. -/
def openLabels (before : List Instruction) : Nat :=
  before.foldl Instruction.labelsAfter 1

/-! ## Look-ups -/

namespace Module

variable {module : Module} {index : Nat}

theorem lt_of_lookup {α : Type} {space : IndexSpace} {items : List α} {value : α}
    (found : lookup space items[index]? = .ok value) : index < items.length :=
  (List.getElem?_eq_some_iff.mp (lookup_ok_iff.mp found)).1

theorem contains_of_type_at {type : FuncType} (found : module.typeAt index = .ok type) :
    module.types.contains index = true := by
  rw [Registry.contains, lookup_ok_iff.mp found]
  rfl

theorem contains_of_function_type {type : FuncType}
    (found : module.functionType index = .ok type) :
    ∃ named, module.functions[index]? = some named ∧ module.types.contains named = true := by
  obtain ⟨named, listed, typed⟩ := bind_ok_iff.mp found
  exact ⟨named, lookup_ok_iff.mp listed, contains_of_type_at typed⟩

theorem contains_of_tag_params {values : List ValueType}
    (found : module.tagParams index = .ok values) :
    ∃ named, module.tags[index]? = some named ∧ module.types.contains named = true := by
  obtain ⟨named, listed, rest⟩ := bind_ok_iff.mp found
  obtain ⟨_, typed, -⟩ := bind_ok_iff.mp rest
  exact ⟨named, lookup_ok_iff.mp listed, contains_of_type_at typed⟩

theorem lt_of_check_data_segment {segment : Nat}
    (passed : module.checkDataSegment segment = .ok ()) :
    ∃ count, module.dataCount = some count ∧ segment < count := by
  unfold checkDataSegment at passed
  split at passed
  · cases passed
  · next count found =>
      split at passed
      · exact ⟨count, found, by assumption⟩
      · cases passed

end Module

/-! ## Checks that need a label -/

namespace Check

variable {α : Type} {env : Environment} {state next : State}

theorem accepted_of_bind {check : Check α} {rest : α → Check Unit}
    (accepted : (check >>= rest).accepted env state = some next) :
    ∃ value, (rest value).accepted env (check env state).state = some next := by
  cases result : (check env state).result with
  | error fault =>
      have failed : ((check >>= rest) env state).result = .error fault := by
        rw [bind_apply_error result]
      rw [accepted_of_error failed] at accepted
      cases accepted
  | ok value =>
      refine ⟨value, ?_⟩
      unfold Check.accepted at accepted ⊢
      rw [bind_apply_ok result] at accepted
      exact accepted

/-- Every check of a list that is accepted was accepted in some state. -/
theorem accepted_of_all {checks : List (Check Unit)}
    (accepted : (all checks).accepted env state = some next) :
    ∀ check ∈ checks, ∃ before after, check.accepted env before = some after := by
  induction checks generalizing state with
  | nil => exact List.forall_mem_nil _
  | cons check rest ih =>
      rw [all_cons, also_accepted] at accepted
      obtain ⟨middle, first, others⟩ := Option.bind_eq_some_iff.mp accepted
      exact List.forall_mem_cons.mpr ⟨⟨state, middle, first⟩, ih others⟩

theorem lt_of_check_lane {count lane : Nat} {fault : Fault}
    (accepted : (checkLane count lane fault).accepted env state = some next) : lane < count := by
  rw [checkLane, ensure, ask_accepted] at accepted
  split at accepted
  · next holds => exact of_decide_eq_true holds
  · cases accepted

theorem accepted_of_also {first rest : Check Unit}
    (accepted : (first.also rest).accepted env state = some next) :
    ∃ middle, first.accepted env state = some middle := by
  rw [also_accepted] at accepted
  obtain ⟨middle, reached, -⟩ := Option.bind_eq_some_iff.mp accepted
  exact ⟨middle, reached⟩

/-- A check that is accepted only where a depth names a label. -/
def Names (depth : Nat) (check : Check Unit) : Prop :=
  ∀ (env : Environment) (state next : State), check.accepted env state = some next →
    depth < state.labels.length

namespace Names

variable {depth : Nat}

theorem resolve (rest : Label → Check Unit) : (Check.resolve depth >>= rest).Names depth := by
  intro env state next accepted
  rw [resolve_bind_accepted] at accepted
  obtain ⟨label, found, -⟩ := Option.bind_eq_some_iff.mp accepted
  exact (List.getElem?_eq_some_iff.mp found).1

/-- Ordinary changes before it keep the number of labels. -/
theorem bind {check : Check α} {rest : α → Check Unit} (edits : check.Edits)
    (names : ∀ value, (rest value).Names depth) : (check >>= rest).Names depth := by
  intro env state next accepted
  obtain ⟨value, accepted⟩ := accepted_of_bind accepted
  have kinds := congrArg List.length (edits env state).kinds
  simp only [State.kinds, List.length_map] at kinds
  rw [← kinds]
  exact names value env _ next accepted

theorem br : (Check.br depth).Names depth := resolve _

theorem br_if : (Check.brIf depth).Names depth :=
  bind (.attempt (.pop_signature _ _)) fun _ => resolve _

theorem br_on_null : (Check.brOnNull depth).Names depth :=
  bind (.pop_reference _) fun _ => resolve _

theorem br_on_non_null : (Check.brOnNonNull depth).Names depth :=
  bind (.pop_reference _) fun _ => resolve _

theorem rethrow : (Check.rethrow depth).Names depth := by
  intro env state next accepted
  rw [Check.rethrow, ask_bind_accepted] at accepted
  obtain ⟨_, found, -⟩ := Option.bind_eq_some_iff.mp accepted
  cases answer : state.checkRethrow depth with
  | error complaint =>
      rw [answer] at found
      cases found
  | ok _ =>
      obtain ⟨label, named, -⟩ := (state.check_rethrow_ok_iff depth).mp answer
      exact (List.getElem?_eq_some_iff.mp named).1

theorem try_table_catch (values : List ValueType) :
    (Check.tryTableCatch values depth).Names depth := by
  intro env state next accepted
  rw [Check.tryTableCatch, ask_accepted, checkCatchValues] at accepted
  cases answer : state.resolve depth with
  | error complaint =>
      rw [answer] at accepted
      cases accepted
  | ok label =>
      have named := (state.resolve_eq_ok_iff depth label).mp answer
      exact (List.getElem?_eq_some_iff.mp named).1

end Names

/-- Each target of a table names a label. -/
theorem lt_of_br_table {targets : List Nat} (opened : state.labels ≠ [])
    (accepted : (brTable targets).accepted env state = some next) :
    ∀ target ∈ targets, target < state.labels.length := by
  intro target member
  obtain ⟨-, branches, -⟩ := (br_table_ok_iff opened targets).mp (ok_of_accepted accepted)
  obtain ⟨label, named, -⟩ := (br_ok_iff target).mp (branches target member)
  rw [State.remove_labels] at named
  exact (List.getElem?_eq_some_iff.mp named).1

/-- The depth of a `delegate` is counted from outside the region it closes. The greatest depth
cannot be counted on, which makes no difference while there are no labels so far out. -/
theorem outer_label_of_delegate {depth : Nat}
    (few : greatestDepth ≤ depth → state.labels.length ≤ greatestDepth)
    (accepted : (delegate depth).accepted env state = some next) :
    depth + 1 < state.labels.length := by
  have named : min (depth + 1) greatestDepth < state.labels.length :=
    Names.resolve _ env state next accepted
  omega

theorem contains_of_resolve_type {index : Nat} {rest : FuncType → Check Unit}
    (accepted : (resolveType index >>= rest).accepted env state = some next) :
    env.types.contains index = true := by
  rw [resolveType, ask_bind_accepted] at accepted
  obtain ⟨type, found, -⟩ := Option.bind_eq_some_iff.mp accepted
  rw [Registry.contains]
  cases registered : env.types.get? index with
  | none =>
      rw [registered] at found
      cases found
  | some type => rfl

end Check

/-! ## One instruction -/

namespace Action

variable {env : Environment} {state next : State} {actions : List Action}

theorem Perform.labels_length (performs : Perform Operation.isOrdinary actions)
    (accepted : (runAll actions).accepted env state = some next) :
    next.labels.length = state.labels.length := by
  have kinds : next.kinds = state.kinds := by
    rw [← Check.state_of_accepted accepted]
    exact performs.kinds
  simpa only [State.kinds, List.length_map] using congrArg List.length kinds

end Action

namespace Scope

variable {scope : Scope} {state next : State}

theorem found_of_resolving {α : Type} {found : Except IndexSpace α} {index : Nat}
    {rest : α → List Action} {env : Environment}
    (accepted : (Action.runAll (resolving found index rest)).accepted env state = some next) :
    ∃ value, found = .ok value ∧ (Action.runAll (rest value)).accepted env state = some next := by
  cases found with
  | error space =>
      rw [resolving, Action.run_all_refuse_accepted] at accepted
      cases accepted
  | ok value => exact ⟨value, rfl, accepted⟩

theorem holds_of_demand {holds : Bool} {complaint : Complaint} {env : Environment}
    (accepted : (Action.runAll (demand holds complaint)).accepted env state = some next) :
    holds = true := by
  cases holds with
  | true => rfl
  | false =>
      rw [demand, if_neg Bool.false_ne_true, Action.run_all_refuse_accepted] at accepted
      cases accepted

variable (scope state) in
/-- An immediate names something where an instruction of a body stands. -/
def Resolves (immediate : Immediate) : Prop :=
  immediate.Resolves scope.module scope.locals.length state.labels.length

theorem resolves_of_names {operation : Operation} {depth : Nat} {env : Environment}
    (names : operation.run.Names depth)
    (accepted : (Action.runAll [.perform operation]).accepted env state = some next) :
    ∀ immediate ∈ [.label depth], scope.Resolves state immediate := by
  rw [Action.run_all_perform_accepted] at accepted
  exact List.forall_mem_singleton.mpr (names env state next accepted)

theorem resolves_of_callee {function : Nat} {rest : FuncType → List Action} {env : Environment}
    (accepted : (Action.runAll (resolving (scope.module.functionType function) function
      rest)).accepted env state = some next) :
    ∀ immediate ∈ [.callee function], scope.Resolves state immediate := by
  obtain ⟨_, found, -⟩ := found_of_resolving accepted
  exact List.forall_mem_singleton.mpr (Module.contains_of_function_type found)

theorem resolves_of_indirect_callee {index type : Nat}
    {rest : TableType → FuncType → List Action} {env : Environment}
    (accepted : (Action.runAll (resolving (scope.module.table index) index fun table =>
      resolving (scope.module.typeAt type) type (rest table))).accepted env state = some next) :
    ∀ immediate ∈ [.table index, .type type], scope.Resolves state immediate := by
  obtain ⟨_, tableFound, accepted⟩ := found_of_resolving accepted
  obtain ⟨_, typeFound, -⟩ := found_of_resolving accepted
  exact List.forall_mem_cons.mpr ⟨Module.lt_of_lookup tableFound,
    List.forall_mem_singleton.mpr (Module.contains_of_type_at typeFound)⟩

/-- A call through a reference resolves its type within the step. -/
theorem resolves_of_referenced_callee {operation : Operation} {type : Nat}
    {call : FuncType → Check Unit} (resolves : operation.run = Check.resolveType type >>= call)
    (accepted : (Action.runAll [.perform operation]).accepted scope.environment state =
      some next) :
    ∀ immediate ∈ [.type type], scope.Resolves state immediate := by
  rw [Action.run_all_perform_accepted, resolves] at accepted
  exact List.forall_mem_singleton.mpr (Check.contains_of_resolve_type accepted)

theorem resolves_of_data_segment {segment : Nat} {env : Environment}
    (accepted : (Action.runAll (scope.dataSegmentRefusal segment)).accepted env state =
      some next) : scope.Resolves state (.data segment) := by
  unfold dataSegmentRefusal at accepted
  split at accepted
  · next passed => exact Module.lt_of_check_data_segment passed
  all_goals
    rw [Action.run_all_refuse_accepted] at accepted
    cases accepted

theorem resolves_of_block_type {name : String} {type : BlockType} {env : Environment}
    (accepted : (Action.runAll (scope.blockSignature name type).2).accepted env state =
      some next) : ∀ immediate ∈ type.immediates, scope.Resolves state immediate := by
  cases type with
  | empty => exact List.forall_mem_nil _
  | value result => exact List.forall_mem_nil _
  | index index =>
      refine List.forall_mem_singleton.mpr ?_
      cases found : scope.module.typeAt index with
      | error space =>
          simp only [blockSignature, Module.blockSignature, found,
            Action.run_all_refuse_accepted] at accepted
          cases accepted
      | ok signature => exact Module.contains_of_type_at found

theorem resolves_of_accessing {op : Opcode} {arg : MemArg} {operation : Limits → Operation}
    {env : Environment}
    (accepted : (Action.runAll (scope.accessing op arg operation)).accepted env state =
      some next) :
    scope.Resolves state (.memory arg.memory) ∧ scope.Resolves state (.alignment op arg.align) ∧
      ∃ limits before, (operation limits).run.accepted env before = some next := by
  obtain ⟨limits, found, accepted⟩ := found_of_resolving accepted
  obtain ⟨middle, aligned, performed⟩ := Action.accepted_of_append accepted
  rw [Action.run_all_perform_accepted] at performed
  refine ⟨Module.lt_of_lookup found, ?_, limits, middle, performed⟩
  have valid := holds_of_demand aligned
  simp only [Opcode.isValidAlignment, Bool.and_eq_true, decide_eq_true_eq] at valid
  obtain ⟨small, valid⟩ := valid
  refine ⟨small, ?_⟩
  cases atomic : op.isAtomic with
  | true =>
      have natural : Nat.pow 2 arg.align = op.memorySize := by simpa [atomic] using valid
      exact ⟨Nat.le_of_eq natural, fun _ => natural⟩
  | false => exact ⟨by simpa [atomic] using valid, nofun⟩

theorem resolves_of_clause {clause : CatchClause} {env : Environment}
    (accepted : (Action.runAll (scope.clauseActions clause)).accepted env state = some next) :
    ∀ immediate ∈ clause.immediates, scope.Resolves state immediate := by
  unfold clauseActions at accepted
  unfold CatchClause.immediates
  cases tag : clause.tag with
  | none =>
      simp only [tag] at accepted
      exact resolves_of_names (.try_table_catch _) accepted
  | some index =>
      simp only [tag] at accepted
      obtain ⟨values, found, accepted⟩ := found_of_resolving accepted
      exact List.forall_mem_cons.mpr ⟨Module.contains_of_tag_params found,
        resolves_of_names (.try_table_catch _) accepted⟩

/-- Clauses leave the labels as they are, so each of them finds those the first one finds. -/
theorem resolves_of_clauses {clauses : List CatchClause} {env : Environment}
    (accepted : (Action.runAll (clauses.flatMap scope.clauseActions)).accepted env state =
      some next) :
    ∀ immediate ∈ clauses.flatMap CatchClause.immediates, scope.Resolves state immediate := by
  induction clauses generalizing state with
  | nil => exact List.forall_mem_nil _
  | cons clause rest ih =>
      rw [List.flatMap_cons] at accepted
      obtain ⟨middle, first, others⟩ := Action.accepted_of_append accepted
      have kept : middle.labels.length = state.labels.length :=
        (Action.Perform.clause_actions (fun _ _ => rfl) clause).labels_length first
      rw [List.flatMap_cons, List.forall_mem_append]
      refine ⟨resolves_of_clause first, ?_⟩
      intro immediate member
      have resolved := ih others immediate member
      rwa [Resolves, kept] at resolved

theorem resolves_of_try_table {type : BlockType} {clauses : List CatchClause} {env : Environment}
    (accepted : (Action.runAll (scope.tryTableActions type clauses)).accepted env state =
      some next) :
    ∀ immediate ∈ type.immediates ++ clauses.flatMap CatchClause.immediates,
      scope.Resolves state immediate := by
  obtain ⟨checked, accepted, -⟩ := Action.accepted_of_append accepted
  obtain ⟨begun, opened, clausesAccepted⟩ := Action.accepted_of_append accepted
  obtain ⟨_, refusals, -⟩ := Action.accepted_of_append opened
  have kept : begun.labels.length = state.labels.length :=
    (Action.Perform.append (.block_signature _ _) (.one rfl)).labels_length opened
  rw [List.forall_mem_append]
  refine ⟨resolves_of_block_type refusals, ?_⟩
  intro immediate member
  have resolved := resolves_of_clauses clausesAccepted immediate member
  rwa [Resolves, kept] at resolved

/-- Whatever an accepted instruction names is there. -/
theorem immediates_resolve (opened : state.labels ≠ []) {depth : Nat} {instruction : Instruction}
    (few : ∀ target, instruction = .delegate target → Check.greatestDepth ≤ target →
      state.labels.length ≤ Check.greatestDepth)
    (accepted : (Action.runAll (scope.instructionActions depth instruction)).accepted
      scope.environment state = some next) :
    ∀ immediate ∈ instruction.immediates, scope.Resolves state immediate := by
  cases instruction with
  | enter opening type =>
      have entered : (Action.runAll (scope.enterActions opening type)).accepted
          scope.environment state = some next := by
        unfold instructionActions at accepted
        dsimp only at accepted
        split at accepted
        · exact (accepted_of_requiring accepted).2
        · exact accepted
      obtain ⟨_, refusals, -⟩ := Action.accepted_of_append entered
      exact resolves_of_block_type refusals
  | tryTable type clauses => exact resolves_of_try_table (accepted_of_requiring accepted).2
  | catchTag tag =>
      refine List.forall_mem_singleton.mpr ?_
      have caught := (accepted_of_requiring accepted).2
      unfold catchActions at caught
      split at caught
      · next found => exact Module.contains_of_tag_params found
      · rw [← List.singleton_append, Action.run_all_append_accepted,
          Action.run_all_refuse_accepted] at caught
        cases caught
  | throwTag tag =>
      obtain ⟨_, found, -⟩ := found_of_resolving (accepted_of_requiring accepted).2
      exact List.forall_mem_singleton.mpr (Module.contains_of_tag_params found)
  | delegate target =>
      have closed := (accepted_of_requiring accepted).2
      rw [Action.run_all_perform_accepted] at closed
      exact List.forall_mem_singleton.mpr (Check.outer_label_of_delegate (few target rfl) closed)
  | rethrow target => exact resolves_of_names .rethrow (accepted_of_requiring accepted).2
  | br target => exact resolves_of_names .br accepted
  | brIf target => exact resolves_of_names .br_if accepted
  | brOnNull target => exact resolves_of_names .br_on_null (accepted_of_requiring accepted).2
  | brOnNonNull target => exact resolves_of_names .br_on_non_null (accepted_of_requiring accepted).2
  | brTable targets fallback =>
      rw [br_table_actions] at accepted
      exact List.forall_mem_map.mpr (Check.lt_of_br_table opened accepted)
  | call function => exact resolves_of_callee accepted
  | returnCall function => exact resolves_of_callee (accepted_of_requiring accepted).2
  | callIndirect table type => exact resolves_of_indirect_callee accepted
  | returnCallIndirect table type =>
      exact resolves_of_indirect_callee (accepted_of_requiring accepted).2
  | callRef type => exact resolves_of_referenced_callee rfl (accepted_of_requiring accepted).2
  | returnCallRef type =>
      exact resolves_of_referenced_callee rfl
        (accepted_of_requiring (accepted_of_requiring accepted).2).2
  | localGet index | localSet index | localTee index | globalGet index | memorySize index
  | memoryGrow index | memoryFill index | elemDrop index =>
      obtain ⟨_, found, -⟩ := found_of_resolving accepted
      exact List.forall_mem_singleton.mpr (Module.lt_of_lookup found)
  | tableGet index | tableSet index | tableSize index | tableGrow index | tableFill index
  | refFunc index =>
      obtain ⟨_, found, -⟩ := found_of_resolving (accepted_of_requiring accepted).2
      exact List.forall_mem_singleton.mpr (Module.lt_of_lookup found)
  | globalSet index =>
      obtain ⟨global, found, accepted⟩ := found_of_resolving accepted
      obtain ⟨_, demanded, -⟩ := Action.accepted_of_append accepted
      exact List.forall_mem_singleton.mpr
        ⟨global, Module.lookup_ok_iff.mp found, holds_of_demand demanded⟩
  | tableCopy target source | tableInit target source | memoryCopy target source =>
      obtain ⟨_, first, accepted⟩ := found_of_resolving accepted
      obtain ⟨_, second, -⟩ := found_of_resolving accepted
      exact List.forall_mem_cons.mpr ⟨Module.lt_of_lookup first,
        List.forall_mem_singleton.mpr (Module.lt_of_lookup second)⟩
  | memoryInit memory segment =>
      obtain ⟨_, found, accepted⟩ := found_of_resolving accepted
      obtain ⟨_, refusals, -⟩ := Action.accepted_of_append accepted
      exact List.forall_mem_cons.mpr ⟨Module.lt_of_lookup found,
        List.forall_mem_singleton.mpr (resolves_of_data_segment refusals)⟩
  | dataDrop segment =>
      refine List.forall_mem_singleton.mpr ?_
      unfold instructionActions at accepted
      dsimp only at accepted
      split at accepted
      · next passed =>
          -- the step is taken only where there is nothing to refuse
          have unrefused : (Action.runAll (scope.dataSegmentRefusal segment)).accepted
              scope.environment state = some state := by
            rw [passed]
            rfl
          exact resolves_of_data_segment unrefused
      · exact resolves_of_data_segment accepted
  | access kind op arg =>
      have accessed : (Action.runAll (scope.accessing op arg fun limits =>
          .plain (.access op limits))).accepted scope.environment state = some next := by
        unfold instructionActions at accepted
        dsimp only at accepted
        split at accepted
        · exact (accepted_of_requiring accepted).2
        · exact (accepted_of_requiring_simd accepted).2
      obtain ⟨memory, aligned, -⟩ := resolves_of_accessing accessed
      exact List.forall_mem_cons.mpr ⟨memory, List.forall_mem_singleton.mpr aligned⟩
  | lane op index =>
      have performed := (accepted_of_requiring accepted).2
      rw [Action.run_all_perform_accepted] at performed
      obtain ⟨_, checked⟩ := Check.accepted_of_also performed
      exact List.forall_mem_singleton.mpr (Check.lt_of_check_lane checked)
  | laneAccess kind op arg index =>
      obtain ⟨memory, aligned, limits, before, performed⟩ :=
        resolves_of_accessing (accepted_of_requiring accepted).2
      obtain ⟨_, checked⟩ := Check.accepted_of_also performed
      exact List.forall_mem_cons.mpr ⟨memory, List.forall_mem_cons.mpr ⟨aligned,
        List.forall_mem_singleton.mpr (Check.lt_of_check_lane checked)⟩⟩
  | shuffle op lanes =>
      have performed := (accepted_of_requiring accepted).2
      rw [Action.run_all_perform_accepted] at performed
      obtain ⟨_, checked⟩ := Check.accepted_of_also performed
      refine List.forall_mem_map.mpr ?_
      intro lane member
      obtain ⟨_, _, accepted⟩ := Check.accepted_of_all checked _
        (List.mem_map_of_mem (List.mem_map_of_mem member))
      exact Check.lt_of_check_lane accepted
  | _ => exact List.forall_mem_nil _

end Scope

/-! ## Nested `try` regions -/

/-- Inside a number of `try` regions that take and give nothing. -/
def Surroundings.inTries (around : Surroundings) : Nat → Surroundings
  | 0 => around
  | count + 1 => (around.inTries count).nest (.start []) .tryBlock [] []

theorem Surroundings.in_tries_outer (around : Surroundings) (count : Nat) :
    (around.inTries count).outer.length = around.outer.length + count := by
  induction count with
  | zero => rfl
  | succ count ih => exact congrArg (· + 1) ih

theorem open_labels_tries (count : Nat) :
    openLabels (List.replicate count (.enter .tryBlock .empty)) = count + 1 := by
  induction count with
  | zero => rfl
  | succ count ih =>
      rw [openLabels, List.replicate_succ', List.foldl_append]
      exact congrArg (· + 1) ih

namespace Scope

variable {scope : Scope} {results : List ValueType} (function : scope.kind = .function results)

include function

theorem completes_open_tries (enabled : scope.features.enabled .exceptions = true)
    (around : Surroundings) (count : Nat) {rest : List Instruction}
    (completes : scope.Completes rest ((around.inTries count).state (.start []))) :
    scope.Completes (List.replicate count (.enter .tryBlock .empty) ++ rest)
      (around.state (.start [])) := by
  induction count generalizing rest with
  | zero => exact completes
  | succ count ih =>
      have entered : scope.advance ((around.inTries count).state (.start []))
          (.enter .tryBlock .empty) = some ((around.inTries (count + 1)).state (.start [])) := by
        rw [enter_advance function _ _ _ _ fun _ => enabled]
        rfl
      -- The region next to the rest is the innermost, so it is split off at the end.
      rw [List.replicate_succ', List.append_assoc]
      exact ih (completes_of_advance entered (List.cons_ne_nil _ _) completes)

theorem completes_close_tries (around : Surroundings) (count : Nat) {rest : List Instruction}
    (completes : scope.Completes rest (around.state (.start []))) :
    scope.Completes (List.replicate count .endBlock ++ rest)
      ((around.inTries count).state (.start [])) := by
  induction count with
  | zero => exact completes
  | succ count ih =>
      rw [List.replicate_succ, List.cons_append]
      have ended := completes_end_iff function (around.inTries count) (.start []) .tryBlock [] []
        (.start []) (List.replicate count .endBlock ++ rest) (by decide)
      exact ended.mpr ⟨rfl, ih⟩

end Scope

/-- Any number of nested `try` regions may stand in a function without results, with a
`delegate` in place of the innermost `end`, if the depth it takes is within them. -/
theorem Scope.completes_tries {scope : Scope} (function : scope.kind = .function [])
    (enabled : scope.features.enabled .exceptions = true) {count depth : Nat}
    (named : min (depth + 1) Check.greatestDepth ≤ count) :
    scope.Completes
      (List.replicate count (.enter .tryBlock .empty) ++
        .delegate depth :: List.replicate count .endBlock)
      (State.empty.enter .function [] []) := by
  have positive : count ≠ 0 := by
    unfold Check.greatestDepth at named
    omega
  obtain ⟨outer, rfl⟩ := Nat.exists_eq_succ_of_ne_zero positive
  have closed : scope.advance (((Surroundings.body []).inTries (outer + 1)).state (.start []))
      (.delegate depth) = some (((Surroundings.body []).inTries outer).state (.start [])) := by
    have within : min (depth + 1) Check.greatestDepth <
        ((Surroundings.body []).inTries outer).outer.length + 2 := by
      rw [Surroundings.in_tries_outer]
      omega
    rw [advance_eq function, instructionActions, requiring_accepted, if_pos enabled,
      Action.run_all_perform_accepted, Operation.run, Surroundings.inTries,
      Check.delegate_accepted, if_pos ⟨within, rfl⟩]
    rfl
  refine completes_open_tries function enabled (.body []) _ ?_
  refine completes_of_advance closed (List.cons_ne_nil _ _) ?_
  rw [List.replicate_succ']
  exact completes_close_tries function (.body []) outer
    ((completes_body_end_iff function _).mpr rfl)

/-! ## Whole bodies -/

theorem Turns.length {instruction : Instruction} {before after : List LabelKind}
    (turns : Turns instruction before after) :
    after.length = instruction.labelsAfter before.length := by
  cases turns with
  | plain isPlain =>
      cases instruction <;> first | rfl | cases isPlain
  | handler head => cases head <;> rfl
  | _ => rfl

/-- Every instruction of a completed body was accepted where as many labels are open as the
instructions before it leave. -/
theorem Scope.Completes.advances_within {scope : Scope} {results : List ValueType}
    (function : scope.kind = .function results) {before after : List Instruction}
    {instruction : Instruction} {state : State} (opened : state.labels ≠ [])
    (completes : scope.Completes (before ++ instruction :: after) state) :
    ∃ current next, scope.advance current instruction = some next ∧ current.labels ≠ [] ∧
      current.labels.length = before.foldl Instruction.labelsAfter state.labels.length := by
  induction before generalizing state with
  | nil =>
      obtain ⟨next, advanced, -⟩ := completes
      exact ⟨state, next, advanced, opened, rfl⟩
  | cons first rest ih =>
      obtain ⟨next, advanced, goesOn⟩ := completes
      obtain ⟨label, outer, labels⟩ := List.exists_cons_of_ne_nil opened
      have counted : next.labels.length = first.labelsAfter state.labels.length := by
        simpa only [State.kinds, List.length_map] using
          (advance_turns function labels advanced).length
      split at goesOn
      · simp at goesOn
      · next stays =>
          rw [List.foldl_cons, ← counted]
          exact ih stays goesOn

/-- Every immediate of every instruction of an accepted body names something in the module,
among the parameters and locals of the body, or among the labels that are open where the
instruction stands. Only for a `delegate` to the greatest depth must there be fewer than
`2 ^ 32` of them. -/
theorem accepted_immediates_resolve (validator : Validator) (index : Nat)
    (locals : List ValueType) (body : List Instruction)
    (accepted : (validator.validateFunction index locals body).verdict = .ok ()) :
    ∃ type, validator.module.functionType index = .ok type ∧
      ∀ before instruction after, body = before ++ instruction :: after →
        (∀ depth, instruction = .delegate depth → Check.greatestDepth ≤ depth →
          openLabels before ≤ Check.greatestDepth) →
        ∀ immediate ∈ instruction.immediates,
          immediate.Resolves validator.module (type.params.length + locals.length)
            (openLabels before) := by
  obtain ⟨type, found, completes⟩ :=
    (validator.validate_function_ok_iff index locals body).mp accepted
  refine ⟨type, found, ?_⟩
  rintro before instruction after rfl few immediate member
  obtain ⟨current, next, advanced, opened, counted⟩ :=
    completes.advances_within rfl (List.cons_ne_nil _ _)
  rw [Scope.advance_eq rfl] at advanced
  have within : ∀ depth, instruction = .delegate depth → Check.greatestDepth ≤ depth →
      current.labels.length ≤ Check.greatestDepth := by
    rw [counted]
    exact few
  have resolved := Scope.immediates_resolve opened within advanced immediate member
  rwa [Scope.Resolves, counted, Scope.ofFunction, List.length_append] at resolved

/-- The store of a lane after a `try` that delegates past itself, in a `try_table` whose
clause branches to a block around it. -/
theorem guarded_lane_store_resolves :
    let module : Module :=
      { Module.ofTypes (Registry.empty.insert 4 ⟨[.i32], []⟩) with
        functions := [4], memories := [.starting64 1, .starting 1], tags := [4] }
    let store : Opcode := ⟨"v128.store32_lane", [.i32, .v128], none, 4, 4, false⟩
    let guarded : List Instruction := [.enter .tryBlock .empty, .localGet 0, .brTable [0] 1]
    let between : List Instruction :=
      [.enter .block (.value .i32), .tryTable .empty [⟨.tag, some 0, 0⟩], .localGet 0,
        .localGet 1]
    let instruction : Instruction := .laneAccess .store store ⟨1, 2, 0⟩ 3
    let rest : List Instruction :=
      between ++ instruction :: [.endBlock, .localGet 0, .endBlock, .drop, .endBlock]
    let validator : Validator := .start module ⟨.all, false, 1⟩
    (validator.validateFunction 0 [.v128] (guarded ++ .delegate 0 :: rest)).verdict = .ok () ∧
      openLabels guarded = 2 ∧ (Immediate.outerLabel 0).Resolves module 2 2 ∧
      openLabels (guarded ++ .delegate 0 :: between) = 3 ∧
      ∀ immediate ∈ [Immediate.memory 1, .alignment store 2, .lane 4 3],
        immediate.Resolves module 2 3 := by
  intro module store guarded between instruction rest validator
  have accepted : (validator.validateFunction 0 [.v128]
      (guarded ++ .delegate 0 :: rest)).verdict = .ok () := by
    decide +kernel
  obtain ⟨type, found, resolves⟩ := accepted_immediates_resolve validator 0 [.v128] _ accepted
  cases found
  have delegated := resolves guarded (.delegate 0) rest rfl (fun _ _ _ => by decide)
  have stored := resolves (guarded ++ .delegate 0 :: between) instruction _ rfl
    (fun _ same => Instruction.noConfusion same)
  exact ⟨accepted, rfl, delegated _ List.mem_cons_self, rfl, stored⟩

/-- Inside as many `try` regions as the greatest depth counts, a `delegate` to that depth is
accepted although it names no label outside the innermost of them. -/
theorem greatest_delegate_names_no_label :
    let module : Module :=
      { Module.ofTypes (Registry.empty.insert 0 ⟨[], []⟩) with functions := [0] }
    let before : List Instruction :=
      List.replicate Check.greatestDepth (.enter .tryBlock .empty)
    let after : List Instruction := List.replicate Check.greatestDepth .endBlock
    let delegate : Instruction := .delegate Check.greatestDepth
    let validator : Validator := .start module ⟨.all, false, 1⟩
    (validator.validateFunction 0 [] (before ++ delegate :: after)).verdict = .ok () ∧
      openLabels before = Check.greatestDepth + 1 ∧
      ∃ immediate ∈ delegate.immediates, ¬ immediate.Resolves module 0 (openLabels before) := by
  intro module before after delegate validator
  have opened : openLabels before = Check.greatestDepth + 1 := open_labels_tries _
  refine ⟨?_, opened, _, List.mem_cons_self, ?_⟩
  -- The body cannot be evaluated at this length; it is accepted as any number of regions is.
  · refine (validator.validate_function_ok_iff 0 [] _).mpr ⟨⟨[], []⟩, rfl, ?_⟩
    exact Scope.completes_tries rfl rfl (Nat.min_le_right _ _)
  · rw [opened]
    exact Nat.lt_irrefl _

end WasmTyping
