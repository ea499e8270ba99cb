import WasmTyping.Proofs.RegistryHistory
import WasmTyping.Proofs.ReportingLimits
import WasmTyping.Proofs.Relaxation
import WasmTyping.Proofs.StructuralCompatibility

/-!
# Wider scopes

A scope is wider than another if it enables at least its features and declares at least
its types, functions, tables, memories, globals, tags and segments, each at the same index.
In a wider scope an instruction that was not refused amounts to the same actions. Types that
were compatible stay so, because a certificate for them still is one. A body that is accepted
in a scope is therefore accepted in every wider one.
-/

set_option autoImplicit false

namespace WasmTyping

/-! ## Registries -/

namespace Registry

/-- Every registered type is found again at its index. -/
def Extends (wider registry : Registry) : Prop :=
  ∀ (index : Nat) (type : FuncType), registry.get? index = some type →
    wider.get? index = some type

variable {registry wider : Registry}

theorem Extends.refl (registry : Registry) : registry.Extends registry :=
  fun _ _ found => found

theorem Extends.trans {widest : Registry} (second : widest.Extends wider)
    (first : wider.Extends registry) : widest.Extends registry :=
  fun index type found => second index type (first index type found)

theorem extends_insert {index : Nat} (fresh : registry.get? index = none) (type : FuncType) :
    (registry.insert index type).Extends registry := by
  intro other found registered
  rw [get?_insert]
  have apart : other ≠ index := by
    intro same
    rw [same, fresh] at registered
    cases registered
  rw [if_neg apart, registered]

theorem extends_push (registry : Registry) (type : FuncType) :
    (registry.push type).2.Extends registry := by
  apply extends_insert
  cases registered : registry.get? registry.nextIndex with
  | none => rfl
  | some other => exact absurd (lt_next_index registered) (Nat.lt_irrefl _)

namespace Extends

variable (extended : wider.Extends registry)

include extended

theorem signatures_compatible {related : Nat → Nat → Prop} {source target : Nat}
    (compatible : registry.SignaturesCompatible related source target) :
    wider.SignaturesCompatible related source target := by
  obtain ⟨actual, expected, sourceFound, targetFound, fits⟩ := compatible
  exact ⟨actual, expected, extended source actual sourceFound,
    extended target expected targetFound, fits⟩

/-- A certificate of compatibility needs registered indices only, so it stays one. -/
theorem simulation {related : Nat → Nat → Prop} (certificate : registry.Simulation related) :
    wider.Simulation related := by
  intro source target pair
  exact (certificate source target pair).imp_right extended.signatures_compatible

theorem compatible {actual expected : ValueType}
    (fits : registry.compatible actual expected = true) :
    wider.compatible actual expected = true := by
  rw [compatible_iff_exists_simulation] at fits ⊢
  obtain ⟨related, pair, certificate⟩ := fits
  exact ⟨related, pair, extended.simulation certificate⟩

theorem all_compatible {actuals expecteds : List ValueType}
    (fits : registry.allCompatible actuals expecteds = true) :
    wider.allCompatible actuals expecteds = true := by
  rw [all_compatible_iff] at fits ⊢
  exact fits.imp fun actual expected pair => extended.compatible pair

end Extends

end Registry

/-! ## Features and declarations -/

/-- Every feature that is enabled is enabled again. -/
def Features.Include (wider features : Features) : Prop :=
  ∀ feature, features.enabled feature = true → wider.enabled feature = true

theorem Features.Include.refl (features : Features) : features.Include features :=
  fun _ enabled => enabled

/-- Every declaration is found again at its index, and the data segments are the same. -/
structure Module.Extends (wider module : Module) : Prop where
  types : wider.types.Extends module.types
  functions : module.functions <+: wider.functions
  tables : module.tables <+: wider.tables
  memories : module.memories <+: wider.memories
  globals : module.globals <+: wider.globals
  tags : module.tags <+: wider.tags
  elements : module.elements <+: wider.elements
  dataCount : wider.dataCount = module.dataCount

namespace Module

theorem lookup_ok_iff {α : Type} {space : IndexSpace} {entry : Option α} {value : α} :
    lookup space entry = .ok value ↔ entry = some value := by
  cases entry <;> simp [lookup]

theorem bind_ok_iff {α β : Type} {found : Except IndexSpace α} {next : α → Except IndexSpace β}
    {value : β} :
    (found >>= next) = .ok value ↔ ∃ middle, found = .ok middle ∧ next middle = .ok value := by
  cases found <;> simp [bind, Except.bind]

/-- What an index names in a list is named in every list that continues it. -/
theorem lookup_continued {α : Type} {space : IndexSpace} {items longer : List α} {index : Nat}
    {value : α} (begins : items <+: longer) (found : lookup space items[index]? = .ok value) :
    lookup space longer[index]? = .ok value := by
  obtain ⟨rest, rfl⟩ := begins
  rw [lookup_ok_iff] at found ⊢
  obtain ⟨bound, -⟩ := List.getElem?_eq_some_iff.mp found
  rw [List.getElem?_append_left bound, found]

namespace Extends

theorem refl (module : Module) : module.Extends module where
  types := .refl _
  functions := List.prefix_rfl
  tables := List.prefix_rfl
  memories := List.prefix_rfl
  globals := List.prefix_rfl
  tags := List.prefix_rfl
  elements := List.prefix_rfl
  dataCount := rfl

theorem trans {module wider widest : Module} (second : widest.Extends wider)
    (first : wider.Extends module) : widest.Extends module where
  types := second.types.trans first.types
  functions := first.functions.trans second.functions
  tables := first.tables.trans second.tables
  memories := first.memories.trans second.memories
  globals := first.globals.trans second.globals
  tags := first.tags.trans second.tags
  elements := first.elements.trans second.elements
  dataCount := second.dataCount.trans first.dataCount

variable {module wider : Module} (extended : wider.Extends module) {index : Nat}

include extended

theorem type_at {type : FuncType} (found : module.typeAt index = .ok type) :
    wider.typeAt index = .ok type := by
  unfold Module.typeAt at found ⊢
  rw [lookup_ok_iff] at found ⊢
  exact extended.types index type found

theorem function_type_index {type : Nat} (found : module.functionTypeIndex index = .ok type) :
    wider.functionTypeIndex index = .ok type :=
  lookup_continued extended.functions found

theorem table {table : TableType} (found : module.table index = .ok table) :
    wider.table index = .ok table :=
  lookup_continued extended.tables found

theorem memory {limits : Limits} (found : module.memory index = .ok limits) :
    wider.memory index = .ok limits :=
  lookup_continued extended.memories found

theorem global {global : GlobalType} (found : module.global index = .ok global) :
    wider.global index = .ok global :=
  lookup_continued extended.globals found

theorem element_type {type : ValueType} (found : module.elementType index = .ok type) :
    wider.elementType index = .ok type :=
  lookup_continued extended.elements found

theorem function_type {type : FuncType} (found : module.functionType index = .ok type) :
    wider.functionType index = .ok type := by
  unfold Module.functionType at found ⊢
  rw [bind_ok_iff] at found ⊢
  obtain ⟨typeIndex, named, typed⟩ := found
  exact ⟨typeIndex, extended.function_type_index named, extended.type_at typed⟩

theorem tag_params {values : List ValueType} (found : module.tagParams index = .ok values) :
    wider.tagParams index = .ok values := by
  unfold Module.tagParams at found ⊢
  rw [bind_ok_iff] at found ⊢
  obtain ⟨typeIndex, named, rest⟩ := found
  obtain ⟨type, typed, carried⟩ := bind_ok_iff.mp rest
  refine ⟨typeIndex, lookup_continued extended.tags named, ?_⟩
  exact bind_ok_iff.mpr ⟨type, extended.type_at typed, carried⟩

end Extends

end Module

/-- A scope offers all that another one does, to a body of the same kind. -/
structure Scope.Widens (wider scope : Scope) : Prop where
  module : wider.module.Extends scope.module
  features : wider.features.Include scope.features
  locals : wider.locals = scope.locals
  kind : wider.kind = scope.kind

/-! ## Actions in a wider scope -/

/-- Some actions stay as they are, unless one of them is a refusal. -/
inductive Action.Kept : List Action → List Action → Prop where
  | refused {actions wider : List Action} {complaint : Complaint}
      (member : .refuse complaint ∈ actions) : Kept actions wider
  | same (actions : List Action) : Kept actions actions

namespace Action.Kept

theorem refusal (complaint : Complaint) (wider : List Action) :
    Kept [.refuse complaint] wider :=
  .refused List.mem_cons_self

theorem append {first first' second second' : List Action} (left : Kept first first')
    (right : Kept second second') : Kept (first ++ second) (first' ++ second') := by
  cases left with
  | refused member => exact .refused (List.mem_append_left _ member)
  | same =>
      cases right with
      | refused member => exact .refused (List.mem_append_right _ member)
      | same => exact .same _

theorem flat_map {α : Type} {each each' : α → List Action} (items : List α)
    (kept : ∀ item, Kept (each item) (each' item)) :
    Kept (items.flatMap each) (items.flatMap each') := by
  induction items with
  | nil => exact .same []
  | cons item rest ih =>
      rw [List.flatMap_cons, List.flatMap_cons]
      exact .append (kept item) ih

theorem demand {holds holds' : Bool} (complaint : Complaint)
    (implies : holds = true → holds' = true) :
    Kept (Scope.demand holds complaint) (Scope.demand holds' complaint) := by
  cases holds with
  | false => exact .refusal _ _
  | true =>
      rw [implies rfl]
      exact .same _

theorem resolving {α : Type} {found found' : Except IndexSpace α} {index : Nat}
    {rest rest' : α → List Action} (again : ∀ {value}, found = .ok value → found' = .ok value)
    (kept : ∀ value, Kept (rest value) (rest' value)) :
    Kept (Scope.resolving found index rest) (Scope.resolving found' index rest') := by
  cases found with
  | error space => exact .refusal _ _
  | ok value =>
      rw [again rfl]
      exact kept value

theorem resolved {α : Type} {found found' : Except IndexSpace α} {index : Nat}
    {rest : α → List Action} (again : ∀ {value}, found = .ok value → found' = .ok value) :
    Kept (Scope.resolving found index rest) (Scope.resolving found' index rest) :=
  resolving again fun _ => .same _

/-- An action list with a refusal fails, and any other runs as before. -/
theorem carries {env other : Environment} (relaxation : Relaxation env other)
    {actions wider : List Action} (kept : Kept actions wider) :
    relaxation.Carries (Action.runAll actions) (Action.runAll wider) := by
  cases kept with
  | same => exact relaxation.run_all_carries actions
  | refused member =>
      intro state relaxed _ succeeded
      obtain ⟨before, after, split⟩ := List.append_of_mem member
      have failed : (Action.runAll actions).accepted env state = none := by
        rw [split, ← List.singleton_append, run_all_append_accepted]
        cases (Action.runAll before).accepted env state with
        | none => rfl
        | some next =>
            rw [Option.bind_some, run_all_append_accepted, run_all_refuse_accepted,
              Option.bind_none]
      rw [Check.accepted_of_ok succeeded] at failed
      cases failed

end Action.Kept

namespace Scope.Widens

open WasmTyping.Action (Kept)

variable {scope wider : Scope} (widens : wider.Widens scope)

include widens

theorem requiring (feature : Feature) (name : String) {rest rest' : List Action}
    (kept : Kept rest rest') :
    Kept (scope.requiring feature name rest) (wider.requiring feature name rest') := by
  unfold Scope.requiring
  cases enabled : scope.features.enabled feature with
  | false => exact .refusal _ _
  | true =>
      rw [widens.features feature enabled]
      exact kept

theorem requiring_simd_for (op : Opcode) {rest rest' : List Action} (kept : Kept rest rest') :
    Kept (scope.requiringSimdFor op rest) (wider.requiringSimdFor op rest') := by
  unfold Scope.requiringSimdFor
  split
  · exact widens.requiring _ _ kept
  · exact kept

theorem local? (index : Nat) : wider.local? index = scope.local? index := by
  unfold Scope.local?
  rw [widens.locals]

theorem data_segment_refusal (index : Nat) :
    wider.dataSegmentRefusal index = scope.dataSegmentRefusal index := by
  unfold Scope.dataSegmentRefusal Module.checkDataSegment
  rw [widens.module.dataCount]

theorem accessing (op : Opcode) (arg : MemArg) (operation : Limits → Operation) :
    Kept (scope.accessing op arg operation) (wider.accessing op arg operation) :=
  .resolved widens.module.memory

/-- A refusal that compares two types is lifted at most. -/
theorem demand_compatible (actual expected : ValueType) (complaint : Complaint) :
    Kept (Scope.demand (scope.module.types.compatible actual expected) complaint)
      (Scope.demand (wider.module.types.compatible actual expected) complaint) :=
  .demand complaint widens.module.types.compatible

theorem arity_refusal (name : String) (signature : FuncType) :
    Kept (scope.arityRefusal name signature) (wider.arityRefusal name signature) := by
  unfold Scope.arityRefusal
  split
  · exact .same []
  · exact widens.requiring _ _ (.same [])

/-- A block type is refused or has the same signature. -/
theorem block_signature (name : String) (type : BlockType) :
    (∃ complaint, .refuse complaint ∈ (scope.blockSignature name type).2) ∨
      wider.blockSignature name type = scope.blockSignature name type := by
  cases type with
  | empty => exact .inr rfl
  | value result => exact .inr rfl
  | index index =>
      unfold Scope.blockSignature Module.blockSignature
      dsimp only
      cases found : scope.module.typeAt index with
      | error space => exact .inl ⟨_, List.mem_cons_self⟩
      | ok signature =>
          rw [widens.module.type_at found]
          have arity := widens.arity_refusal name signature
          dsimp only
          generalize scope.arityRefusal name signature = refusals at arity ⊢
          generalize wider.arityRefusal name signature = refusals' at arity ⊢
          cases arity with
          | refused member => exact .inl ⟨_, member⟩
          | same => exact .inr rfl

theorem enter_actions (opening : Opening) (type : BlockType) :
    Kept (scope.enterActions opening type) (wider.enterActions opening type) := by
  unfold Scope.enterActions
  rcases widens.block_signature opening.name type with ⟨complaint, member⟩ | same
  · exact .refused (List.mem_append_left _ member)
  · rw [same]
    exact .same _

theorem clause_actions (clause : CatchClause) :
    Kept (scope.clauseActions clause) (wider.clauseActions clause) := by
  unfold Scope.clauseActions
  dsimp only
  split
  · exact .same _
  · exact .resolved widens.module.tag_params

theorem try_table_actions (type : BlockType) (clauses : List CatchClause) :
    Kept (scope.tryTableActions type clauses) (wider.tryTableActions type clauses) := by
  unfold Scope.tryTableActions
  rcases widens.block_signature "try_table" type with ⟨complaint, member⟩ | same
  · simp only [List.append_assoc]
    exact .refused (List.mem_append_left _ member)
  · rw [same]
    exact .append (.append (.same _) (.flat_map clauses widens.clause_actions)) (.same _)

theorem catch_actions (tag : Nat) :
    Kept (scope.catchActions tag) (wider.catchActions tag) := by
  unfold Scope.catchActions
  cases found : scope.module.tagParams tag with
  | error space => exact .refused List.mem_cons_self
  | ok values =>
      rw [widens.module.tag_params found]
      exact .same _

theorem end_actions (depth : Nat) : wider.endActions depth = scope.endActions depth := by
  unfold Scope.endActions
  rw [widens.kind]

/-- An instruction that is not refused amounts to the same actions in a wider scope. -/
theorem instruction_actions (depth : Nat) (instruction : Instruction) :
    Kept (scope.instructionActions depth instruction)
      (wider.instructionActions depth instruction) := by
  unfold Scope.instructionActions
  cases instruction with
  | unreachable | nop | elseArm | br | brIf | brTable | returnValues | drop => exact .same _
  | i32Const | i64Const | f32Const | f64Const => exact .same _
  | catchAll | delegate | rethrow | throwRef | brOnNull | brOnNonNull | callRef | v128Const
  | atomicFence | lane | shuffle | refNull | refIsNull | refAsNonNull =>
      exact widens.requiring _ _ (.same _)
  | enter opening type =>
      dsimp only
      split
      · exact widens.requiring _ _ (widens.enter_actions opening type)
      · exact widens.enter_actions opening type
  | endBlock =>
      dsimp only
      rw [widens.end_actions]
      exact .same _
  | catchTag tag => exact widens.requiring _ _ (widens.catch_actions tag)
  | throwTag tag => exact widens.requiring _ _ (.resolved widens.module.tag_params)
  | tryTable type clauses => exact widens.requiring _ _ (widens.try_table_actions type clauses)
  | call function => exact .resolved widens.module.function_type
  | returnCall function => exact widens.requiring _ _ (.resolved widens.module.function_type)
  | callIndirect index typeIndex =>
      exact .resolving widens.module.table fun _ => .resolving widens.module.type_at fun _ =>
        .append (widens.demand_compatible _ _ _) (.same _)
  | returnCallIndirect index typeIndex =>
      exact widens.requiring _ _ <| .resolving widens.module.table fun _ =>
        .resolving widens.module.type_at fun _ =>
          .append (widens.demand_compatible _ _ _) (.same _)
  | returnCallRef typeIndex => exact widens.requiring _ _ (widens.requiring _ _ (.same _))
  | select declared =>
      cases declared with
      | none => exact .same _
      | some type => exact widens.requiring _ _ (.same _)
  | localGet | localSet | localTee =>
      dsimp only
      rw [widens.local?]
      exact .same _
  | globalGet | globalSet => exact .resolved widens.module.global
  | tableGet | tableSet | tableSize | tableGrow | tableFill =>
      exact widens.requiring _ _ (.resolved widens.module.table)
  | tableCopy targetIndex sourceIndex =>
      exact .resolving widens.module.table fun _ => .resolving widens.module.table fun _ =>
        .append (widens.demand_compatible _ _ _) (.same _)
  | tableInit index segment =>
      exact .resolving widens.module.table fun _ => .resolving widens.module.element_type fun _ =>
        .append (widens.demand_compatible _ _ _) (.same _)
  | elemDrop segment => exact .resolved widens.module.element_type
  | memorySize | memoryGrow | memoryFill => exact .resolved widens.module.memory
  | memoryCopy targetIndex sourceIndex =>
      exact .resolving widens.module.memory fun _ => .resolved widens.module.memory
  | memoryInit index segment =>
      dsimp only
      rw [widens.data_segment_refusal]
      exact .resolved widens.module.memory
  | dataDrop segment =>
      dsimp only
      rw [widens.data_segment_refusal]
      exact .same _
  | numeric kind op => exact widens.requiring_simd_for op (.same _)
  | access kind op arg =>
      dsimp only
      split
      · exact widens.requiring _ _ (widens.accessing op arg _)
      · exact widens.requiring_simd_for op (widens.accessing op arg _)
  | laneAccess kind op arg index => exact widens.requiring _ _ (widens.accessing op arg _)
  | refFunc function =>
      exact widens.requiring _ _ (.resolved widens.module.function_type_index)

theorem is_constant {instruction : Instruction} (constant : scope.isConstant instruction = true) :
    wider.isConstant instruction = true := by
  cases instruction with
  | i32Const | i64Const | f32Const | f64Const | v128Const => rfl
  | refNull | refFunc | globalGet | endBlock => rfl
  | numeric kind op =>
      cases kind with
      | binary =>
          obtain ⟨extended, arithmetic⟩ := Bool.and_eq_true_iff.mp constant
          exact Bool.and_eq_true_iff.mpr ⟨widens.features .extendedConst extended, arithmetic⟩
      | _ => cases constant
  | _ => cases constant

/-- A global that does not exist is not known to change, but to read it is refused. -/
theorem reads_mutable_global (depth : Nat) (instruction : Instruction) :
    (∃ complaint, .refuse complaint ∈ scope.instructionActions depth instruction) ∨
      wider.readsMutableGlobal instruction = scope.readsMutableGlobal instruction := by
  cases instruction with
  | globalGet index =>
      unfold Scope.readsMutableGlobal
      dsimp only
      cases found : scope.module.global index with
      | error space =>
          refine .inl ⟨.invalidIndex space index, ?_⟩
          simp [Scope.instructionActions, Scope.resolving, found]
      | ok global =>
          rw [widens.module.global found]
          exact .inr rfl
  | _ => exact .inr rfl

theorem actions (depth : Nat) (instruction : Instruction) :
    Kept (scope.actions depth instruction) (wider.actions depth instruction) := by
  have kept := widens.instruction_actions depth instruction
  unfold Scope.actions
  rw [widens.kind]
  cases scope.kind with
  | function results => exact kept
  | initExpr type =>
      dsimp only
      cases mutated : scope.readsMutableGlobal instruction with
      | true => exact .refusal _ _
      | false =>
          cases constant : scope.isConstant instruction with
          | false => exact .refusal _ _
          | true =>
              rw [widens.is_constant constant]
              rcases widens.reads_mutable_global depth instruction with ⟨_, member⟩ | same
              · exact .refused member
              · rw [same, mutated]
                exact kept

end Scope.Widens

/-! ## Bodies in a wider scope -/

theorem table_targets_agree {features wider : Features} (included : wider.Include features)
    {first next : List ValueType} (agree : tableTargetsAgree features first next = true) :
    tableTargetsAgree wider first next = true := by
  unfold tableTargetsAgree at agree ⊢
  cases exact : features.referenceTypes with
  | true =>
      have still : wider.referenceTypes = true := included .referenceTypes exact
      rw [exact] at agree
      rw [still]
      exact agree
  | false =>
      -- equal types are in particular equally many
      rw [exact] at agree
      rw [eq_of_beq agree]
      split <;> exact beq_self_eq_true _

/-- The same states, between an environment and one that knows more. -/
def widening {env other : Environment} (types : other.types.Extends env.types)
    (features : other.features.Include env.features) : Relaxation env other where
  related := Eq
  stands := Eq
  stands_self _ := rfl
  stands_non_null := congrArg _
  stands_compatible same fits := same ▸ types.compatible fits
  stands_reference same allowed := same ▸ allowed
  stands_selected := by
    rintro first second _ _ rfl rfl known fits
    exact ⟨known, types.compatible fits⟩
  all_compatible := types.all_compatible
  get_type := types _ _
  targets_agree := table_targets_agree features
  start := rfl
  shapes same := same ▸ rfl
  table_types same := same ▸ rfl
  peek := by
    rintro state _ depth type rfl seen
    exact ⟨type, seen, rfl⟩
  empty_region same _ empty := same ▸ empty
  push := by
    rintro state _ types found rfl same
    rw [List.forall₂_eq_eq_eq] at same
    rw [same]
  remove same count := same ▸ rfl
  keep_table same types := same ▸ rfl
  mark_unreachable same := same ▸ rfl
  enter same kind params results := same ▸ rfl
  begin_arm same kind types := same ▸ rfl
  leave same := same ▸ rfl

namespace Scope

variable {scope wider : Scope}

/-- A body that is accepted in a scope is accepted in every wider one. -/
theorem Widens.validate_ok (widens : wider.Widens scope) {config config' : Config}
    {count count' : Nat} {body : List Instruction}
    (accepted : (scope.validate config count body).verdict = .ok ()) :
    (wider.validate config' count' body).verdict = .ok () := by
  rw [validate_verdict_ok_iff] at accepted ⊢
  obtain ⟨begun, entered, completes⟩ := accepted
  let relaxation : Relaxation scope.environment wider.environment :=
    widening widens.module.types widens.features
  have opening : wider.opening = scope.opening := by
    unfold Scope.opening
    rw [widens.kind]
  obtain ⟨begun', entered', same⟩ :=
    (relaxation.run_carries scope.opening).accepted relaxation.start entered
  refine ⟨begun', opening ▸ entered', ?_⟩
  exact relaxation.completes
    (fun depth instruction => (widens.actions depth instruction).carries relaxation) same completes

end Scope

end WasmTyping
