import Mathlib.Control.Monad.Basic
import WasmTyping.Proofs.StackDiscipline

/-!
# Unknown operands are dead

The type `any` is never written in a program. It comes to the operand stack in code
that cannot be executed: there an untyped `select`, a `br_on_null` and a
`ref.as_non_null` push a type that they have seen, and below the region they see
`any`. Such an entry stays where it is while further regions are opened above it and
closed again. In every run without a fault it belongs to a region that is unreachable,
so reachable code compares only types that were written down.
-/

set_option autoImplicit false

namespace WasmTyping

/-! ## Types that are written down -/

/-- A registry none of whose types has an unknown parameter or result. -/
def Registry.IsConcrete (registry : Registry) : Prop :=
  ∀ (index : Nat) (type : FuncType), registry.get? index = some type →
    .any ∉ type.params ∧ .any ∉ type.results

theorem Registry.empty_concrete : Registry.empty.IsConcrete :=
  nofun

theorem Registry.IsConcrete.insert {registry : Registry} (concrete : registry.IsConcrete)
    (index : Nat) {type : FuncType} (known : .any ∉ type.params ∧ .any ∉ type.results) :
    (registry.insert index type).IsConcrete := by
  intro other found lookup
  rw [get?_insert] at lookup
  split at lookup
  · cases lookup
    exact known
  · exact concrete other found lookup

def Label.IsConcrete (label : Label) : Prop :=
  .any ∉ label.params ∧ .any ∉ label.results

theorem Label.IsConcrete.branch_types {label : Label} (concrete : label.IsConcrete) :
    .any ∉ label.branchTypes := by
  unfold Label.branchTypes
  split
  · exact concrete.1
  · exact concrete.2

/-- The types among the immediates of a plain instruction. -/
def Plain.types : Plain → List ValueType
  | constant type | localGet type | localSet type | localTee type => [type]
  | globalGet type | globalSet type | refNull type => [type]
  | call params results | callIndirect params results _ => params ++ results
  | tableGet element _ | tableSet element _ | tableGrow element _ | tableFill element _ =>
    [element]
  | _ => []

/-- The types among the arguments of an operation. -/
def Operation.types : Operation → List ValueType
  | beginFunction results => results
  | beginInitExpr type => [type]
  | enter _ params results | finishTryTable params results => params ++ results
  | catchArm values | throwTag values | tryTableCatch values _ => values
  | beginTryTable params => params
  | returnCall params results | returnCallIndirect params results _ => params ++ results
  | plain instruction => instruction.types
  | select declared => declared.toList
  | checkType actual expected => [actual, expected]
  | checkTypes actual expected => actual ++ expected
  | _ => []

theorem ValueType.with_nullable_known {type : ValueType} (known : type ≠ .any)
    (nullable : Bool) : type.withNullable nullable ≠ .any := by
  cases type with
  | any => exact absurd rfl known
  | _ => nofun

theorem Limits.index_type_known (limits : Limits) : limits.indexType ≠ .any := by
  unfold indexType
  split <;> nofun

theorem Opcode.result_types_known (op : Opcode) : .any ∉ op.resultTypes := by
  simp [resultTypes]

/-- What a plain instruction pushes is known if its immediates are. -/
theorem Plain.pushes_known {instruction : Plain} (known : .any ∉ instruction.types) :
    .any ∉ instruction.effect.pushes := by
  have sizes := fun limits : Limits => (limits.index_type_known).symm
  have results := Opcode.result_types_known
  cases instruction with
  | refNull type =>
      have written : type ≠ .any := fun same => known (by simp [types, same])
      exact mt List.mem_singleton.mp (ValueType.with_nullable_known written true).symm
  | call params types => exact fun member => known (List.mem_append_right _ member)
  | callIndirect params types table => exact fun member => known (List.mem_append_right _ member)
  | numeric op => exact results op
  | access op memory => exact results op
  | memorySize memory | memoryGrow memory => exact mt List.mem_singleton.mp (sizes memory)
  | tableSize table => exact mt List.mem_singleton.mp (sizes table)
  | tableGrow element table => exact mt List.mem_singleton.mp (sizes table)
  | refFunc type => simp [effect, Effect.producing]
  | constant type | localGet type | localTee type | globalGet type => exact known
  | tableGet element table => exact known
  | _ => simp [effect, Effect.exchanging, Effect.skip]

/-! ## The region of an entry -/

namespace State

/-- The label to whose region the entry at a height belongs: the innermost one that
begins at that height or below. -/
def owner? (state : State) (height : Nat) : Option Label :=
  state.labels.find? fun label => label.limit ≤ height

theorem owner_of_inside {state : State} {label : Label} {outer : List Label}
    (opened : state.labels = label :: outer) {height : Nat} (inside : label.limit ≤ height) :
    state.owner? height = some label := by
  rw [owner?, opened, List.find?_cons_of_pos (by simpa using inside)]

theorem owner_of_below {state : State} {label : Label} {outer : List Label}
    (opened : state.labels = label :: outer) {height : Nat} (below : height < label.limit) :
    state.owner? height = outer.find? fun other => other.limit ≤ height := by
  rw [owner?, opened, List.find?_cons_of_neg (by simpa using below)]

/-- Labels have known types, and an unknown operand belongs to an unreachable region. -/
structure Sheltered (state : State) : Prop where
  labels : ∀ label ∈ state.labels, label.IsConcrete
  operands : ∀ height, state.operands[height]? = some .any →
    ∃ label, state.owner? height = some label ∧ label.unreachable = true

theorem empty_sheltered : State.empty.Sheltered :=
  ⟨nofun, nofun⟩

namespace Sheltered

variable {state : State} {label : Label} {outer : List Label}

/-- Every change of a state cuts its stack and puts other types there. Entries below
the cut stay in their regions, so it is enough that the new types are known. -/
theorem of_cut (sheltered : state.Sheltered) {after : State} (cut : Nat)
    {types : List ValueType} (operands : after.operands = state.operands.take cut ++ types)
    (known : .any ∉ types) (concrete : ∀ label ∈ after.labels, label.IsConcrete)
    (owners : ∀ height < cut, after.owner? height = state.owner? height) :
    after.Sheltered := by
  refine ⟨concrete, ?_⟩
  intro height unknown
  rw [operands] at unknown
  by_cases kept : height < (state.operands.take cut).length
  · rw [List.getElem?_append_left kept] at unknown
    have below : height < cut := by
      rw [List.length_take] at kept
      omega
    rw [List.getElem?_take_of_lt below] at unknown
    rw [owners height below]
    exact sheltered.operands height unknown
  · rw [List.getElem?_append_right (Nat.le_of_not_lt kept)] at unknown
    exact absurd (List.mem_of_getElem? unknown) known

theorem push (sheltered : state.Sheltered) {types : List ValueType} (known : .any ∉ types) :
    (state.push types).Sheltered := by
  refine sheltered.of_cut state.operands.length ?_ known sheltered.labels ?_
  · rw [List.take_length]
    rfl
  · intro height _
    rfl

theorem remove (sheltered : state.Sheltered) (count : Nat) : (state.remove count).Sheltered := by
  rcases opened : state.labels with _ | ⟨label, outer⟩
  · rw [remove_of_closed opened]
    exact sheltered
  · rw [remove_of_open opened]
    refine sheltered.of_cut _ (List.append_nil _).symm List.not_mem_nil sheltered.labels ?_
    intro height _
    rfl

theorem keep_table (sheltered : state.Sheltered) (types : Option (List ValueType)) :
    State.Sheltered { state with tableTypes := types } :=
  ⟨sheltered.labels, sheltered.operands⟩

theorem enter (sheltered : state.Sheltered) (kind : LabelKind) {params results : List ValueType}
    (known : .any ∉ params) (knownResults : .any ∉ results) :
    (state.enter kind params results).Sheltered := by
  apply sheltered.of_cut state.operands.length _ known
  · exact List.forall_mem_cons.mpr ⟨⟨known, knownResults⟩, sheltered.labels⟩
  · intro height below
    exact owner_of_below rfl below
  · rw [List.take_length]
    rfl

section Opened

variable (sheltered : state.Sheltered) (opened : state.labels = label :: outer)

include sheltered opened

theorem innermost_concrete : label.IsConcrete := by
  apply sheltered.labels
  rw [opened]
  exact List.mem_cons_self

theorem outer_concrete : ∀ other ∈ outer, other.IsConcrete := by
  intro other member
  apply sheltered.labels
  rw [opened]
  exact List.mem_cons_of_mem _ member

/-- To cut the innermost region off and go on with a label in its place. -/
theorem replace_innermost {after : State} {next : Label} {types : List ValueType}
    (operands : after.operands = state.operands.take label.limit ++ types)
    (known : .any ∉ types) (labels : after.labels = next :: outer)
    (params : next.params = label.params) (results : next.results = label.results)
    (limit : next.limit = label.limit) : after.Sheltered := by
  apply sheltered.of_cut label.limit operands known
  · rw [labels]
    refine List.forall_mem_cons.mpr ⟨?_, sheltered.outer_concrete opened⟩
    unfold Label.IsConcrete
    rw [params, results]
    exact sheltered.innermost_concrete opened
  · intro height below
    rw [owner_of_below opened below, owner_of_below labels (limit ▸ below)]

end Opened

theorem mark_unreachable (sheltered : state.Sheltered) : state.markUnreachable.Sheltered := by
  rcases opened : state.labels with _ | ⟨label, outer⟩
  · simp only [State.markUnreachable, opened]
    exact sheltered
  · apply @replace_innermost _ _ _ sheltered opened _ { label with unreachable := true } []
    · simp only [State.markUnreachable, opened, List.append_nil]
    · exact List.not_mem_nil
    · simp only [State.markUnreachable, opened]
    all_goals rfl

theorem begin_arm (sheltered : state.Sheltered) (kind : LabelKind) {types : List ValueType}
    (known : .any ∉ types) : (state.beginArm kind types).Sheltered := by
  rcases opened : state.labels with _ | ⟨label, outer⟩
  · simp only [State.beginArm, opened]
    exact sheltered
  · apply @replace_innermost _ _ _ sheltered opened _
      { label with kind := kind, unreachable := false } types
    · simp only [State.beginArm, opened]
    · exact known
    · simp only [State.beginArm, opened]
    all_goals rfl

theorem leave (sheltered : state.Sheltered) : state.leave.Sheltered := by
  rcases opened : state.labels with _ | ⟨label, outer⟩
  · simp only [State.leave, opened]
    exact sheltered
  · apply @of_cut _ sheltered _ label.limit label.results
    · simp only [State.leave, opened]
    · exact (sheltered.innermost_concrete opened).2
    · simp only [State.leave, opened]
      exact sheltered.outer_concrete opened
    · intro height below
      rw [owner_of_below opened below]
      simp only [State.leave, opened, owner?]

/-! ## Operands that are seen -/

/-- An unknown operand is seen only in a region that is unreachable. -/
theorem dead_of_peek (sheltered : state.Sheltered) {depth : Nat}
    (seen : state.peek depth = .ok .any) : state.isUnreachable = true := by
  rcases opened : state.labels with _ | ⟨label, outer⟩
  · simp [isUnreachable, opened]
  · simp only [isUnreachable, opened]
    simp only [peek, opened] at seen
    cases found : state.region.reverse[depth]? with
    | none => simpa [found] using seen
    | some type =>
        simp only [found, Except.ok.injEq] at seen
        have inside : type ∈ state.region := by
          simpa using List.mem_of_getElem? found
        obtain ⟨offset, entry⟩ := List.getElem?_of_mem inside
        rw [seen, region, List.getElem?_drop] at entry
        have limit : state.limit = label.limit := by simp only [State.limit, opened]
        obtain ⟨owner, owned, dead⟩ := sheltered.operands _ entry
        rw [owner_of_inside opened (by omega)] at owned
        cases owned
        exact dead

/-- In an unreachable region anything may be pushed. -/
theorem push_dead (sheltered : state.Sheltered) (opened : state.labels = label :: outer)
    (dead : label.unreachable = true) (grounded : label.limit ≤ state.operands.length)
    (types : List ValueType) : (state.push types).Sheltered := by
  refine ⟨sheltered.labels, ?_⟩
  intro height unknown
  by_cases earlier : height < state.operands.length
  · apply sheltered.operands height
    rw [← unknown]
    exact (List.getElem?_append_left earlier).symm
  · exact ⟨label, owner_of_inside opened (by omega), dead⟩

/-- What takes the place of an operand that was seen is unknown at most where the
operand was. -/
theorem push_seen (sheltered : state.Sheltered) (grounded : state.limit ≤ state.operands.length)
    {depth : Nat} {type : ValueType} (seen : state.peek depth = .ok type)
    {result : ValueType} (known : type ≠ .any → result ≠ .any) (count : Nat) :
    ((state.remove count).push [result]).Sheltered := by
  have removed := sheltered.remove count
  by_cases unknown : type = .any
  · rw [unknown] at seen
    have dead := sheltered.dead_of_peek seen
    rcases opened : state.labels with _ | ⟨label, outer⟩
    · simp [peek, opened] at seen
    · have limit : state.limit = label.limit := by simp only [State.limit, opened]
      have height := (Confined.remove grounded count).height
      simp only [isUnreachable, opened] at dead
      apply removed.push_dead ((state.remove_labels count).trans opened) dead
      omega
  · exact removed.push (mt List.mem_singleton.mp (known unknown).symm)

end Sheltered

end State

/-! ## Checks -/

/-- A check that keeps unknown operands out of reachable code, whatever its verdict. -/
def Check.Shelters {α : Type} (env : Environment) (check : Check α) : Prop :=
  ∀ state : State, state.Sheltered → (check env state).state.Sheltered

namespace Check.Shelters

variable {α β : Type} {env : Environment}

theorem ask (question : Environment → State → Except Complaint α) :
    Shelters env (Check.ask question) :=
  fun _ sheltered => sheltered

theorem observe (view : Environment → State → α) : Shelters env (Check.observe view) :=
  fun _ sheltered => sheltered

theorem settle (verdict : Verdict) : Shelters env (Check.settle verdict) :=
  fun _ sheltered => sheltered

theorem explain (verdict : Verdict) (diagnostic : State → Diagnostic) :
    Shelters env (Check.explain verdict diagnostic) :=
  fun _ sheltered => sheltered

theorem bind {check : Check α} {next : α → Check β} (first : Shelters env check)
    (rest : ∀ value, Shelters env (next value)) : Shelters env (check >>= next) := by
  intro state sheltered
  have before := first state sheltered
  cases result : (check env state).result with
  | error fault =>
      rw [bind_apply_error result]
      exact before
  | ok value =>
      rw [bind_apply_ok result]
      exact rest value _ before

/-- To go on with an answer of which something is known. -/
theorem ask_bind {question : Environment → State → Except Complaint α} {next : α → Check Unit}
    {known : α → Prop}
    (answers : ∀ state value, state.Sheltered → question env state = .ok value → known value)
    (rest : ∀ value, known value → Shelters env (next value)) :
    Shelters env (Check.ask question >>= next) := by
  intro state sheltered
  cases answer : question env state with
  | error complaint =>
      rw [ask_bind_of_error answer]
      exact sheltered
  | ok value =>
      rw [ask_bind_of_ok answer]
      exact rest value (answers state value sheltered answer) state sheltered

theorem resolve_bind {depth : Nat} {next : Label → Check Unit}
    (rest : ∀ label, label.IsConcrete → Shelters env (next label)) :
    Shelters env (Check.resolve depth >>= next) := by
  refine ask_bind ?_ rest
  intro state label sheltered found
  apply sheltered.labels
  exact List.mem_of_getElem? ((state.resolve_eq_ok_iff depth label).mp found)

theorem resolve_type_bind (registry : env.types.IsConcrete) {index : Nat}
    {next : FuncType → Check Unit}
    (rest : ∀ type : FuncType, .any ∉ type.results → Shelters env (next type)) :
    Shelters env (Check.resolveType index >>= next) := by
  refine ask_bind ?_ rest
  intro state type _ found
  cases registered : env.types.get? index with
  | none => simp [registered] at found
  | some other =>
      simp only [registered, Except.ok.injEq] at found
      rw [← found]
      exact (registry index other registered).2

theorem also {first second : Check Unit} (left : Shelters env first)
    (right : Shelters env second) : Shelters env (first.also second) :=
  fun state sheltered => right _ (left state sheltered)

theorem done : Shelters env (Check.all []) :=
  fun _ sheltered => sheltered

theorem all {checks : List (Check Unit)} (each : ∀ check ∈ checks, Shelters env check) :
    Shelters env (Check.all checks) := by
  induction checks with
  | nil => exact done
  | cons check rest ih =>
      obtain ⟨here, others⟩ := List.forall_mem_cons.mp each
      exact also here (ih others)

theorem attempt {check : Check Unit} (shelters : Shelters env check) :
    Shelters env (Check.attempt check) :=
  shelters

theorem check_signature (signature : List ValueType) (construct : String) :
    Shelters env (Check.checkSignature signature construct) :=
  bind (observe _) fun _ => explain _ _

theorem drop_types (count : Nat) : Shelters env (Check.dropTypes count) := by
  intro state sheltered
  rw [drop_types_state]
  exact sheltered.remove count

theorem pop_signature (signature : List ValueType) (construct : String) :
    Shelters env (Check.popSignature signature construct) :=
  also (check_signature signature construct) (drop_types signature.length)

theorem pop_signatures (signatures : List (List ValueType)) (construct : String) :
    Shelters env (Check.popSignatures signatures construct) := by
  apply all
  intro check member
  obtain ⟨signature, _, rfl⟩ := List.mem_map.mp member
  exact pop_signature signature construct

theorem push_types {types : List ValueType} (known : .any ∉ types) :
    Shelters env (Check.pushTypes types) :=
  fun _ sheltered => sheltered.push known

theorem keep_table (types : State → Option (List ValueType)) :
    Shelters env (Check.modify fun state => { state with tableTypes := types state }) :=
  fun state sheltered => sheltered.keep_table (types state)

theorem pop_reference (construct : String) : Shelters env (Check.popReference construct) := by
  intro state sheltered
  rw [pop_reference_apply]
  exact sheltered.remove 1

theorem set_unreachable : Shelters env Check.setUnreachable := by
  intro state sheltered
  rw [set_unreachable_state]
  exact sheltered.mark_unreachable

theorem effect {effect : Effect} (known : .any ∉ effect.pushes) : Shelters env effect.check :=
  also (pop_signatures _ _) (push_types known)

theorem plain {instruction : Plain} (known : .any ∉ instruction.types) :
    Shelters env instruction.effect.check :=
  effect (Plain.pushes_known known)

theorem leave_with (results : List ValueType) : Shelters env (Check.leaveWith results) :=
  bind (ask _) fun _ => also (ask _) set_unreachable

theorem enter_region (kind : LabelKind) {params results : List ValueType}
    (known : .any ∉ params ++ results) :
    Shelters env (Check.enterRegion kind params results) := by
  rw [List.mem_append, not_or] at known
  exact fun _ sheltered => sheltered.enter kind known.1 known.2

theorem enter_body (kind : LabelKind) {results : List ValueType} (known : .any ∉ results) :
    Shelters env (Check.enterBody kind results) :=
  fun _ _ => State.empty_sheltered.enter kind List.not_mem_nil known

theorem leave_region (label : Label) (construct last : String) :
    Shelters env (Check.leaveRegion label construct last) := by
  intro state sheltered
  rw [leave_region_state]
  exact (sheltered.remove _).leave

theorem close_under (rule : LabelRule) (construct last : String) :
    Shelters env (Check.closeUnder rule construct last) :=
  bind (ask _) fun _ => also (ask _) (leave_region _ _ _)

theorem next_arm (rule : LabelRule) (label : Label) (construct : String) (kind : LabelKind)
    {types : List ValueType} (known : .any ∉ types) :
    Shelters env (Check.nextArm rule label construct kind types) := by
  intro state sheltered
  rw [next_arm_state]
  exact (sheltered.remove _).begin_arm kind known

theorem else_arm : Shelters env Check.elseArm :=
  resolve_bind fun _ concrete => next_arm _ _ _ _ concrete.1

theorem end_region : Shelters env Check.endRegion := by
  refine bind (ask _) fun label => ?_
  split
  · exact also else_arm (leave_region _ _ _)
  · exact leave_region _ _ _

theorem delegate (depth : Nat) : Shelters env (Check.delegate depth) :=
  bind (ask _) fun _ => close_under _ _ _

theorem rethrow (depth : Nat) : Shelters env (Check.rethrow depth) :=
  bind (ask _) fun _ => set_unreachable

theorem throw_values (values : List ValueType) (construct : String) :
    Shelters env (Check.throwValues values construct) :=
  also (pop_signature _ _) set_unreachable

theorem catch_arm {values : List ValueType} (known : .any ∉ values) :
    Shelters env (Check.catchArm values) :=
  bind (ask _) fun _ => next_arm _ _ _ _ known

theorem br (depth : Nat) : Shelters env (Check.br depth) :=
  bind (ask _) fun _ => also (check_signature _ _) set_unreachable

/-- The values of a conditional branch come back as the types of its label. -/
theorem br_if (depth : Nat) : Shelters env (Check.brIf depth) := by
  refine bind (attempt (pop_signature _ _)) fun condition => resolve_bind fun label concrete => ?_
  exact also (settle condition)
    (also (pop_signature _ _) (also (push_types concrete.branch_types) done))

theorem begin_br_table : Shelters env Check.beginBrTable :=
  also (keep_table _) (pop_signature _ _)

theorem br_table_target (depth : Nat) : Shelters env (Check.brTableTarget depth) :=
  bind (ask _) fun _ =>
    also (check_signature _ _) (also (ask _) (also (keep_table _) done))

theorem end_br_table : Shelters env Check.endBrTable :=
  also (keep_table _) set_unreachable

theorem br_on_non_null (depth : Nat) : Shelters env (Check.brOnNonNull depth) := by
  apply bind (pop_reference _)
  rintro ⟨type, verdict⟩
  refine bind (ask _) fun label => ?_
  split
  · exact also (settle _) (ask _)
  · exact also (settle _)
      (also (bind (observe _) fun _ => explain _ _) (also (check_signature _ _) done))

theorem ref_is_null : Shelters env Check.refIsNull :=
  bind (pop_reference _) fun _ => also (settle _) (push_types (by simp))

theorem drop : Shelters env Check.drop :=
  bind (attempt (drop_types 1)) fun _ => explain _ _

theorem tail_call (construct : String) (pops : List (List ValueType)) (results : List ValueType) :
    Shelters env (Check.tailCall construct pops results) :=
  also (pop_signatures _ _) (leave_with _)

end Check.Shelters

/-! ## Operands that are handed on -/

section HandedOn

variable {env : Environment} {state : State}

/-- The type that an untyped `select` hands on was seen, unless it fails. -/
theorem peek_of_select (passed : (selectVerdict env state none).1 = .ok ()) :
    state.peek 1 = .ok (selectVerdict env state none).2 := by
  unfold selectVerdict at passed ⊢
  dsimp only at passed ⊢
  split at passed
  · simp only [Verdict.and_eq_ok_iff, reduceCtorEq, and_false] at passed
  · rename_i values
    simp only [Verdict.and_eq_ok_iff] at passed
    have present := passed.1.2.1
    rw [if_neg values]
    unfold State.peekD
    cases seen : state.peek 1 with
    | error fault => simp [seen, Verdict.of] at present
    | ok type => rfl

namespace Check

/-- The reference that a check goes on with was seen, unless the check fails. -/
theorem peek_of_pop_reference {construct : String} {next : ValueType × Verdict → Check Unit}
    (fatal : ∀ type fault, (next (type, .error fault)).Fatal)
    (succeeded : ((popReference construct >>= next) env state).result = .ok ()) :
    ∃ type, state.peek 0 = .ok type ∧
      ((popReference construct >>= next) env state).state =
        (next (type, .ok ()) env (state.remove 1)).state := by
  have popped := @pop_reference_apply env state construct
  rw [bind_apply_ok (congrArg Outcome.result popped), popped] at succeeded ⊢
  cases result : (referenceCheck construct env state).result with
  | error fault =>
      obtain ⟨later, failed⟩ := fatal (state.peekD 0) fault env (state.remove 1)
      simp only [result, failed] at succeeded
      cases succeeded
  | ok _ =>
      have present : Verdict.of (state.peek 0) = .ok () := by
        rw [referenceCheck, also_result, Verdict.and_eq_ok_iff] at result
        exact State.peek_of_check_reference (ask_result_ok_iff.mp result.1)
      unfold State.peekD
      cases seen : state.peek 0 with
      | error fault => simp [seen, Verdict.of] at present
      | ok type => exact ⟨type, rfl, rfl⟩

variable (sheltered : state.Sheltered) (grounded : state.limit ≤ state.operands.length)

include sheltered grounded

theorem select_shelters {declared : Option ValueType} (known : .any ∉ declared.toList)
    (succeeded : (select declared env state).result = .ok ()) :
    (select declared env state).state.Sheltered := by
  rw [select_result, Verdict.and_eq_ok_iff] at succeeded
  rw [select_state]
  cases declared with
  | some type => exact (sheltered.remove 3).push known
  | none => exact sheltered.push_seen grounded (peek_of_select succeeded.1) id 3

theorem ref_as_non_null_shelters (succeeded : (refAsNonNull env state).result = .ok ()) :
    (refAsNonNull env state).state.Sheltered := by
  obtain ⟨type, seen, reached⟩ :=
    peek_of_pop_reference (fun _ fault => .also (.settle fault) _) succeeded
  rw [refAsNonNull, reached]
  exact sheltered.push_seen grounded seen (fun known => ValueType.with_nullable_known known false) 1

theorem br_on_null_shelters {depth : Nat} (succeeded : (brOnNull depth env state).result = .ok ()) :
    (brOnNull depth env state).state.Sheltered := by
  obtain ⟨type, seen, reached⟩ :=
    peek_of_pop_reference (fun _ fault => .ask_bind fun _ => .also (.settle fault) _) succeeded
  rw [brOnNull, reached]
  dsimp only
  have pushed := sheltered.push_seen grounded seen
    (fun known => ValueType.with_nullable_known known false) 1
  cases answer : (state.remove 1).resolve depth with
  | error complaint =>
      rw [resolve, ask_bind_of_error answer]
      exact sheltered.remove 1
  | ok label =>
      rw [resolve, ask_bind_of_ok answer]
      exact pushed

end Check

end HandedOn

/-! ## Runs -/

/-- An operation that succeeds keeps unknown operands out of reachable code. -/
theorem Operation.run_shelters {env : Environment} (registry : env.types.IsConcrete)
    {operation : Operation} (written : .any ∉ operation.types) {state : State}
    (sheltered : state.Sheltered) (grounded : state.limit ≤ state.operands.length)
    (succeeded : (operation.run env state).result = .ok ()) :
    (operation.run env state).state.Sheltered := by
  have numeric := fun op : Opcode => @Check.Shelters.plain env (.numeric op) List.not_mem_nil
  have access := fun (op : Opcode) (memory : Limits) =>
    @Check.Shelters.plain env (.access op memory) List.not_mem_nil
  cases operation with
  | beginFunction results => exact Check.Shelters.enter_body _ written state sheltered
  | beginInitExpr type => exact Check.Shelters.enter_body _ written state sheltered
  | endFunction => exact Check.Shelters.close_under _ _ _ state sheltered
  | endInitExpr => exact Check.Shelters.close_under _ _ _ state sheltered
  | enter opening params results =>
      exact Check.Shelters.also (.pop_signatures _ _) (.enter_region _ written) state sheltered
  | elseArm => exact Check.Shelters.else_arm state sheltered
  | endBlock => exact Check.Shelters.end_region state sheltered
  | catchArm values => exact Check.Shelters.catch_arm written state sheltered
  | delegate depth => exact Check.Shelters.delegate depth state sheltered
  | rethrow depth => exact Check.Shelters.rethrow depth state sheltered
  | throwTag values => exact Check.Shelters.throw_values _ _ state sheltered
  | throwRef => exact Check.Shelters.throw_values _ _ state sheltered
  | beginTryTable params => exact Check.Shelters.pop_signature _ _ state sheltered
  | tryTableCatch values depth => exact sheltered
  | finishTryTable params results => exact Check.Shelters.enter_region _ written state sheltered
  | br depth => exact Check.Shelters.br depth state sheltered
  | brIf depth => exact Check.Shelters.br_if depth state sheltered
  | beginBrTable => exact Check.Shelters.begin_br_table state sheltered
  | brTableTarget depth => exact Check.Shelters.br_table_target depth state sheltered
  | endBrTable => exact Check.Shelters.end_br_table state sheltered
  | brOnNull depth => exact Check.br_on_null_shelters sheltered grounded succeeded
  | brOnNonNull depth => exact Check.Shelters.br_on_non_null depth state sheltered
  | callRef type =>
      exact Check.Shelters.resolve_type_bind registry (fun _ known => .effect known) state sheltered
  | returnValues =>
      exact Check.Shelters.bind (.ask _) (fun _ => .also (.pop_signature _ _) .set_unreachable)
        state sheltered
  | returnCall params results => exact Check.Shelters.tail_call _ _ _ state sheltered
  | returnCallIndirect params results table =>
      exact Check.Shelters.tail_call _ _ _ state sheltered
  | returnCallRef type =>
      exact Check.Shelters.bind (.ask _) (fun _ => .tail_call _ _ _) state sheltered
  | plain instruction => exact Check.Shelters.plain written state sheltered
  | lane op index => exact Check.Shelters.also (.ask _) (numeric op) state sheltered
  | shuffle op lanes =>
      refine Check.Shelters.also (.all ?_) (numeric op) state sheltered
      intro check member
      obtain ⟨index, _, rfl⟩ := List.mem_map.mp member
      exact .ask _
  | laneAccess op memory index =>
      exact Check.Shelters.also (.ask _) (access op memory) state sheltered
  | drop => exact Check.Shelters.drop state sheltered
  | select declared => exact Check.select_shelters sheltered grounded written succeeded
  | unreachable => exact Check.Shelters.set_unreachable state sheltered
  | refIsNull => exact Check.Shelters.ref_is_null state sheltered
  | refAsNonNull => exact Check.ref_as_non_null_shelters sheltered grounded succeeded
  | checkType actual expected => exact sheltered
  | checkTypes actual expected => exact sheltered
  | dropTypes count => exact Check.Shelters.drop_types count state sheltered

theorem State.Sheltered.after {env : Environment} (registry : env.types.IsConcrete)
    {operations : List Operation} (written : ∀ operation ∈ operations, .any ∉ operation.types)
    {state : State} (sheltered : state.Sheltered) (disciplined : state.Disciplined)
    (succeeded : ∀ reply ∈ state.replies env operations, reply.1 = .ok ()) :
    (state.after env operations).Sheltered := by
  induction operations generalizing state with
  | nil => exact sheltered
  | cons operation rest ih =>
      obtain ⟨here, later⟩ := List.forall_mem_cons.mp written
      obtain ⟨passed, others⟩ := List.forall_mem_cons.mp succeeded
      apply ih later _ (disciplined.run operation env) others
      exact operation.run_shelters registry here sheltered disciplined.grounded passed

namespace State.Sheltered

variable {state : State}

/-- The regions between which an unknown operand lies. -/
theorem region_of_unknown (sheltered : state.Sheltered) {height : Nat}
    (unknown : state.operands[height]? = some .any) :
    ∃ inner label outer, state.labels = inner ++ label :: outer ∧ label.unreachable = true ∧
      label.limit ≤ height ∧ ∀ other ∈ inner, height < other.limit := by
  obtain ⟨label, owned, dead⟩ := sheltered.operands height unknown
  obtain ⟨below, inner, outer, labels, above⟩ := List.find?_eq_some_iff_append.mp owned
  refine ⟨inner, label, outer, labels, dead, by simpa using below, ?_⟩
  intro other member
  simpa using above other member

/-- In reachable code an operand is missing, or it is known and compared as what it is. -/
theorem operand_of_alive (sheltered : state.Sheltered) (alive : state.isUnreachable = false)
    (env : Environment) (depth : Nat) (expected : ValueType) :
    state.peek depth = .error .stackUnderflow ∧
        operandVerdict env state depth expected = .error .stackUnderflow ∨
      ∃ actual, actual ≠ .any ∧ state.peek depth = .ok actual ∧
        operandVerdict env state depth expected = env.checkType actual expected := by
  unfold operandVerdict
  cases seen : state.peek depth with
  | error fault =>
      left
      have missing : fault = .stackUnderflow := by
        rcases opened : state.labels with _ | ⟨label, outer⟩
        · simp [isUnreachable, opened] at alive
        · simp only [isUnreachable, opened] at alive
          simp only [peek, opened, alive] at seen
          split at seen
          · cases seen
          · cases seen
            rfl
      rw [missing]
      exact ⟨rfl, rfl⟩
  | ok actual =>
      right
      refine ⟨actual, ?_, rfl, rfl⟩
      intro unknown
      rw [unknown] at seen
      simp [sheltered.dead_of_peek seen] at alive

end State.Sheltered

/-- In every run without a fault, from the beginning of a body on and with known types
only: an unknown operand belongs to a region that is unreachable. Where the innermost
region is reachable none is seen, and operands are compared as known types. -/
theorem unknown_operands_are_dead (env : Environment) (registry : env.types.IsConcrete)
    (start : State) (first : Operation) (rest : List Operation)
    (begins : (∃ results, first = .beginFunction results) ∨ ∃ type, first = .beginInitExpr type)
    (written : ∀ operation ∈ first :: rest, .any ∉ operation.types)
    (succeeded : ∀ reply ∈ start.replies env (first :: rest), reply.1 = .ok ()) :
    let state := start.after env (first :: rest)
    (∀ height, state.operands[height]? = some .any →
      ∃ inner label outer, state.labels = inner ++ label :: outer ∧ label.unreachable = true ∧
        label.limit ≤ height ∧ ∀ other ∈ inner, height < other.limit) ∧
    (∀ label ∈ state.labels, .any ∉ label.params ∧ .any ∉ label.results) ∧
    (state.isUnreachable = false →
      (∀ depth, state.peek depth ≠ .ok .any) ∧
      ∀ depth expected,
        state.peek depth = .error .stackUnderflow ∧
            operandVerdict env state depth expected = .error .stackUnderflow ∨
          ∃ actual, actual ≠ .any ∧ state.peek depth = .ok actual ∧
            operandVerdict env state depth expected = env.checkType actual expected) := by
  intro state
  obtain ⟨known, later⟩ := List.forall_mem_cons.mp written
  obtain ⟨_, others⟩ := List.forall_mem_cons.mp succeeded
  -- The first step forgets the state before it.
  have fresh : ∃ kind, (first.run env start).state = State.empty.enter kind [] first.types := by
    rcases begins with ⟨results, rfl⟩ | ⟨type, rfl⟩
    · exact ⟨_, Operation.run_of_begins rfl⟩
    · exact ⟨_, Operation.run_of_begins rfl⟩
  obtain ⟨kind, fresh⟩ := fresh
  have entered : (first.run env start).state.Sheltered := by
    rw [fresh]
    exact State.empty_sheltered.enter kind List.not_mem_nil known
  have disciplined : (first.run env start).state.Disciplined := by
    rw [fresh]
    exact State.empty_disciplined.enter kind [] _
  have sheltered : state.Sheltered := entered.after registry later disciplined others
  refine ⟨fun height => sheltered.region_of_unknown, sheltered.labels, ?_⟩
  intro alive
  refine ⟨?_, sheltered.operand_of_alive alive env⟩
  intro depth seen
  simp [sheltered.dead_of_peek seen] at alive

/-- A call by reference inside a block that has been opened above an unknown operand. -/
theorem call_above_unknown_operand :
    let types : Registry := Registry.empty.insert 0 ⟨[.i32], [.ref 0 true]⟩
    let operations : List Operation :=
      [.enter .block [] [], .unreachable, .refAsNonNull, .select none, .enter .block [] [],
        .plain (.constant .i32), .plain (.refFunc 0), .callRef 0]
    let state := State.empty.after ⟨types, .all⟩ (.beginFunction [.i32] :: operations)
    state.operands = [.any, .ref 0 true] ∧ state.isUnreachable = false ∧
      (∃ inner label outer, state.labels = inner ++ label :: outer ∧
        label.unreachable = true ∧ label.limit ≤ 0 ∧ ∀ other ∈ inner, 0 < other.limit) ∧
      ∀ depth, state.peek depth ≠ .ok .any := by
  intro types operations state
  have registry : types.IsConcrete := Registry.empty_concrete.insert 0 (by decide)
  have written : ∀ operation ∈ .beginFunction [.i32] :: operations, .any ∉ operation.types := by
    decide
  have operands : state.operands = [.any, .ref 0 true] := by decide +kernel
  have alive : state.isUnreachable = false := by decide +kernel
  obtain ⟨regions, -, seen⟩ := unknown_operands_are_dead ⟨types, .all⟩ registry .empty
    (.beginFunction [.i32]) operations (.inl ⟨_, rfl⟩) written (by decide +kernel)
  exact ⟨operands, alive, regions 0 (by rw [operands]; rfl), (seen alive).1⟩

end WasmTyping
