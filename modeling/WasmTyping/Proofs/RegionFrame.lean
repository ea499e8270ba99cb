import WasmTyping.Proofs.RegionEdits

/-!
# What a step can touch

A step of the checker begins a body, opens a region, closes the innermost region,
or stays inside it. Whatever its verdict, it touches nothing but the innermost
region before it opens or closes one: the labels around that region, the limit
and the signature of the region and the operands below the limit are kept.
-/

set_option autoImplicit false

namespace WasmTyping

/-- Two label stacks that differ at most in kind and reachability of the
innermost region. -/
inductive SameFrame : List Label → List Label → Prop where
  | closed : SameFrame [] []
  | opened {before after : Label} (outer : List Label) (params : after.params = before.params)
      (results : after.results = before.results) (limit : after.limit = before.limit) :
      SameFrame (before :: outer) (after :: outer)

theorem SameFrame.refl (labels : List Label) : SameFrame labels labels := by
  cases labels with
  | nil => exact .closed
  | cons label outer => exact .opened outer rfl rfl rfl

theorem SameFrame.trans {first second third : List Label} (left : SameFrame first second)
    (right : SameFrame second third) : SameFrame first third := by
  cases left with
  | closed => exact right
  | opened outer params results limit =>
      cases right with
      | opened _ params' results' limit' =>
          exact .opened outer (params'.trans params) (results'.trans results) (limit'.trans limit)

/-- One state differs from another only inside the innermost region. -/
structure State.Confined (before after : State) : Prop where
  frame : SameFrame before.labels after.labels
  below : after.operands.take before.limit = before.operands.take before.limit
  height : before.limit ≤ after.operands.length

namespace State.Confined

theorem limit_eq {before after : State} (confined : before.Confined after) :
    after.limit = before.limit := by
  have frame := confined.frame
  unfold State.limit
  generalize before.labels = inside at frame
  generalize after.labels = outside at frame
  cases frame with
  | closed => rfl
  | opened outer params results limit => exact limit

theorem grounded {before after : State} (confined : before.Confined after) :
    after.limit ≤ after.operands.length := by
  rw [confined.limit_eq]
  exact confined.height

theorem refl {state : State} (grounded : state.limit ≤ state.operands.length) :
    state.Confined state :=
  ⟨.refl state.labels, rfl, grounded⟩

theorem trans {first second third : State} (left : first.Confined second)
    (right : second.Confined third) : first.Confined third where
  frame := left.frame.trans right.frame
  below := by
    have below := right.below
    rw [left.limit_eq] at below
    rw [below, left.below]
  height := by
    have height := right.height
    rw [left.limit_eq] at height
    exact height

variable {state : State} (grounded : state.limit ≤ state.operands.length)

include grounded

theorem push (types : List ValueType) : state.Confined (state.push types) where
  frame := .refl state.labels
  below := List.take_append_of_le_length grounded
  height := by
    simp only [State.push, List.length_append]
    omega

theorem discard (count : Nat) : state.Confined (state.discard count) where
  frame := .refl state.labels
  below := by
    simp only [State.discard, List.take_take]
    rw [Nat.min_eq_left (Nat.le_max_left _ _)]
  height := by
    simp only [State.discard, List.length_take]
    omega

theorem remove (count : Nat) : state.Confined (state.remove count) := by
  unfold State.remove
  split
  · exact refl grounded
  · exact discard grounded count

theorem keep_table (types : Option (List ValueType)) :
    state.Confined { state with tableTypes := types } :=
  ⟨.refl state.labels, rfl, grounded⟩

theorem mark_unreachable : state.Confined state.markUnreachable := by
  rcases opened : state.labels with _ | ⟨label, outer⟩
  · simp only [State.markUnreachable, opened]
    exact refl grounded
  · have limit : state.limit = label.limit := by simp only [State.limit, opened]
    rw [limit] at grounded
    constructor
    · simp only [State.markUnreachable, opened]
      exact .opened outer rfl rfl rfl
    · simp only [State.markUnreachable, opened, limit, List.take_take, Nat.min_self]
    · simp only [State.markUnreachable, opened, limit, List.length_take]
      omega

theorem begin_arm (kind : LabelKind) (types : List ValueType) :
    state.Confined (state.beginArm kind types) := by
  rcases opened : state.labels with _ | ⟨label, outer⟩
  · simp only [State.beginArm, opened]
    exact refl grounded
  · have limit : state.limit = label.limit := by simp only [State.limit, opened]
    rw [limit] at grounded
    have cut : (state.operands.take label.limit).length = label.limit := by
      rw [List.length_take]
      omega
    constructor
    · simp only [State.beginArm, opened]
      exact .opened outer rfl rfl rfl
    · simp only [State.beginArm, opened, limit]
      rw [List.take_append_of_le_length (by omega), List.take_take, Nat.min_self]
    · simp only [State.beginArm, opened, limit, List.length_append, cut]
      omega

end State.Confined

/-- Ordinary changes stay inside the innermost region. -/
theorem State.Edited.confined {before after : State} (edited : before.Edited after)
    (grounded : before.limit ≤ before.operands.length) : before.Confined after := by
  induction edited with
  | same state => exact .refl grounded
  | push state types => exact .push grounded types
  | remove state count => exact .remove grounded count
  | keepTable state types => exact .keep_table grounded types
  | markUnreachable state => exact .mark_unreachable grounded
  | trans left right leftIh rightIh =>
      have middle := leftIh grounded
      exact middle.trans (rightIh middle.grounded)

/-- The next arm of the innermost region begins inside it. -/
theorem Check.next_arm_confined (rule : LabelRule) (label : Label) (construct : String)
    (kind : LabelKind) (types : List ValueType) (env : Environment) (state : State)
    (grounded : state.limit ≤ state.operands.length) :
    state.Confined (nextArm rule label construct kind types env state).state := by
  rw [next_arm_state]
  have removed := State.Confined.remove grounded label.results.length
  exact removed.trans (.begin_arm removed.grounded kind types)

theorem Check.else_arm_confined (env : Environment) (state : State)
    (grounded : state.limit ≤ state.operands.length) :
    state.Confined (elseArm env state).state := by
  rcases opened : state.labels with _ | ⟨label, outer⟩
  · rw [elseArm, innermost_bind_of_closed opened]
    exact .refl grounded
  · rw [elseArm, innermost_bind_of_open opened]
    exact next_arm_confined _ _ _ _ _ env state grounded

theorem Check.catch_arm_confined (values : List ValueType) (env : Environment) (state : State)
    (grounded : state.limit ≤ state.operands.length) :
    state.Confined (catchArm values env state).state := by
  rcases opened : state.labels with _ | ⟨label, outer⟩
  · rw [catchArm, innermost_bind_of_closed opened]
    exact .refl grounded
  · rw [catchArm, innermost_bind_of_open opened]
    exact next_arm_confined _ _ _ _ _ env state grounded

/-! ## The roles of the operations -/

/-- What an operation does to the stack of regions. -/
inductive Role where
  | begins (kind : LabelKind) (results : List ValueType)
  | opens (kind : LabelKind) (params results : List ValueType)
  | closes
  | stays
  deriving DecidableEq

def Operation.role : Operation → Role
  | beginFunction results => .begins .function results
  | beginInitExpr type => .begins .initExpr [type]
  | enter opening params results => .opens opening.label params results
  | finishTryTable params results => .opens .tryTable params results
  | endFunction | endInitExpr | endBlock | delegate _ => .closes
  | _ => .stays

namespace Operation

variable {env : Environment} {state : State} {operation : Operation}

theorem run_of_begins {kind : LabelKind} {results : List ValueType}
    (role : operation.role = .begins kind results) :
    (operation.run env state).state = State.empty.enter kind [] results := by
  cases operation <;> simp only [Operation.role, Role.begins.injEq, reduceCtorEq] at role
  all_goals
    obtain ⟨rfl, rfl⟩ := role
    rfl

theorem run_of_opens {kind : LabelKind} {params results : List ValueType}
    (role : operation.role = .opens kind params results)
    (grounded : state.limit ≤ state.operands.length) :
    ∃ middle, state.Confined middle ∧
      (operation.run env state).state = middle.enter kind params results := by
  cases operation <;> simp only [Operation.role, Role.opens.injEq, reduceCtorEq] at role
  case enter opening params results =>
    obtain ⟨rfl, rfl, rfl⟩ := role
    exact ⟨_, (Check.Edits.pop_signatures _ _ env state).confined grounded, rfl⟩
  case finishTryTable params results =>
    obtain ⟨rfl, rfl, rfl⟩ := role
    exact ⟨state, .refl grounded, rfl⟩

theorem close_under_cases (grounded : state.limit ≤ state.operands.length) (rule : LabelRule)
    (construct last : String) :
    (Check.closeUnder rule construct last env state).state = state ∨
      ∃ middle, state.Confined middle ∧ state.labels ≠ [] ∧
        (Check.closeUnder rule construct last env state).state = middle.leave := by
  rcases opened : state.labels with _ | ⟨label, outer⟩
  · exact .inl (Check.close_under_state_of_closed opened rule construct last)
  · refine .inr ⟨_, .remove grounded label.results.length, List.cons_ne_nil _ _, ?_⟩
    exact Check.close_under_state_of_open opened rule construct last

theorem end_region_cases (grounded : state.limit ≤ state.operands.length) :
    (Check.endRegion env state).state = state ∨
      ∃ middle, state.Confined middle ∧ state.labels ≠ [] ∧
        (Check.endRegion env state).state = middle.leave := by
  rcases opened : state.labels with _ | ⟨label, outer⟩
  · left
    rw [Check.endRegion, Check.innermost_bind_of_closed opened]
  · right
    rw [Check.endRegion, Check.innermost_bind_of_open opened]
    by_cases conditional : label.kind = .ifThen
    · rw [if_pos conditional, Check.also_state, Check.leave_region_state]
      have continued := Check.else_arm_confined env state grounded
      exact ⟨_, continued.trans (.remove continued.grounded _), List.cons_ne_nil _ _, rfl⟩
    · rw [if_neg conditional, Check.leave_region_state]
      exact ⟨_, .remove grounded _, List.cons_ne_nil _ _, rfl⟩

/-- A step that closes a region does nothing, or leaves the innermost region
after touching nothing else. -/
theorem run_of_closes (role : operation.role = .closes)
    (grounded : state.limit ≤ state.operands.length) :
    (operation.run env state).state = state ∨
      ∃ middle, state.Confined middle ∧ state.labels ≠ [] ∧
        (operation.run env state).state = middle.leave := by
  cases operation <;> simp only [Operation.role, reduceCtorEq] at role
  case endFunction => exact close_under_cases grounded _ _ _
  case endInitExpr => exact close_under_cases grounded _ _ _
  case endBlock => exact end_region_cases grounded
  case delegate depth =>
    simp only [Operation.run, Check.delegate, Check.resolve]
    rcases resolved : state.resolve (min (depth + 1) Check.greatestDepth) with complaint | label
    · rw [Check.ask_bind_of_error resolved]
      exact .inl rfl
    · rw [Check.ask_bind_of_ok resolved]
      exact close_under_cases grounded _ _ _

theorem run_of_stays (role : operation.role = .stays)
    (grounded : state.limit ≤ state.operands.length) :
    state.Confined (operation.run env state).state := by
  by_cases ordinary : operation.isStructural = false
  · exact (run_edits ordinary env state).confined grounded
  · cases operation <;> simp [Operation.role, isStructural] at role ordinary
    case elseArm => exact Check.else_arm_confined env state grounded
    case catchArm values => exact Check.catch_arm_confined values env state grounded

end Operation

end WasmTyping
