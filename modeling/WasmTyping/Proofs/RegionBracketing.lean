import WasmTyping.Proofs.StackDiscipline

/-!
# Region bracketing

From the step that opens a region to the step that closes it, the operands below
the region and the labels around it are out of reach. When the region is closed
they are found as they were, with the results of the region on top, whatever was
checked, failed or became unreachable in between.
-/

set_option autoImplicit false

namespace WasmTyping

/-- A region with the given results is open above some operands and inside some
labels; further regions may be open inside it. -/
def State.Encloses (state : State) (below results : List ValueType) (outer : List Label) : Prop :=
  ∃ inner label, state.labels = inner ++ label :: outer ∧ label.limit = below.length ∧
    label.results = results ∧ state.operands.take below.length = below

/-- The region is closed: its results stand on the operands below it. -/
def State.Bracketed (state : State) (below results : List ValueType) (outer : List Label) : Prop :=
  state.operands = below ++ results ∧ state.labels = outer

namespace State.Encloses

variable {state : State} {below results : List ValueType} {outer : List Label}

theorem depth (encloses : state.Encloses below results outer) :
    outer.length < state.labels.length := by
  obtain ⟨inner, label, labels, -⟩ := encloses
  rw [labels, List.length_append, List.length_cons]
  omega

theorem below_le_limit (encloses : state.Encloses below results outer)
    (disciplined : state.Disciplined) : below.length ≤ state.limit := by
  obtain ⟨inner, label, labels, limit, -⟩ := encloses
  cases inner with
  | nil => simp only [State.limit, labels, List.nil_append, limit, Nat.le_refl]
  | cons first rest =>
      have lower := disciplined.outer_limit_le labels label (by simp)
      simp only [State.limit, labels, List.cons_append]
      omega

/-- Operands that agree up to the innermost limit agree below the region. -/
theorem take_below {operands : List ValueType} (encloses : state.Encloses below results outer)
    (disciplined : state.Disciplined)
    (kept : operands.take state.limit = state.operands.take state.limit) :
    operands.take below.length = below := by
  have lower := encloses.below_le_limit disciplined
  obtain ⟨inner, label, labels, limit, same, operandsBelow⟩ := encloses
  calc
    operands.take below.length = (operands.take state.limit).take below.length := by
      rw [List.take_take, Nat.min_eq_left lower]
    _ = (state.operands.take state.limit).take below.length := by rw [kept]
    _ = state.operands.take below.length := by rw [List.take_take, Nat.min_eq_left lower]
    _ = below := operandsBelow

theorem of_confined {after : State} (encloses : state.Encloses below results outer)
    (disciplined : state.Disciplined) (confined : state.Confined after) :
    after.Encloses below results outer := by
  have kept := encloses.take_below disciplined confined.below
  obtain ⟨inner, label, labels, limit, same, -⟩ := encloses
  have frame := confined.frame
  rw [labels] at frame
  generalize afterLabels : after.labels = found at frame
  cases inner with
  | nil =>
      cases frame with
      | @opened _ other _ params results' limit' =>
          exact ⟨[], other, afterLabels, limit'.trans limit, results'.trans same, kept⟩
  | cons first rest =>
      cases frame with
      | @opened _ other _ params results' limit' =>
          exact ⟨other :: rest, label, afterLabels, limit, same, kept⟩

theorem enter (encloses : state.Encloses below results outer) (disciplined : state.Disciplined)
    (kind : LabelKind) (params types : List ValueType) :
    (state.enter kind params types).Encloses below results outer := by
  have kept : (state.operands ++ params).take state.limit = state.operands.take state.limit :=
    List.take_append_of_le_length disciplined.grounded
  have operandsBelow := encloses.take_below disciplined kept
  obtain ⟨inner, label, labels, limit, same, -⟩ := encloses
  refine ⟨⟨kind, params, types, state.operands.length, false⟩ :: inner, label, ?_, limit, same,
    operandsBelow⟩
  simp only [State.enter, labels, List.cons_append]

/-- To leave the innermost region closes the region or one inside it. -/
theorem leave (encloses : state.Encloses below results outer) (disciplined : state.Disciplined) :
    state.leave.Encloses below results outer ∨ state.leave.Bracketed below results outer := by
  have lower := encloses.below_le_limit disciplined
  have kept := encloses.take_below disciplined rfl
  obtain ⟨inner, label, labels, limit, same, -⟩ := encloses
  cases inner with
  | nil =>
      right
      simp only [State.Bracketed, State.leave, labels, List.nil_append, limit, kept, same, and_self]
  | cons first rest =>
      have grounded := disciplined.grounded
      simp only [State.limit, labels, List.cons_append] at lower grounded
      left
      refine ⟨rest, label, ?_, limit, same, ?_⟩
      · simp only [State.leave, labels, List.cons_append]
      · simp only [State.leave, labels, List.cons_append]
        rw [List.take_append_of_le_length (by rw [List.length_take]; omega), List.take_take,
          Nat.min_eq_left lower]
        exact kept

/-- A step that does not begin a new body stays above the region or closes it. -/
theorem run (encloses : state.Encloses below results outer) (disciplined : state.Disciplined)
    {operation : Operation} (env : Environment)
    (continues : ∀ kind types, operation.role ≠ .begins kind types) :
    (operation.run env state).state.Encloses below results outer ∨
      operation.role = .closes ∧
        (operation.run env state).state.Bracketed below results outer := by
  rcases role : operation.role with ⟨kind, types⟩ | ⟨kind, params, types⟩ | _ | _
  · exact absurd role (continues kind types)
  · obtain ⟨middle, confined, entered⟩ :=
      @Operation.run_of_opens env _ _ _ _ _ role disciplined.grounded
    rw [entered]
    exact .inl ((encloses.of_confined disciplined confined).enter
      (disciplined.of_confined confined) kind params types)
  · rcases @Operation.run_of_closes env _ _ role disciplined.grounded with
      same | ⟨middle, confined, _, left⟩
    · rw [same]
      exact .inl encloses
    · rw [left]
      refine ((encloses.of_confined disciplined confined).leave
        (disciplined.of_confined confined)).imp_right fun bracketed => ⟨rfl, bracketed⟩
  · exact .inl (encloses.of_confined disciplined
      (Operation.run_of_stays role disciplined.grounded))

/-- While the labels outnumber those around the region, the region is open. -/
theorem after (encloses : state.Encloses below results outer) (disciplined : state.Disciplined)
    (env : Environment) {operations : List Operation}
    (continues : ∀ operation ∈ operations, ∀ kind types, operation.role ≠ .begins kind types)
    (stays : ∀ count, count ≤ operations.length →
      outer.length < (state.after env (operations.take count)).labels.length) :
    (state.after env operations).Encloses below results outer := by
  induction operations generalizing state with
  | nil => exact encloses
  | cons operation rest ih =>
      rcases encloses.run disciplined env (continues operation List.mem_cons_self) with
        stillOpen | ⟨_, -, labels⟩
      · apply ih stillOpen (disciplined.run operation env)
        · intro other member
          exact continues other (List.mem_cons_of_mem _ member)
        · intro count bound
          exact stays (count + 1) (Nat.succ_le_succ bound)
      · have deep := stays 1 (Nat.succ_le_succ (Nat.zero_le _))
        simp only [List.take_succ_cons, List.take_zero, State.after_cons, State.after_nil,
          labels] at deep
        omega

end State.Encloses

/-- The state right after a region is opened encloses that region. -/
theorem opened_encloses {state : State} (disciplined : state.Disciplined) (env : Environment)
    {operation : Operation} {kind : LabelKind} {params results : List ValueType}
    (role : operation.role = .opens kind params results) :
    ∃ label outer, (operation.run env state).state.labels = label :: outer ∧
      label.results = results ∧
      (operation.run env state).state.Encloses
        ((operation.run env state).state.operands.take label.limit) results outer := by
  obtain ⟨middle, confined, entered⟩ :=
    @Operation.run_of_opens env _ _ _ _ _ role disciplined.grounded
  rw [entered]
  refine ⟨_, middle.labels, rfl, rfl, [], _, rfl, ?_, rfl, ?_⟩
  · simp [State.enter]
  · simp [State.enter]

/-- Take any reachable state in which a step has just opened a region. Any further
steps that keep the region open and do not begin a new body, followed by a step
after which it is no longer open, leave the operands below the region, then its
results, and exactly the labels around it. -/
theorem closed_region_restores_surroundings (env : Environment) (history : List Operation)
    {opening : Operation} {kind : LabelKind} {params results : List ValueType}
    (role : opening.role = .opens kind params results) :
    let opened := State.empty.after env (history ++ [opening])
    ∃ label outer, opened.labels = label :: outer ∧ label.results = results ∧
      ∀ (operations : List Operation) (last : Operation),
        (∀ operation ∈ operations ++ [last], ∀ kind types,
          operation.role ≠ .begins kind types) →
        (∀ count, count ≤ operations.length →
          outer.length < (opened.after env (operations.take count)).labels.length) →
        (opened.after env (operations ++ [last])).labels.length ≤ outer.length →
        last.role = .closes ∧
          (opened.after env (operations ++ [last])).operands =
            opened.operands.take label.limit ++ label.results ∧
          (opened.after env (operations ++ [last])).labels = outer := by
  intro opened
  have start : (State.empty.after env history).Disciplined :=
    State.empty_disciplined.after env history
  have disciplined : opened.Disciplined := State.empty_disciplined.after env (history ++ [opening])
  have split : opened = (opening.run env (State.empty.after env history)).state := by
    simp only [opened, State.after_append, State.after_cons, State.after_nil]
  obtain ⟨label, outer, labels, same, encloses⟩ := opened_encloses start env role
  rw [← split] at labels encloses
  refine ⟨label, outer, labels, same, ?_⟩
  intro operations last continues stays closes
  have inside := encloses.after disciplined env
    (fun operation member => continues operation (List.mem_append_left _ member)) stays
  have final := inside.run (disciplined.after env operations) env
    (continues last (List.mem_append_right _ List.mem_cons_self))
  have split : opened.after env (operations ++ [last]) =
      (last.run env (opened.after env operations)).state := by
    simp only [State.after_append, State.after_cons, State.after_nil]
  rw [split] at closes ⊢
  rcases final with stillOpen | ⟨closing, operands, around⟩
  · have deep := stillOpen.depth
    omega
  · rw [same]
    exact ⟨closing, operands, around⟩

/-- A block that drops one value too many, and leaves a loop unreachable, inside a
function with one value below the block. -/
theorem failing_block_restores_surroundings :
    let env : Environment := ⟨.empty, .standard⟩
    let history : List Operation :=
      [.beginFunction [], .plain (.constant .f32), .plain (.constant .i32)]
    let opening : Operation := .enter .block [.i32] [.i64]
    let operations : List Operation := [.drop, .drop, .enter .loop [] [], .unreachable, .endBlock]
    let opened := State.empty.after env (history ++ [opening])
    opening.role = .opens .block [.i32] [.i64] ∧
      (opened.after env (operations ++ [.endBlock])).operands = [.f32, .i64] ∧
      (opened.after env (operations ++ [.endBlock])).labels =
        [⟨.function, [], [], 0, false⟩] := by
  intro env history opening operations opened
  have role : opening.role = .opens .block [.i32] [.i64] := rfl
  obtain ⟨label, outer, labels, results, restores⟩ :=
    closed_region_restores_surroundings env history role
  have found : opened.labels =
      [⟨.block, [.i32], [.i64], 1, false⟩, ⟨.function, [], [], 0, false⟩] := by decide
  rw [found] at labels
  obtain ⟨rfl, rfl⟩ := List.cons.inj labels
  have continues : ∀ operation ∈ operations ++ [.endBlock], ∀ kind types,
      operation.role ≠ .begins kind types := by
    simp [operations, Operation.role]
  obtain ⟨-, operands, around⟩ :=
    restores operations .endBlock continues (by decide) (by decide)
  exact ⟨role, operands, around⟩

end WasmTyping
