import WasmTyping.Body.Action
import WasmTyping.Proofs.AccessInRange

/-!
# Stack discipline

The limits of the open labels never decrease from the outermost to the innermost,
and the innermost one is at most the height of the operand stack. Every step
keeps this, whether it succeeds or not and whether or not it makes sense where it
is taken, so it holds in every state that steps can lead to.
-/

set_option autoImplicit false

namespace WasmTyping

namespace State

/-- The state after some steps, whatever their verdicts. -/
def after (state : State) (env : Environment) (operations : List Operation) : State :=
  operations.foldl (fun current operation => (operation.run env current).state) state

@[simp] theorem after_nil (state : State) (env : Environment) : state.after env [] = state := rfl

@[simp] theorem after_cons (state : State) (env : Environment) (operation : Operation)
    (rest : List Operation) :
    state.after env (operation :: rest) = (operation.run env state).state.after env rest := rfl

theorem after_append (state : State) (env : Environment) (first second : List Operation) :
    state.after env (first ++ second) = (state.after env first).after env second :=
  List.foldl_append

/-- The verdicts and the diagnostics of some steps, one after the other. -/
def replies (env : Environment) : State → List Operation → List (Verdict × List Diagnostic)
  | _, [] => []
  | state, operation :: rest =>
    let outcome := operation.run env state
    (outcome.result, outcome.diagnostics) :: outcome.state.replies env rest

/-- Limits do not decrease inwards, and the innermost one is at most the height
of the operand stack. Labels are listed from the innermost. -/
structure Disciplined (state : State) : Prop where
  ordered : state.labels.Pairwise fun inner outer => outer.limit ≤ inner.limit
  grounded : state.limit ≤ state.operands.length

theorem empty_disciplined : State.empty.Disciplined :=
  ⟨.nil, Nat.le_refl 0⟩

namespace Disciplined

variable {state : State}

theorem outer_limit_le {label : Label} {outer : List Label} (disciplined : state.Disciplined)
    (opened : state.labels = label :: outer) : ∀ other ∈ outer, other.limit ≤ label.limit := by
  have ordered := disciplined.ordered
  rw [opened] at ordered
  exact (List.pairwise_cons.mp ordered).1

theorem limit_le_height {label : Label} (disciplined : state.Disciplined)
    (member : label ∈ state.labels) : label.limit ≤ state.operands.length := by
  rcases opened : state.labels with _ | ⟨inner, outer⟩
  · rw [opened] at member
    cases member
  · have grounded := disciplined.grounded
    simp only [State.limit, opened] at grounded
    rw [opened] at member
    rcases List.mem_cons.mp member with same | other
    · rw [same]
      exact grounded
    · exact Nat.le_trans (disciplined.outer_limit_le opened label other) grounded

/-- Changes inside the innermost region keep the discipline. -/
theorem of_confined {after : State} (disciplined : state.Disciplined)
    (confined : state.Confined after) : after.Disciplined := by
  refine ⟨?_, confined.grounded⟩
  have ordered := disciplined.ordered
  have frame := confined.frame
  generalize state.labels = before at ordered frame
  generalize after.labels = labels at frame
  cases frame with
  | closed => exact ordered
  | opened outer params results limit =>
      obtain ⟨below, rest⟩ := List.pairwise_cons.mp ordered
      refine List.pairwise_cons.mpr ⟨fun other member => ?_, rest⟩
      rw [limit]
      exact below other member

theorem enter (disciplined : state.Disciplined) (kind : LabelKind)
    (params results : List ValueType) : (state.enter kind params results).Disciplined := by
  constructor
  · exact List.pairwise_cons.mpr
      ⟨fun other member => disciplined.limit_le_height member, disciplined.ordered⟩
  · simp only [State.enter, State.limit, List.length_append]
    omega

theorem leave (disciplined : state.Disciplined) : state.leave.Disciplined := by
  rcases opened : state.labels with _ | ⟨label, outer⟩
  · simp only [State.leave, opened]
    exact disciplined
  · have ordered := disciplined.ordered
    have height := disciplined.limit_le_height (opened ▸ List.mem_cons_self)
    have below := disciplined.outer_limit_le opened
    rw [opened] at ordered
    refine ⟨?_, ?_⟩
    · simp only [State.leave, opened]
      exact (List.pairwise_cons.mp ordered).2
    · simp only [State.leave, opened, State.limit, List.length_append, List.length_take]
      cases outer with
      | nil => exact Nat.zero_le _
      | cons next rest =>
          have lower := below next List.mem_cons_self
          dsimp only
          omega

/-- Every step keeps the discipline. -/
theorem run (disciplined : state.Disciplined) (operation : Operation) (env : Environment) :
    (operation.run env state).state.Disciplined := by
  rcases role : operation.role with ⟨kind, results⟩ | ⟨kind, params, results⟩ | _ | _
  · rw [operation.run_of_begins role]
    exact empty_disciplined.enter kind [] results
  · obtain ⟨middle, confined, entered⟩ :=
      @Operation.run_of_opens env _ _ _ _ _ role disciplined.grounded
    rw [entered]
    exact (disciplined.of_confined confined).enter kind params results
  · rcases @Operation.run_of_closes env _ _ role disciplined.grounded with
      same | ⟨middle, confined, _, left⟩
    · rw [same]
      exact disciplined
    · rw [left]
      exact (disciplined.of_confined confined).leave
  · exact disciplined.of_confined
      (Operation.run_of_stays role disciplined.grounded)

theorem after (disciplined : state.Disciplined) (env : Environment)
    (operations : List Operation) : (state.after env operations).Disciplined := by
  induction operations generalizing state with
  | nil => exact disciplined
  | cons operation rest ih => exact ih (disciplined.run operation env)

end Disciplined

end State

theorem Action.run_all_disciplined {state : State} (disciplined : state.Disciplined)
    (env : Environment) (actions : List Action) : (runAll actions env state).state.Disciplined := by
  induction actions generalizing state with
  | nil => exact disciplined
  | cons action rest ih =>
      cases action with
      | refuse complaint => exact ih disciplined
      | perform operation => exact ih (disciplined.run operation env)

/-- In every state that steps can lead to, limits are ordered and covered by the
stack, the operands above the innermost limit are as many as the difference says,
and no access of a further step or of a query is out of range. -/
theorem reachable_states_are_disciplined (env : Environment) (operations : List Operation) :
    let state := State.empty.after env operations
    state.Disciplined ∧
      state.limit + state.region.length = state.operands.length ∧
      (∀ operation : Operation,
        operation.runGuarded env state = some (operation.run env state)) ∧
      (∀ depth, Guarded.catchCount depth env state = some (Check.catchCount depth env state)) ∧
      ∀ depth, state.peekAt? depth = some (state.peek depth) := by
  intro state
  have disciplined : state.Disciplined := State.empty_disciplined.after env operations
  have grounded := disciplined.grounded
  refine ⟨disciplined, ?_, ?_, ?_, ?_⟩
  · rw [State.region, List.length_drop]
    omega
  · intro operation
    exact operation.run_guarded_agrees env state grounded
  · intro depth
    exact Guarded.Agrees.catch_count depth env state grounded
  · intro depth
    exact State.peek_at_eq grounded depth

end WasmTyping
