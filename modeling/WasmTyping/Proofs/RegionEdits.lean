import WasmTyping.Proofs.Effects

/-!
# What ordinary steps are made of

Most steps of the checker neither open, continue nor close a region. Whatever
their verdict, they change the state only by removing and pushing operands of the
innermost region, by marking it unreachable and by keeping the first target of a
table. Every fact about the state that these four changes preserve is therefore
preserved by all such steps.
-/

set_option autoImplicit false

namespace WasmTyping

/-- One state comes from another by changes that an ordinary step may make. -/
inductive State.Edited : State → State → Prop where
  | same (state : State) : Edited state state
  | push (state : State) (types : List ValueType) : Edited state (state.push types)
  | remove (state : State) (count : Nat) : Edited state (state.remove count)
  | keepTable (state : State) (types : Option (List ValueType)) :
      Edited state { state with tableTypes := types }
  | markUnreachable (state : State) : Edited state state.markUnreachable
  | trans {first second third : State} (left : Edited first second)
      (right : Edited second third) : Edited first third

/-- A check that makes only ordinary changes, whatever its verdict. -/
def Check.Edits {α : Type} (check : Check α) : Prop :=
  ∀ (env : Environment) (state : State), state.Edited (check env state).state

namespace Check.Edits

variable {α β : Type}

theorem pure (value : α) : (Pure.pure value : Check α).Edits :=
  fun _ state => .same state

theorem ask (question : Environment → State → Except Complaint α) :
    (Check.ask question).Edits :=
  fun _ state => .same state

theorem observe (view : Environment → State → α) : (Check.observe view).Edits :=
  fun _ state => .same state

theorem settle (verdict : Verdict) : (Check.settle verdict).Edits :=
  fun _ state => .same state

theorem explain (verdict : Verdict) (diagnostic : State → Diagnostic) :
    (Check.explain verdict diagnostic).Edits :=
  fun _ state => .same state

theorem bind {check : Check α} {next : α → Check β} (first : check.Edits)
    (rest : ∀ value, (next value).Edits) : (check >>= next).Edits := by
  intro env state
  have before := first env state
  rcases result : (check env state).result with fault | value
  · rw [bind_apply_error result]
    exact before
  · rw [bind_apply_ok result]
    exact before.trans (rest value env _)

theorem also {first second : Check Unit} (left : first.Edits) (right : second.Edits) :
    (first.also second).Edits :=
  fun env state => (left env state).trans (right env _)

theorem all {checks : List (Check Unit)} (each : ∀ check ∈ checks, check.Edits) :
    (Check.all checks).Edits := by
  induction checks with
  | nil => exact fun _ state => .same state
  | cons check rest ih =>
      rw [all_cons]
      apply also
      · exact each check List.mem_cons_self
      · exact ih fun other member => each other (List.mem_cons_of_mem _ member)

theorem attempt {check : Check Unit} (edits : check.Edits) : (Check.attempt check).Edits :=
  edits

theorem check_signature (signature : List ValueType) (construct : String) :
    (Check.checkSignature signature construct).Edits :=
  bind (observe _) fun _ => explain _ _

theorem drop_types (count : Nat) : (Check.dropTypes count).Edits := by
  intro env state
  rw [drop_types_state]
  exact .remove state count

theorem pop_signature (signature : List ValueType) (construct : String) :
    (Check.popSignature signature construct).Edits :=
  also (check_signature signature construct) (drop_types signature.length)

theorem pop_signatures (signatures : List (List ValueType)) (construct : String) :
    (Check.popSignatures signatures construct).Edits := by
  apply all
  intro check member
  obtain ⟨signature, _, rfl⟩ := List.mem_map.mp member
  exact pop_signature signature construct

theorem push_types (types : List ValueType) : (Check.pushTypes types).Edits :=
  fun _ state => .push state types

theorem keep_table (types : State → Option (List ValueType)) :
    (Check.modify fun state => { state with tableTypes := types state }).Edits :=
  fun _ state => .keepTable state (types state)

theorem pop_reference (construct : String) : (Check.popReference construct).Edits :=
  bind (observe _) fun _ => bind (attempt (also (ask _) (drop_types 1))) fun _ => pure _

theorem set_unreachable : Check.setUnreachable.Edits := by
  intro env state
  rw [set_unreachable_state]
  exact .markUnreachable state

theorem check_lane (count lane : Nat) (fault : Fault) :
    (Check.checkLane count lane fault).Edits :=
  ask _

theorem effect (effect : Effect) : effect.check.Edits :=
  also (pop_signatures _ _) (push_types _)

theorem leave_with (results : List ValueType) : (Check.leaveWith results).Edits :=
  bind (ask _) fun _ => also (ask _) set_unreachable

theorem check_results (label : Label) (construct last : String) :
    (Check.checkResults label construct last).Edits :=
  also (pop_signature _ _) (bind (ask _) fun _ => bind (observe _) fun _ => explain _ _)

end Check.Edits

namespace Operation

/-- Whether an operation only reads or drops, and is not a step of an
instruction. -/
def isQuery : Operation → Bool
  | checkType _ _ | checkTypes _ _ | dropTypes _ => true
  | _ => false

/-- Whether an operation begins a body, or opens, continues or closes a region. -/
def isStructural : Operation → Bool
  | beginFunction _ | beginInitExpr _ => true
  | enter _ _ _ | finishTryTable _ _ => true
  | elseArm | catchArm _ => true
  | endFunction | endInitExpr | endBlock | delegate _ => true
  | _ => false

/-- Steps that are not structural make only ordinary changes. -/
theorem run_edits {operation : Operation} (ordinary : operation.isStructural = false) :
    operation.run.Edits := by
  cases operation <;> simp only [isStructural, Bool.true_eq_false] at ordinary
  case rethrow depth => exact .bind (.ask _) fun _ => .set_unreachable
  case throwTag values => exact .also (.pop_signature _ _) .set_unreachable
  case throwRef => exact .also (.pop_signature _ _) .set_unreachable
  case beginTryTable params => exact .pop_signature _ _
  case tryTableCatch values depth => exact .ask _
  case br depth => exact .bind (.ask _) fun _ => .also (.check_signature _ _) .set_unreachable
  case brIf depth =>
    refine .bind (.attempt (.pop_signature _ _)) fun condition => ?_
    refine .bind (.ask _) fun label => .all ?_
    simp only [List.forall_mem_cons]
    exact ⟨.settle _, .pop_signature _ _, .push_types _, nofun⟩
  case beginBrTable => exact .also (.keep_table _) (.pop_signature _ _)
  case brTableTarget depth =>
    refine .bind (.ask _) fun label => .all ?_
    simp only [List.forall_mem_cons]
    exact ⟨.check_signature _ _, .ask _, .keep_table _, nofun⟩
  case endBrTable => exact .also (.keep_table _) .set_unreachable
  case brOnNull depth =>
    refine .bind (.pop_reference _) fun popped => .bind (.ask _) fun label => .all ?_
    simp only [List.forall_mem_cons]
    exact ⟨.settle _, .check_signature _ _, .push_types _, nofun⟩
  case brOnNonNull depth =>
    refine .bind (.pop_reference _) fun popped => .bind (.ask _) fun label => ?_
    split
    · exact .also (.settle _) (.ask _)
    · apply Check.Edits.all
      simp only [List.forall_mem_cons]
      exact ⟨.settle _, .bind (.observe _) fun _ => .explain _ _, .check_signature _ _, nofun⟩
  case callRef index => exact .bind (.ask _) fun type => .effect _
  case returnValues => exact .bind (.ask _) fun label => .also (.pop_signature _ _) .set_unreachable
  case returnCall params results => exact .also (.pop_signatures _ _) (.leave_with _)
  case returnCallIndirect params results table =>
    exact .also (.pop_signatures _ _) (.leave_with _)
  case returnCallRef index =>
    exact .bind (.ask _) fun type => .also (.pop_signatures _ _) (.leave_with _)
  case plain instruction => exact .effect _
  case lane op index => exact .also (.check_lane _ _ _) (.effect _)
  case shuffle op lanes =>
    refine .also (.all ?_) (.effect _)
    intro check member
    obtain ⟨lane, _, rfl⟩ := List.mem_map.mp member
    exact .check_lane _ _ _
  case laneAccess op memory index => exact .also (.check_lane _ _ _) (.effect _)
  case drop => exact .bind (.attempt (.drop_types _)) fun _ => .explain _ _
  case select declared =>
    refine .bind (.observe _) fun selected => .all ?_
    simp only [List.forall_mem_cons]
    exact ⟨.explain _ _, .drop_types _, .push_types _, nofun⟩
  case unreachable => exact .set_unreachable
  case refIsNull => exact .bind (.pop_reference _) fun _ => .also (.settle _) (.push_types _)
  case refAsNonNull => exact .bind (.pop_reference _) fun _ => .also (.settle _) (.push_types _)
  case checkType actual expected => exact .bind (.observe _) fun _ => .settle _
  case checkTypes actual expected => exact .bind (.observe _) fun _ => .settle _
  case dropTypes count => exact .drop_types count

end Operation

end WasmTyping
