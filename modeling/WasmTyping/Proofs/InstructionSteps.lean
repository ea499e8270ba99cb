import WasmTyping.Body.Action
import WasmTyping.Proofs.RegionEdits
import WasmTyping.Proofs.StructuredForms

/-!
# The steps of an instruction

Which operations of the checker an instruction performs. A plain instruction
performs only ordinary ones: none that begins, opens, continues or closes a region,
and none that merely asks. A structured instruction performs its own operation
after ordinary ones. Refusals perform nothing.
-/

set_option autoImplicit false

namespace WasmTyping

/-- Whether an operation is a step of an instruction inside a region. -/
def Operation.isOrdinary (operation : Operation) : Bool :=
  !operation.isStructural && !operation.isQuery

/-- Whether an operation can be a step of an instruction as far as tables go: only a
`br_table` compares targets. -/
def Operation.serves (instruction : Instruction) : Operation → Bool
  | brTableTarget _ =>
    match instruction with
    | .brTable _ _ => true
    | _ => false
  | _ => true

/-- All operations that some actions perform are of a kind. -/
def Action.Perform (allowed : Operation → Bool) (actions : List Action) : Prop :=
  ∀ operation, .perform operation ∈ actions → allowed operation = true

namespace Action.Perform

variable {allowed : Operation → Bool} {actions : List Action}

theorem nothing : Perform allowed [] := by
  intro operation member
  cases member

theorem refusal (complaint : Complaint) : Perform allowed [.refuse complaint] := by
  intro operation member
  cases List.mem_singleton.mp member

theorem one {operation : Operation} (allows : allowed operation = true) :
    Perform allowed [.perform operation] := by
  intro other member
  cases List.mem_singleton.mp member
  exact allows

theorem append {more : List Action} (first : Perform allowed actions)
    (second : Perform allowed more) : Perform allowed (actions ++ more) := by
  intro operation member
  rcases List.mem_append.mp member with before | after
  · exact first operation before
  · exact second operation after

theorem mono {wider : Operation → Bool} (performs : Perform allowed actions)
    (implies : ∀ operation, allowed operation = true → wider operation = true) :
    Perform wider actions :=
  fun operation member => implies operation (performs operation member)

theorem flat_map {α : Type} {each : α → List Action} (items : List α)
    (performs : ∀ item, Perform allowed (each item)) : Perform allowed (items.flatMap each) := by
  intro operation member
  obtain ⟨item, -, inside⟩ := List.mem_flatMap.mp member
  exact performs item operation inside

theorem demand (holds : Bool) (complaint : Complaint) :
    Perform allowed (Scope.demand holds complaint) := by
  cases holds with
  | true => exact nothing
  | false => exact refusal complaint

theorem resolving {α : Type} {found : Except IndexSpace α} {index : Nat}
    {rest : α → List Action} (performs : ∀ value, Perform allowed (rest value)) :
    Perform allowed (Scope.resolving found index rest) := by
  cases found with
  | ok value => exact performs value
  | error space => exact refusal _

variable {scope : Scope}

theorem requiring {feature : Feature} {name : String} (performs : Perform allowed actions) :
    Perform allowed (scope.requiring feature name actions) := by
  unfold Scope.requiring
  split
  · exact performs
  · exact refusal _

theorem requiring_simd_for {op : Opcode} (performs : Perform allowed actions) :
    Perform allowed (scope.requiringSimdFor op actions) := by
  unfold Scope.requiringSimdFor
  split
  · exact requiring performs
  · exact performs

theorem accessing {op : Opcode} {arg : MemArg} {operation : Limits → Operation}
    (allows : ∀ limits, allowed (operation limits) = true) :
    Perform allowed (scope.accessing op arg operation) :=
  resolving fun limits => append (demand _ _) (one (allows limits))

theorem data_segment_refusal (index : Nat) : Perform allowed (scope.dataSegmentRefusal index) := by
  unfold Scope.dataSegmentRefusal
  split
  · exact nothing
  · exact refusal _
  · exact refusal _

/-- What is refused about a block type performs nothing. -/
theorem block_signature (name : String) (type : BlockType) :
    Perform allowed (scope.blockSignature name type).2 := by
  unfold Scope.blockSignature
  split
  · unfold Scope.arityRefusal
    split
    · exact nothing
    · exact requiring nothing
  · exact refusal _
  · exact nothing

theorem clause_actions (allows : ∀ values depth, allowed (.tryTableCatch values depth) = true)
    (clause : CatchClause) : Perform allowed (scope.clauseActions clause) := by
  unfold Scope.clauseActions
  dsimp only
  split
  · exact one (allows _ _)
  · exact resolving fun _ => one (allows _ _)

end Action.Perform

namespace Scope

open WasmTyping.Action (Perform)

variable (scope : Scope) (depth : Nat)

/-- A plain instruction performs only ordinary operations of its own. -/
theorem plain_steps {instruction : Instruction} (isPlain : instruction.isPlain = true) :
    Perform (fun operation => operation.isOrdinary && operation.serves instruction)
      (scope.instructionActions depth instruction) := by
  unfold instructionActions
  cases instruction with
  | enter | tryTable | elseArm | endBlock | catchTag | catchAll | delegate => cases isPlain
  | unreachable | nop | br | brIf | returnValues | drop => exact .one rfl
  | i32Const | i64Const | f32Const | f64Const => exact .one rfl
  | rethrow | throwRef | brOnNull | brOnNonNull | callRef | v128Const | atomicFence | lane
  | shuffle | refNull | refIsNull | refAsNonNull => exact .requiring (.one rfl)
  | throwTag | returnCall | tableGet | tableSet | tableSize | tableGrow | tableFill | refFunc =>
      exact .requiring (.resolving fun _ => .one rfl)
  | call | localGet | localSet | localTee | globalGet | elemDrop | memorySize | memoryGrow
  | memoryFill => exact .resolving fun _ => .one rfl
  | brTable targets fallback =>
      refine .append (.append (.one rfl) ?_) (.one rfl)
      intro operation member
      obtain ⟨target, -, same⟩ := List.mem_map.mp member
      cases same
      rfl
  | callIndirect | tableCopy | tableInit =>
      exact .resolving fun _ => .resolving fun _ => .append (.demand _ _) (.one rfl)
  | returnCallIndirect =>
      exact .requiring (.resolving fun _ => .resolving fun _ => .append (.demand _ _) (.one rfl))
  | returnCallRef => exact .requiring (.requiring (.one rfl))
  | select declared =>
      cases declared with
      | none => exact .one rfl
      | some type => exact .requiring (.one rfl)
  | globalSet => exact .resolving fun _ => .append (.demand _ _) (.one rfl)
  | memoryCopy => exact .resolving fun _ => .resolving fun _ => .one rfl
  | memoryInit => exact .resolving fun _ => .append (.data_segment_refusal _) (.one rfl)
  | dataDrop segment =>
      have refusals : Perform (fun operation => operation.isOrdinary &&
          operation.serves (.dataDrop segment)) (scope.dataSegmentRefusal segment) :=
        .data_segment_refusal segment
      dsimp only
      split
      · exact .one rfl
      · exact refusals
  | numeric => exact .requiring_simd_for (.one rfl)
  | access kind op arg =>
      dsimp only
      split
      · exact .requiring (.accessing fun _ => rfl)
      · exact .requiring_simd_for (.accessing fun _ => rfl)
  | laneAccess => exact .requiring (.accessing fun _ => rfl)

theorem plain_performs {instruction : Instruction} (isPlain : instruction.isPlain = true) :
    Perform Operation.isOrdinary (scope.instructionActions depth instruction) :=
  (scope.plain_steps depth isPlain).mono fun _ allowed => (Bool.and_eq_true_iff.mp allowed).1

/-- An instruction performs operations of its own and never merely asks. -/
theorem instruction_steps (instruction : Instruction) :
    Perform (fun operation => !operation.isQuery && operation.serves instruction)
      (scope.instructionActions depth instruction) := by
  rcases isPlain : instruction.isPlain with _ | _
  · cases instruction with
    | enter opening type =>
        have entered : Perform (fun operation => !operation.isQuery &&
            operation.serves (.enter opening type)) (scope.enterActions opening type) :=
          .append (.block_signature _ _) (.one rfl)
        unfold instructionActions
        dsimp only
        split
        · exact .requiring entered
        · exact entered
    | tryTable type clauses =>
        refine .requiring (.append (.append (.append (.block_signature _ _) (.one rfl)) ?_)
          (.one rfl))
        exact .flat_map clauses (.clause_actions fun _ _ => rfl)
    | elseArm => exact .one rfl
    | endBlock =>
        unfold instructionActions endActions
        dsimp only
        split
        · split <;> exact .one rfl
        · exact .one rfl
    | catchTag tag =>
        apply Perform.requiring
        unfold catchActions
        split
        · exact .one rfl
        · exact .append (.refusal _) (.one rfl)
    | catchAll | delegate => exact .requiring (.one rfl)
    | _ => cases isPlain
  · apply (scope.plain_steps depth isPlain).mono
    intro operation allowed
    obtain ⟨ordinary, serves⟩ := Bool.and_eq_true_iff.mp allowed
    exact Bool.and_eq_true_iff.mpr ⟨(Bool.and_eq_true_iff.mp ordinary).2, serves⟩

/-- An instruction of the body never merely asks. -/
theorem actions_perform_steps (instruction : Instruction) :
    Perform (fun operation => !operation.isQuery) (scope.actions depth instruction) := by
  have inside : Perform (fun operation => !operation.isQuery)
      (scope.instructionActions depth instruction) :=
    (scope.instruction_steps depth instruction).mono fun _ allowed =>
      (Bool.and_eq_true_iff.mp allowed).1
  unfold actions
  split
  · exact inside
  · split
    · exact .refusal _
    · split
      · exact inside
      · exact .refusal _

end Scope

end WasmTyping
