import WasmTyping.Proofs.CompatibilityOrder
import WasmTyping.Proofs.FaultReports
import WasmTyping.Proofs.RegionExecution
import WasmTyping.Proofs.TypeRendering

/-!
# Mismatch messages show a difference

A message that something else was expected gives two texts. The check that failed and the
operands that are shown are computed apart from each other: a message shows as many
operands as were expected, and the check looks at the same ones as long as a region is
open. So where the shown types are the expected ones, the check succeeds, and since types
can be read back from their text the two texts of a message differ.
-/

set_option autoImplicit false

namespace WasmTyping

/-! ## The two texts of a message -/

/-- A message that sets what was found against what was expected. -/
structure Contrast where
  lead : String
  expected : String
  link : String
  actual : String

namespace Contrast

def text (contrast : Contrast) : String :=
  contrast.lead ++ contrast.expected ++ contrast.link ++ contrast.actual

/-- The words around the two texts are those of a mismatch. -/
def IsWorded (contrast : Contrast) : Prop :=
  (∃ start, contrast.lead = start ++ "expected " ∨
    contrast.lead = start ++ "expected element type ") ∧
  (contrast.link = " but got " ∨ contrast.link = ", got ")

end Contrast

namespace Diagnostic

open ValueType (fullText listText) in
/-- The contrast that a diagnostic puts into words, if it does. -/
def contrast? : Diagnostic → Option Contrast
  | mismatch place construct expected actual truncated =>
    some ⟨"type mismatch " ++ place.text ++ " " ++ construct ++ ", expected ",
      fullText expected, " but got ", listText actual truncated⟩
  | expectedReference construct actual =>
    some ⟨"type mismatch in " ++ construct ++ ", expected ", "a reference", " but got ",
      fullText actual.toList⟩
  | returnResults expected actual =>
    some ⟨"return signatures have inconsistent types: expected ", fullText expected, ", got ",
      fullText actual⟩
  | catchValues expected actual =>
    some ⟨"catch signature doesn't match target: expected ", fullText expected, ", got ",
      fullText actual⟩
  | tableTargets expected actual =>
    some ⟨"br_table labels have inconsistent types: expected ", fullText expected, ", got ",
      fullText actual⟩
  | nonNullOperand expected actual =>
    some ⟨"type mismatch in br_on_non_null, expected ", fullText [expected], " but got ",
      fullText [actual]⟩
  | elementMismatch name expected actual =>
    some ⟨"type mismatch in " ++ name ++ ", expected element type ", expected.text, " but got ",
      actual.text⟩
  | _ => none

theorem contrast_text {diagnostic : Diagnostic} {contrast : Contrast}
    (found : diagnostic.contrast? = some contrast) : diagnostic.text = contrast.text := by
  cases diagnostic with
  | mismatch | returnResults | catchValues | tableTargets | nonNullOperand | elementMismatch =>
      cases found
      rfl
  | expectedReference construct actual =>
      cases found
      have words : ", expected a reference but got " =
          ", expected " ++ "a reference" ++ " but got " := by decide
      show "type mismatch in " ++ construct ++ ", expected a reference but got " ++ _ =
        "type mismatch in " ++ construct ++ ", expected " ++ "a reference" ++ " but got " ++ _
      rw [words, ← String.append_assoc, ← String.append_assoc]
  | _ => cases found

theorem contrast_is_worded {diagnostic : Diagnostic} {contrast : Contrast}
    (found : diagnostic.contrast? = some contrast) : contrast.IsWorded := by
  have comma : ", expected " = ", " ++ "expected " := by decide
  have element : ", expected element type " = ", " ++ "expected element type " := by decide
  cases diagnostic with
  | mismatch place construct =>
      cases found
      refine ⟨⟨"type mismatch " ++ place.text ++ " " ++ construct ++ ", ", .inl ?_⟩, .inl rfl⟩
      rw [comma, ← String.append_assoc]
  | expectedReference construct =>
      cases found
      refine ⟨⟨"type mismatch in " ++ construct ++ ", ", .inl ?_⟩, .inl rfl⟩
      rw [comma, ← String.append_assoc]
  | elementMismatch name =>
      cases found
      refine ⟨⟨"type mismatch in " ++ name ++ ", ", .inr ?_⟩, .inl rfl⟩
      rw [element, ← String.append_assoc]
  | returnResults =>
      cases found
      have lead : "return signatures have inconsistent types: expected " =
          "return signatures have inconsistent types: " ++ "expected " := by decide
      exact ⟨⟨_, .inl lead⟩, .inr rfl⟩
  | catchValues =>
      cases found
      have lead : "catch signature doesn't match target: expected " =
          "catch signature doesn't match target: " ++ "expected " := by decide
      exact ⟨⟨_, .inl lead⟩, .inr rfl⟩
  | tableTargets =>
      cases found
      have lead : "br_table labels have inconsistent types: expected " =
          "br_table labels have inconsistent types: " ++ "expected " := by decide
      exact ⟨⟨_, .inl lead⟩, .inr rfl⟩
  | nonNullOperand =>
      cases found
      have lead : "type mismatch in br_on_non_null, expected " =
          "type mismatch in br_on_non_null, " ++ "expected " := by decide
      exact ⟨⟨_, .inl lead⟩, .inl rfl⟩
  | _ => cases found

/-- What a diagnostic compares differs. -/
def Tells : Diagnostic → Prop
  | mismatch _ _ expected actual _ => expected ≠ actual
  | returnResults expected actual => expected ≠ actual
  | catchValues expected actual => expected ≠ actual
  | tableTargets expected actual => expected ≠ actual
  | nonNullOperand expected actual => expected ≠ actual
  | elementMismatch _ expected actual => expected ≠ actual
  | _ => True

theorem Tells.contrast {diagnostic : Diagnostic} (tells : diagnostic.Tells) {contrast : Contrast}
    (found : diagnostic.contrast? = some contrast) : contrast.expected ≠ contrast.actual := by
  cases diagnostic with
  | mismatch =>
      cases found
      exact fun same => tells (ValueType.list_text_injective same).1
  | returnResults | catchValues | tableTargets =>
      cases found
      exact fun same => tells (ValueType.full_text_injective same)
  | nonNullOperand =>
      cases found
      exact fun same => tells (List.cons.inj (ValueType.full_text_injective same)).1
  | elementMismatch =>
      cases found
      exact fun same => tells (ValueType.text_injective same)
  | expectedReference construct actual =>
      cases found
      intro same
      have heads := congrArg (fun text => text.toList.head?) same
      simp [ValueType.fullText, ValueType.listText] at heads
  | _ => cases found

/-- Where a message sets what was found against what was expected, it reads so and the two
texts differ. -/
def ShowsDifference (diagnostic : Diagnostic) : Prop :=
  ∀ contrast, diagnostic.contrast? = some contrast →
    diagnostic.text = contrast.text ∧ contrast.IsWorded ∧ contrast.expected ≠ contrast.actual

theorem Tells.shows {diagnostic : Diagnostic} (tells : diagnostic.Tells) :
    diagnostic.ShowsDifference :=
  fun _ found => ⟨contrast_text found, contrast_is_worded found, tells.contrast found⟩

end Diagnostic

/-! ## Operands that are shown -/

/-- A region is open and its limit is reached by the stack. -/
structure State.Ready (state : State) : Prop where
  opened : state.labels ≠ []
  grounded : state.limit ≤ state.operands.length

theorem State.Ready.of_confined {before after : State} (ready : before.Ready)
    (confined : before.Confined after) : after.Ready := by
  refine ⟨?_, confined.grounded⟩
  have frame := confined.frame
  intro closed
  rw [closed] at frame
  cases opened : before.labels with
  | nil => exact ready.opened opened
  | cons label outer =>
      rw [opened] at frame
      cases frame

theorem ne_drop_of_not_on_top {operands expected : List ValueType}
    (fails : ∀ deeper, operands ≠ deeper ++ expected) (count : Nat) :
    expected ≠ operands.drop count := by
  intro same
  apply fails (operands.take count)
  rw [same, List.take_append_drop]

/-- A message shows others than the expected operands unless these are on top. -/
theorem State.mismatch_tells {state : State} {expected : List ValueType}
    (fails : ∀ deeper, state.region ≠ deeper ++ expected) (place : Place) (construct : String) :
    (state.mismatch place construct expected).Tells :=
  ne_drop_of_not_on_top fails _

/-- Where no operand was expected, some of those that are left are shown. -/
theorem State.remaining_tells {state : State} (remaining : state.region ≠ []) (place : Place)
    (construct : String) : (state.mismatch place construct []).Tells := by
  have some : 0 < state.region.length := List.length_pos_of_ne_nil remaining
  intro same
  have nothing := List.drop_eq_nil_iff.mp same.symm
  simp only [List.isEmpty_nil, if_true, shownWithoutExpectation] at nothing
  omega

section Shown

variable {env : Environment} {state : State} (opened : state.labels ≠ [])

include opened

theorem peek_of_shown {deeper above : List ValueType} {type : ValueType}
    (shown : state.region = deeper ++ type :: above) : state.peek above.length = .ok type := by
  obtain ⟨label, outer, labels⟩ := List.exists_cons_of_ne_nil opened
  have found : (deeper ++ type :: above).reverse[above.length]? = some type := by
    rw [List.reverse_append, List.reverse_cons, List.append_assoc,
      List.getElem?_append_right (by simp)]
    simp
  simp only [State.peek, labels, shown, found]

/-- Operands that are exactly the expected ones pass. -/
theorem signature_verdict_of_shown {deeper signature : List ValueType}
    (shown : state.region = deeper ++ signature) :
    signatureVerdict env state signature = .ok () := by
  induction signature generalizing deeper with
  | nil => rfl
  | cons expected rest ih =>
      have later : state.region = (deeper ++ [expected]) ++ rest := by
        rw [shown, List.append_cons]
      rw [signatureVerdict, Verdict.and_eq_ok_iff, operandVerdict, peek_of_shown opened shown]
      exact ⟨(env.check_type_ok_iff _ _).mpr (env.types.compatible_refl expected), ih later⟩

theorem signature_mismatch_tells {signature : List ValueType} {fault : Fault}
    (failed : signatureVerdict env state signature = .error fault) (place : Place)
    (construct : String) : (state.mismatch place construct signature).Tells := by
  apply State.mismatch_tells
  intro deeper shown
  rw [signature_verdict_of_shown opened shown] at failed
  cases failed

theorem peeks_of_shown {deeper : List ValueType} {third second first : ValueType}
    (shown : state.region = deeper ++ [third, second, first]) :
    state.peek 2 = .ok third ∧ state.peek 1 = .ok second ∧ state.peek 0 = .ok first := by
  have fromSecond : state.region = (deeper ++ [third]) ++ second :: [first] := by simp [shown]
  have fromFirst : state.region = (deeper ++ [third, second]) ++ first :: [] := by simp [shown]
  exact ⟨peek_of_shown opened shown, peek_of_shown opened fromSecond,
    peek_of_shown opened fromFirst⟩

/-- The operands of `select` pass if they are the ones that its message expects. -/
theorem select_verdict_of_shown {deeper : List ValueType} {declared : Option ValueType}
    (shown : state.region = deeper ++ [(selectVerdict env state declared).2,
      (selectVerdict env state declared).2, .i32]) :
    (selectVerdict env state declared).1 = .ok () := by
  cases declared with
  | some type =>
      have passed : signatureVerdict env state [type, type, .i32] = .ok () :=
        signature_verdict_of_shown opened shown
      exact (Check.select_verdict_ok_iff env state type).mpr passed
  | none =>
      obtain ⟨second, first, condition⟩ := peeks_of_shown opened shown
      have self (type : ValueType) : env.checkType type type = .ok () :=
        (env.check_type_ok_iff _ _).mpr (env.types.compatible_refl type)
      have firstSeen : state.peekD 1 = (selectVerdict env state none).2 := by
        rw [State.peekD, first]
      have secondSeen : state.peekD 2 = (selectVerdict env state none).2 := by
        rw [State.peekD, second]
      by_cases references : ((state.peekD 1).isReference || (state.peekD 2).isReference) = true
      · -- the message then expects unknown operands, which are no references
        have unknown : (selectVerdict env state none).2 = .any := by
          simp only [selectVerdict, if_pos references]
        rw [firstSeen, secondSeen, unknown] at references
        cases references
      · have same : state.peekD 1 = state.peekD 2 := firstSeen.trans secondSeen.symm
        have present : operandVerdict env state 0 .i32 = .ok () := by
          rw [operandVerdict, condition]
          exact self .i32
        simp only [selectVerdict, if_neg references, Verdict.and_eq_ok_iff]
        rw [first, second, ← same]
        exact ⟨⟨present, rfl, rfl⟩, self _⟩

theorem select_mismatch_tells {declared : Option ValueType} {fault : Fault}
    (failed : (selectVerdict env state declared).1 = .error fault) :
    (state.mismatch .inside "select" [(selectVerdict env state declared).2,
      (selectVerdict env state declared).2, .i32]).Tells := by
  apply State.mismatch_tells
  intro deeper shown
  rw [select_verdict_of_shown opened shown] at failed
  cases failed

end Shown

/-! ## Questions -/

/-- A question whose complaints show a difference where they compare. -/
def ComplaintsTell {α : Type} (question : Environment → State → Except Complaint α) : Prop :=
  ∀ (env : Environment) (state : State) (complaint : Complaint),
    question env state = .error complaint → complaint.diagnostic.Tells

theorem resolve_complaints_tell (depth : Nat) :
    ComplaintsTell fun _ state => state.resolve depth := by
  intro env state complaint failed
  simp only [State.resolve] at failed
  split at failed
  · cases failed
  · split at failed <;> cases failed <;> trivial

theorem outermost_complaints_tell : ComplaintsTell fun _ state => state.outermost := by
  intro env state complaint failed
  simp only [State.outermost] at failed
  split at failed <;> cases failed
  trivial

theorem type_complaints_tell (index : Nat) :
    ComplaintsTell fun env _ =>
      match env.types.get? index with
      | some type => .ok type
      | none => .error (.invalidIndex .type index) := by
  intro env state complaint failed
  dsimp only at failed
  split at failed <;> cases failed
  trivial

theorem rethrow_complaints_tell (depth : Nat) :
    ComplaintsTell fun _ state => state.checkRethrow depth := by
  intro env state complaint failed
  simp only [State.checkRethrow] at failed
  split at failed
  · cases failed
    exact resolve_complaints_tell depth env state complaint ‹_›
  · split at failed
    · cases failed
    · split at failed <;> cases failed <;> trivial

theorem reference_complaints_tell (construct : String) :
    ComplaintsTell fun _ state => state.checkReference construct := by
  intro env state complaint failed
  simp only [State.checkReference] at failed
  split at failed
  · cases failed
    trivial
  · split at failed <;> cases failed
    trivial

/-- Targets that do not agree are not the same. -/
theorem table_complaints_tell (types : List ValueType) :
    ComplaintsTell fun env state => checkTableTypes env state types := by
  intro env state complaint failed
  simp only [checkTableTypes] at failed
  split at failed
  · cases failed
  · split at failed
    · cases failed
    · rename_i first kept disagree
      cases failed
      intro same
      rw [same] at disagree
      exact disagree (Check.table_targets_agree_self env.features types)

/-- Values that do not fit a label are not the ones it is branched to with. -/
theorem catch_complaints_tell (values : List ValueType) (depth : Nat) :
    ComplaintsTell fun env state => checkCatchValues env state values depth := by
  intro env state complaint failed
  simp only [checkCatchValues] at failed
  split at failed
  · cases failed
    exact resolve_complaints_tell depth env state complaint ‹_›
  · split at failed
    · cases failed
    · rename_i label resolved misfit
      cases failed
      intro same
      rw [same] at misfit
      exact misfit (env.types.all_compatible_refl values)

/-- Results that do not fit those of the body are not the same. -/
theorem tail_complaints_tell (label : Label) (results : List ValueType) :
    ComplaintsTell fun env _ => checkTailResults env label results := by
  intro env state complaint failed
  simp only [checkTailResults] at failed
  split at failed
  · cases failed
  · rename_i misfit
    cases failed
    intro same
    rw [same] at misfit
    exact misfit (env.types.all_compatible_refl results)

/-! ## Checks in an open region -/

/-- All diagnostics of an outcome show a difference where they compare. -/
def Outcome.Tells {α : Type} (outcome : Outcome α) : Prop :=
  ∀ diagnostic ∈ outcome.diagnostics, diagnostic.Tells

namespace Outcome.Tells

variable {α β γ : Type}

theorem silent {outcome : Outcome α} (nothing : outcome.diagnostics = []) : outcome.Tells := by
  rw [Tells, nothing]
  exact List.forall_mem_nil _

theorem joined {before : Outcome α} {after : Outcome β} {result : Except Fault γ} {state : State}
    (first : before.Tells) (second : after.Tells) :
    (Outcome.mk result state (before.events ++ after.events)).Tells := by
  unfold Tells diagnostics at first second ⊢
  rw [List.filterMap_append, List.forall_mem_append]
  exact ⟨first, second⟩

variable {env : Environment} {state : State}

theorem ask {question : Environment → State → Except Complaint α}
    (tells : ∀ complaint, question env state = .error complaint → complaint.diagnostic.Tells) :
    (Check.ask question env state).Tells := by
  rcases answer : question env state with complaint | value
  · intro diagnostic member
    simp [Check.ask, answer, diagnostics, Event.diagnostic?] at member
    rw [member]
    exact tells complaint answer
  · exact silent (by simp [Check.ask, answer, diagnostics])

theorem complain {complaint : Complaint} (tells : complaint.diagnostic.Tells) :
    (Check.complain complaint env state).Tells := by
  refine ask fun said failed => ?_
  cases failed
  exact tells

theorem explain {verdict : Verdict} {diagnostic : State → Diagnostic}
    (tells : ∀ fault, verdict = .error fault → (diagnostic state).Tells) :
    (Check.explain verdict diagnostic env state).Tells := by
  cases verdict with
  | ok _ => exact silent rfl
  | error fault =>
      intro said member
      cases List.mem_singleton.mp member
      exact tells fault rfl

end Outcome.Tells

namespace Check

variable {α β : Type}

/-- A check whose messages in an open region show a difference where they compare. -/
def Tells (check : Check α) : Prop :=
  ∀ (env : Environment) (state : State), state.Ready → (check env state).Tells

theorem Edits.ready {check : Check α} (edits : check.Edits) {env : Environment} {state : State}
    (ready : state.Ready) : (check env state).state.Ready :=
  ready.of_confined ((edits env state).confined ready.grounded)

namespace Tells

theorem observe (view : Environment → State → α) : (Check.observe view).Tells :=
  fun _ _ _ => .silent rfl

theorem modify (change : State → State) : (Check.modify change).Tells :=
  fun _ _ _ => .silent rfl

theorem settle (verdict : Verdict) : (Check.settle verdict).Tells :=
  fun _ _ _ => .silent rfl

theorem ask {question : Environment → State → Except Complaint α}
    (tells : ComplaintsTell question) : (Check.ask question).Tells :=
  fun env state _ => .ask (tells env state)

theorem ensure {holds : Bool} {complaint : Complaint} (tells : complaint.diagnostic.Tells) :
    (Check.ensure holds complaint).Tells := by
  apply ask
  intro env state said failed
  split at failed
  · cases failed
  · cases failed
    exact tells

theorem bind {check : Check α} {next : α → Check β} (first : check.Tells)
    (edits : check.Edits) (rest : ∀ value, (next value).Tells) : (check >>= next).Tells := by
  intro env state ready
  have before := first env state ready
  rcases result : (check env state).result with fault | value
  · rw [bind_apply_error result]
    exact before
  · rw [bind_apply_ok result]
    exact .joined before (rest value env _ (edits.ready ready))

theorem ask_bind {question : Environment → State → Except Complaint α} {next : α → Check β}
    (tells : ComplaintsTell question) (rest : ∀ value, (next value).Tells) :
    (Check.ask question >>= next).Tells :=
  bind (ask tells) (Edits.ask question) rest

theorem also {first second : Check Unit} (left : first.Tells) (edits : first.Edits)
    (right : second.Tells) : (first.also second).Tells :=
  fun env state ready => .joined (left env state ready) (right env _ (edits.ready ready))

theorem all {checks : List (Check Unit)}
    (each : ∀ check ∈ checks, check.Tells ∧ check.Edits) : (Check.all checks).Tells := by
  induction checks with
  | nil => exact fun _ _ _ => .silent rfl
  | cons check rest ih =>
      obtain ⟨⟨tells, edits⟩, later⟩ := List.forall_mem_cons.mp each
      rw [all_cons]
      exact also tells edits (ih later)

theorem attempt {check : Check Unit} (tells : check.Tells) : (Check.attempt check).Tells :=
  tells

/-- A verdict on the present state is explained by what that state shows. -/
theorem judge {view : Environment → State → Verdict} {diagnostic : State → Diagnostic}
    (tells : ∀ env state fault, state.Ready → view env state = .error fault →
      (diagnostic state).Tells) :
    (Check.observe view >>= fun verdict => Check.explain verdict diagnostic).Tells := by
  intro env state ready
  rw [observe_bind_apply]
  exact .explain fun fault failed => tells env state fault ready failed

/-! ## Operands -/

theorem check_signature (signature : List ValueType) (construct : String) :
    (Check.checkSignature signature construct).Tells :=
  judge fun _ _ _ ready failed => signature_mismatch_tells ready.opened failed _ _

theorem drop_types (count : Nat) : (Check.dropTypes count).Tells := by
  intro env state ready
  obtain ⟨label, outer, labels⟩ := List.exists_cons_of_ne_nil ready.opened
  rw [drop_types_of_open labels]
  exact .silent rfl

theorem pop_signature (signature : List ValueType) (construct : String) :
    (Check.popSignature signature construct).Tells :=
  also (check_signature _ _) (.check_signature _ _) (drop_types _)

theorem pop_signatures (signatures : List (List ValueType)) (construct : String) :
    (Check.popSignatures signatures construct).Tells := by
  apply all
  intro check member
  obtain ⟨signature, _, rfl⟩ := List.mem_map.mp member
  exact ⟨pop_signature _ _, .pop_signature _ _⟩

theorem check_region_empty (construct : String) : (Check.checkRegionEmpty construct).Tells := by
  refine ask_bind (resolve_complaints_tell 0) fun label => judge ?_
  intro env state fault ready failed
  apply State.remaining_tells
  unfold emptyVerdict at failed
  split at failed
  · cases failed
  · rename_i uneven
    have grounded := ready.grounded
    rw [State.region, ne_eq, List.drop_eq_nil_iff]
    omega

theorem pop_reference_bind {construct : String} {next : ValueType × Verdict → Check Unit}
    (rest : ∀ popped, (next popped).Tells) : (Check.popReference construct >>= next).Tells := by
  refine bind ?_ (Edits.pop_reference construct) rest
  refine bind (observe _) (.observe _) fun type => ?_
  have checks : ((Check.ask fun _ state => state.checkReference construct).also
      (Check.dropTypes 1)).Tells :=
    also (ask (reference_complaints_tell construct)) (.ask _) (drop_types 1)
  have edits : ((Check.ask fun _ state => state.checkReference construct).also
      (Check.dropTypes 1)).Edits := .also (.ask _) (.drop_types 1)
  exact bind (attempt checks) edits.attempt fun _ _ _ _ => .silent rfl

/-- Where nothing can be dropped nothing is left to show. -/
theorem drop : Check.drop.Tells := by
  intro env state ready
  obtain ⟨label, outer, labels⟩ := List.exists_cons_of_ne_nil ready.opened
  rw [Check.drop, attempt_bind_apply, drop_types_of_open labels]
  have silent : (Outcome.mk (discardVerdict state 1) (state.discard 1) []).Tells := .silent rfl
  refine .joined silent (.explain fun fault failed => State.mismatch_tells ?_ _ _)
  intro deeper shown
  have short : state.region.length < 1 := by
    by_contra enough
    simp [discardVerdict, enough] at failed
  have lengths := congrArg List.length shown
  have limit : (state.discard 1).limit = state.limit := rfl
  rw [State.region, limit] at lengths
  simp only [State.region, State.discard, List.length_drop, List.length_take,
    List.length_append, List.length_singleton] at short lengths
  omega

theorem select (declared : Option ValueType) : (Check.select declared).Tells := by
  intro env state ready
  rw [Check.select, observe_bind_apply]
  dsimp only
  rw [all_cons]
  refine .joined (.explain fun fault failed => select_mismatch_tells ready.opened failed) ?_
  refine all ?_ env state ready
  simp only [List.forall_mem_cons]
  exact ⟨⟨drop_types _, .drop_types _⟩, ⟨modify _, .push_types _⟩, List.forall_mem_nil _⟩

theorem push_types (types : List ValueType) : (Check.pushTypes types).Tells :=
  modify _

theorem check_non_null (actual expected : ValueType) :
    (Check.checkNonNull actual expected).Tells := by
  refine judge fun env state fault _ failed => ?_
  intro same
  have fits : env.checkType actual expected = .ok () := by
    rw [same]
    exact (env.check_type_ok_iff _ _).mpr (env.types.compatible_refl actual)
  rw [fits] at failed
  cases failed

theorem effect (effect : Effect) : effect.check.Tells :=
  also (pop_signatures _ _) (.pop_signatures _ _) (push_types _)

/-! ## Regions -/

theorem set_unreachable : Check.setUnreachable.Tells :=
  ask_bind (resolve_complaints_tell 0) fun _ _ _ _ => .silent rfl

theorem leave_with (results : List ValueType) : (Check.leaveWith results).Tells :=
  ask_bind outermost_complaints_tell fun label =>
    also (ask (tail_complaints_tell label results)) (.ask _) set_unreachable

theorem tail_call (construct : String) (pops : List (List ValueType)) (results : List ValueType) :
    (Check.tailCall construct pops results).Tells :=
  also (pop_signatures _ _) (.pop_signatures _ _) (leave_with results)

theorem require_kind (rule : LabelRule) (label : Label) : (Check.requireKind rule label).Tells :=
  ensure trivial

theorem check_lane (count lane : Nat) (fault : Fault) : (Check.checkLane count lane fault).Tells :=
  ensure trivial

theorem check_results (label : Label) (construct last : String) :
    (Check.checkResults label construct last).Tells :=
  also (pop_signature _ _) (.pop_signature _ _) (check_region_empty last)

theorem leave_region (label : Label) (construct last : String) :
    (Check.leaveRegion label construct last).Tells :=
  also (check_results _ _ _) (.check_results _ _ _)
    fun env state _ => .silent ((Candid.close_label env state).silent rfl)

theorem close_under (rule : LabelRule) (construct last : String) :
    (Check.closeUnder rule construct last).Tells :=
  ask_bind (resolve_complaints_tell 0) fun label =>
    also (require_kind rule label) (.ask _) (leave_region label construct last)

theorem next_arm (rule : LabelRule) (label : Label) (construct : String) (kind : LabelKind)
    (types : List ValueType) : (Check.nextArm rule label construct kind types).Tells :=
  also (require_kind rule label) (.ask _)
    (also (check_results _ _ _) (.check_results _ _ _) fun _ _ _ => .silent rfl)

theorem else_arm : Check.elseArm.Tells :=
  ask_bind (resolve_complaints_tell 0) fun _ => next_arm _ _ _ _ _

theorem end_region : Check.endRegion.Tells := by
  refine ask_bind (resolve_complaints_tell 0) fun label => ?_
  split
  · intro env state ready
    have next := ready.of_confined (else_arm_confined env state ready.grounded)
    exact .joined (else_arm env state ready) (leave_region _ _ _ env _ next)
  · exact leave_region _ _ _

end Tells

end Check

/-- In an open region every step shows a difference where it compares. -/
theorem Operation.run_tells (operation : Operation) : operation.run.Tells := by
  cases operation with
  | beginFunction | beginInitExpr | finishTryTable => exact fun _ _ _ => .silent rfl
  | endFunction | endInitExpr => exact .close_under _ _ _
  | enter opening params results =>
      exact .also (.pop_signatures _ _) (.pop_signatures _ _) fun _ _ _ => .silent rfl
  | elseArm => exact .else_arm
  | endBlock => exact .end_region
  | catchArm values => exact .ask_bind (resolve_complaints_tell 0) fun _ => .next_arm _ _ _ _ _
  | delegate depth => exact .ask_bind (resolve_complaints_tell _) fun _ => .close_under _ _ _
  | rethrow depth => exact .ask_bind (rethrow_complaints_tell depth) fun _ => .set_unreachable
  | throwTag | throwRef => exact .also (.pop_signature _ _) (.pop_signature _ _) .set_unreachable
  | beginTryTable params => exact .pop_signature _ _
  | tryTableCatch values depth => exact .ask (catch_complaints_tell values depth)
  | br depth =>
      exact .ask_bind (resolve_complaints_tell depth) fun _ =>
        .also (.check_signature _ _) (.check_signature _ _) .set_unreachable
  | brIf depth =>
      refine .bind (.attempt (.pop_signature _ _)) (.attempt (.pop_signature _ _)) ?_
      intro condition
      refine .ask_bind (resolve_complaints_tell depth) fun label => .all ?_
      simp only [List.forall_mem_cons]
      exact ⟨⟨.settle _, .settle _⟩, ⟨.pop_signature _ _, .pop_signature _ _⟩,
        ⟨.push_types _, .push_types _⟩, nofun⟩
  | beginBrTable => exact .also (.modify _) (.keep_table _) (.pop_signature _ _)
  | brTableTarget depth =>
      refine .ask_bind (resolve_complaints_tell depth) fun label => .all ?_
      simp only [List.forall_mem_cons]
      exact ⟨⟨.check_signature _ _, .check_signature _ _⟩,
        ⟨.ask (table_complaints_tell label.branchTypes), .ask _⟩,
        ⟨.modify _, .keep_table _⟩, nofun⟩
  | endBrTable => exact .also (.modify _) (.keep_table _) .set_unreachable
  | brOnNull depth =>
      refine .pop_reference_bind fun popped => ?_
      refine .ask_bind (resolve_complaints_tell depth) fun label => .all ?_
      simp only [List.forall_mem_cons]
      exact ⟨⟨.settle _, .settle _⟩, ⟨.check_signature _ _, .check_signature _ _⟩,
        ⟨.push_types _, .push_types _⟩, nofun⟩
  | brOnNonNull depth =>
      refine .pop_reference_bind fun popped => ?_
      refine .ask_bind (resolve_complaints_tell depth) fun label => ?_
      split
      · exact .also (.settle _) (.settle _) fun _ _ _ => .complain trivial
      · apply Check.Tells.all
        simp only [List.forall_mem_cons]
        exact ⟨⟨.settle _, .settle _⟩,
          ⟨.check_non_null _ _, .bind (.observe _) fun _ => .explain _ _⟩,
          ⟨.check_signature _ _, .check_signature _ _⟩, nofun⟩
  | callRef index => exact .ask_bind (type_complaints_tell index) fun type => .effect _
  | returnValues =>
      exact .ask_bind outermost_complaints_tell fun label =>
        .also (.pop_signature _ _) (.pop_signature _ _) .set_unreachable
  | returnCall | returnCallIndirect => exact .tail_call _ _ _
  | returnCallRef index => exact .ask_bind (type_complaints_tell index) fun type => .tail_call _ _ _
  | plain instruction => exact .effect _
  | lane | laneAccess => exact .also (.check_lane _ _ _) (.check_lane _ _ _) (.effect _)
  | shuffle op lanes =>
      have checked : ∀ check ∈ lanes.map (Check.checkLane shuffleLaneCount ·
          .shuffleLaneOutOfRange), check.Tells ∧ check.Edits := by
        intro check member
        obtain ⟨lane, _, rfl⟩ := List.mem_map.mp member
        exact ⟨.check_lane _ _ _, .check_lane _ _ _⟩
      exact .also (.all checked) (.all fun check member => (checked check member).2) (.effect _)
  | drop => exact .drop
  | select declared => exact .select declared
  | unreachable => exact .set_unreachable
  | refIsNull | refAsNonNull =>
      exact .pop_reference_bind fun popped => .also (.settle _) (.settle _) (.push_types _)
  | checkType | checkTypes => exact fun _ _ _ => .silent rfl
  | dropTypes count => exact .drop_types count

end WasmTyping
