import Mathlib.Data.List.Forall2
import WasmTyping.Proofs.AcceptedRuns

/-!
# Relaxed states

One state relaxes another if it accepts whatever the other one accepts. All that the
checker sees of a state are the shapes of its labels, the operands of the innermost
region, whether that region is empty, and the kept targets of a table. If a relation
between states respects these and survives the changes a step can make, then every
operation that succeeds in a state succeeds in each state related to it, and the two
outcomes are related again. The environments may differ in the same direction.
-/

set_option autoImplicit false

namespace WasmTyping

/-- A label without its place in the operand stack. -/
def Label.shape (label : Label) : Label :=
  { label with limit := 0, unreachable := false }

namespace Label

variable {label other : Label}

theorem eq_of_shape (same : other.shape = label.shape) :
    other.kind = label.kind ∧ other.params = label.params ∧ other.results = label.results := by
  simpa [shape] using same

theorem branch_types_of_shape (same : other.shape = label.shape) :
    other.branchTypes = label.branchTypes := by
  obtain ⟨kind, params, results⟩ := eq_of_shape same
  rw [branchTypes, branchTypes, kind, params, results]

end Label

/-- A way in which states and the types in them can be relaxed from one environment to
another. -/
structure Relaxation (env other : Environment) where
  related : State → State → Prop
  /-- The second type may be found where the first one was. -/
  stands : ValueType → ValueType → Prop
  stands_self (type : ValueType) : stands type type
  stands_non_null {type found : ValueType} (stand : stands type found) :
    stands type.asNonNull found.asNonNull
  stands_compatible {type found expected : ValueType} (stand : stands type found)
    (fits : env.types.compatible type expected = true) :
    other.types.compatible found expected = true
  stands_reference {type found : ValueType} (stand : stands type found)
    (allowed : (type = .any || type.isReference) = true) :
    (found = .any || found.isReference) = true
  /-- The operands of a `select` without a declared type. -/
  stands_selected {first second first' second' : ValueType} (left : stands first first')
    (right : stands second second')
    (known : (first.isReference || second.isReference) = false)
    (fits : env.types.compatible first second = true) :
    (first'.isReference || second'.isReference) = false ∧
      other.types.compatible first' second' = true
  all_compatible {actuals expecteds : List ValueType}
    (fits : env.types.allCompatible actuals expecteds = true) :
    other.types.allCompatible actuals expecteds = true
  get_type {index : Nat} {type : FuncType} (found : env.types.get? index = some type) :
    other.types.get? index = some type
  targets_agree {first next : List ValueType}
    (agree : tableTargetsAgree env.features first next = true) :
    tableTargetsAgree other.features first next = true
  start : related .empty .empty
  shapes {state relaxed : State} (relation : related state relaxed) :
    relaxed.labels.map Label.shape = state.labels.map Label.shape
  table_types {state relaxed : State} (relation : related state relaxed) :
    relaxed.tableTypes = state.tableTypes
  peek {state relaxed : State} {depth : Nat} {type : ValueType}
    (relation : related state relaxed) (seen : state.peek depth = .ok type) :
    ∃ found, relaxed.peek depth = .ok found ∧ stands type found
  empty_region {state relaxed : State} (relation : related state relaxed)
    (opened : state.labels ≠ []) (empty : emptyVerdict state = .ok ()) :
    emptyVerdict relaxed = .ok ()
  push {state relaxed : State} {types found : List ValueType}
    (relation : related state relaxed) (stand : List.Forall₂ stands types found) :
    related (state.push types) (relaxed.push found)
  remove {state relaxed : State} (relation : related state relaxed) (count : Nat) :
    related (state.remove count) (relaxed.remove count)
  keep_table {state relaxed : State} (relation : related state relaxed)
    (types : Option (List ValueType)) :
    related { state with tableTypes := types } { relaxed with tableTypes := types }
  mark_unreachable {state relaxed : State} (relation : related state relaxed) :
    related state.markUnreachable relaxed.markUnreachable
  enter {state relaxed : State} (relation : related state relaxed) (kind : LabelKind)
    (params results : List ValueType) :
    related (state.enter kind params results) (relaxed.enter kind params results)
  begin_arm {state relaxed : State} (relation : related state relaxed) (kind : LabelKind)
    (types : List ValueType) : related (state.beginArm kind types) (relaxed.beginArm kind types)
  leave {state relaxed : State} (relation : related state relaxed) :
    related state.leave relaxed.leave

theorem granted_iff {ε : Type} {holds : Prop} [Decidable holds] {refusal : ε} :
    (if holds then Except.ok () else Except.error refusal) = Except.ok () ↔ holds := by
  split <;> simp_all

namespace Relaxation

variable {env other : Environment} (relaxation : Relaxation env other)

/-- Where the first check succeeds, the second one succeeds in every related state and
leads to a related state. -/
def Carries (first second : Check Unit) : Prop :=
  ∀ state relaxed, relaxation.related state relaxed → (first env state).result = .ok () →
    (second other relaxed).result = .ok () ∧
      relaxation.related (first env state).state (second other relaxed).state

variable {relaxation}

/-! ## What related states have in common -/

section Related

variable {state relaxed : State} (relation : relaxation.related state relaxed)

include relation

theorem labels_length : relaxed.labels.length = state.labels.length := by
  have shapes := congrArg List.length (relaxation.shapes relation)
  simpa using shapes

theorem labels_nil_iff : relaxed.labels = [] ↔ state.labels = [] := by
  rw [← List.length_eq_zero_iff, labels_length relation, List.length_eq_zero_iff]

theorem resolve {depth : Nat} {label : Label} (found : state.resolve depth = .ok label) :
    ∃ label', relaxed.resolve depth = .ok label' ∧ label'.shape = label.shape := by
  have shapes := congrArg (fun labels => labels[depth]?) (relaxation.shapes relation)
  rw [State.resolve_eq_ok_iff] at found
  simp only [List.getElem?_map, found, Option.map_some, Option.map_eq_some_iff] at shapes
  obtain ⟨label', found', same⟩ := shapes
  exact ⟨label', (State.resolve_eq_ok_iff _ _ _).mpr found', same⟩

theorem outermost {label : Label} (found : state.outermost = .ok label) :
    ∃ label', relaxed.outermost = .ok label' ∧ label'.shape = label.shape := by
  have shapes := congrArg List.getLast? (relaxation.shapes relation)
  rw [State.outermost_eq_ok_iff] at found
  simp only [List.getLast?_map, found, Option.map_some, Option.map_eq_some_iff] at shapes
  obtain ⟨label', found', same⟩ := shapes
  exact ⟨label', (State.outermost_eq_ok_iff _ _).mpr found', same⟩

theorem operand_verdict {depth : Nat} {expected : ValueType}
    (passed : operandVerdict env state depth expected = .ok ()) :
    operandVerdict other relaxed depth expected = .ok () := by
  unfold operandVerdict at passed ⊢
  cases seen : state.peek depth with
  | error fault => simp [seen] at passed
  | ok type =>
      obtain ⟨found, seen', stand⟩ := relaxation.peek relation seen
      rw [seen, Environment.check_type_ok_iff] at passed
      rw [seen', Environment.check_type_ok_iff]
      exact relaxation.stands_compatible stand passed

theorem signature_verdict {signature : List ValueType}
    (passed : signatureVerdict env state signature = .ok ()) :
    signatureVerdict other relaxed signature = .ok () := by
  induction signature with
  | nil => rfl
  | cons expected rest ih =>
      rw [signatureVerdict, Verdict.and_eq_ok_iff] at passed ⊢
      exact ⟨operand_verdict relation passed.1, ih passed.2⟩

theorem operand {depth : Nat} (seen : Verdict.of (state.peek depth) = .ok ()) :
    Verdict.of (relaxed.peek depth) = .ok () ∧
      relaxation.stands (state.peekD depth) (relaxed.peekD depth) := by
  unfold State.peekD
  cases found : state.peek depth with
  | error fault => simp [found, Verdict.of] at seen
  | ok type =>
      obtain ⟨type', found', stand⟩ := relaxation.peek relation found
      rw [found']
      exact ⟨rfl, stand⟩

theorem select_verdict {declared : Option ValueType}
    (passed : (selectVerdict env state declared).1 = .ok ()) :
    (selectVerdict other relaxed declared).1 = .ok () ∧
      relaxation.stands (selectVerdict env state declared).2
        (selectVerdict other relaxed declared).2 := by
  cases declared with
  | some type =>
      simp only [selectVerdict, Verdict.and_eq_ok_iff, Environment.check_type_ok_iff] at passed ⊢
      obtain ⟨⟨condition, firstSeen, secondSeen⟩, firstFits, secondFits⟩ := passed
      obtain ⟨firstFound, firstStands⟩ := operand relation firstSeen
      obtain ⟨secondFound, secondStands⟩ := operand relation secondSeen
      exact ⟨⟨⟨operand_verdict relation condition, firstFound, secondFound⟩,
        relaxation.stands_compatible firstStands firstFits,
        relaxation.stands_compatible secondStands secondFits⟩, relaxation.stands_self type⟩
  | none =>
      cases known : (state.peekD 1).isReference || (state.peekD 2).isReference with
      | true => simp [selectVerdict, known, Verdict.and_eq_ok_iff] at passed
      | false =>
          simp only [selectVerdict, known, Bool.false_eq_true, if_false, Verdict.and_eq_ok_iff,
            Environment.check_type_ok_iff] at passed ⊢
          obtain ⟨⟨condition, firstSeen, secondSeen⟩, fits⟩ := passed
          obtain ⟨firstFound, firstStands⟩ := operand relation firstSeen
          obtain ⟨secondFound, secondStands⟩ := operand relation secondSeen
          obtain ⟨known', fits'⟩ :=
            relaxation.stands_selected firstStands secondStands known fits
          simp only [known', Bool.false_eq_true, if_false, Verdict.and_eq_ok_iff,
            Environment.check_type_ok_iff]
          exact ⟨⟨⟨operand_verdict relation condition, firstFound, secondFound⟩, fits'⟩,
            firstStands⟩

theorem discard_verdict {count : Nat} (opened : state.labels ≠ [])
    (passed : discardVerdict state count = .ok ()) : discardVerdict relaxed count = .ok () := by
  cases count with
  | zero => simp [discardVerdict]
  | succ depth =>
      rw [State.discard_verdict_succ opened] at passed
      rw [State.discard_verdict_succ (mt (labels_nil_iff relation).mp opened)]
      exact (operand relation passed).1

theorem rethrow {depth : Nat} (passed : state.checkRethrow depth = .ok ()) :
    relaxed.checkRethrow depth = .ok () := by
  unfold State.checkRethrow at passed ⊢
  cases found : state.resolve depth with
  | error complaint => simp [found] at passed
  | ok label =>
      obtain ⟨label', found', same⟩ := resolve relation found
      have kind : label.kind = .catchArm := by
        simp only [found] at passed
        split at passed
        · assumption
        · split at passed <;> cases passed
      rw [found']
      simp only [(Label.eq_of_shape same).1, kind, if_true]

theorem catch_values {values : List ValueType} {depth : Nat}
    (passed : checkCatchValues env state values depth = .ok ()) :
    checkCatchValues other relaxed values depth = .ok () := by
  unfold checkCatchValues at passed ⊢
  cases found : state.resolve depth with
  | error complaint => simp [found] at passed
  | ok label =>
      obtain ⟨label', found', same⟩ := resolve relation found
      simp only [found, granted_iff] at passed
      simp only [found', granted_iff, Label.branch_types_of_shape same]
      exact relaxation.all_compatible passed

theorem check_table_types {types : List ValueType}
    (passed : checkTableTypes env state types = .ok ()) :
    checkTableTypes other relaxed types = .ok () := by
  unfold checkTableTypes at passed ⊢
  rw [relaxation.table_types relation]
  cases kept : state.tableTypes with
  | none => rfl
  | some first =>
      simp only [kept, granted_iff] at passed ⊢
      exact relaxation.targets_agree passed

end Related

/-! ## Ways of going on -/

namespace Carries

variable {α : Type}

theorem also {first second first' second' : Check Unit} (left : relaxation.Carries first first')
    (right : relaxation.Carries second second') :
    relaxation.Carries (first.also second) (first'.also second') := by
  intro state relaxed relation succeeded
  rw [Check.also_result, Verdict.and_eq_ok_iff] at succeeded
  obtain ⟨before, between⟩ := left state relaxed relation succeeded.1
  obtain ⟨after, reached⟩ := right _ _ between succeeded.2
  rw [Check.also_result, before, after]
  exact ⟨rfl, reached⟩

theorem nothing : relaxation.Carries (Check.all []) (Check.all []) :=
  fun _ _ relation _ => ⟨rfl, relation⟩

theorem all_map {items : List α} {each each' : α → Check Unit}
    (carries : ∀ item, relaxation.Carries (each item) (each' item)) :
    relaxation.Carries (Check.all (items.map each)) (Check.all (items.map each')) := by
  induction items with
  | nil => exact nothing
  | cons item rest ih => exact also (carries item) ih

theorem act {change change' : State → State} {log log' : State → List Event}
    (kept : ∀ state relaxed, relaxation.related state relaxed →
      relaxation.related (change state) (change' relaxed)) :
    relaxation.Carries (Check.act change log) (Check.act change' log') :=
  fun state relaxed relation _ => ⟨rfl, kept state relaxed relation⟩

theorem ask {question question' : Environment → State → Except Complaint Unit}
    (answered : ∀ state relaxed, relaxation.related state relaxed →
      question env state = .ok () → question' other relaxed = .ok ()) :
    relaxation.Carries (Check.ask question) (Check.ask question') := by
  intro state relaxed relation succeeded
  have answer := Check.ask_result_ok_iff.mp succeeded
  exact ⟨Check.ask_result_ok_iff.mpr (answered state relaxed relation answer), relation⟩

theorem ask_bind {question : Environment → State → Except Complaint α} {fits : α → α → Prop}
    {next next' : α → Check Unit}
    (answered : ∀ state relaxed value, relaxation.related state relaxed →
      question env state = .ok value →
        ∃ value', question other relaxed = .ok value' ∧ fits value value')
    (rest : ∀ value value', fits value value' → relaxation.Carries (next value) (next' value')) :
    relaxation.Carries (Check.ask question >>= next) (Check.ask question >>= next') := by
  intro state relaxed relation succeeded
  cases answer : question env state with
  | error complaint =>
      rw [Check.ask_bind_of_error answer] at succeeded
      cases succeeded
  | ok value =>
      obtain ⟨value', answer', fit⟩ := answered state relaxed value relation answer
      rw [Check.ask_bind_of_ok answer] at succeeded ⊢
      rw [Check.ask_bind_of_ok answer']
      exact rest value value' fit state relaxed relation succeeded

theorem resolve_bind {depth : Nat} {next next' : Label → Check Unit}
    (rest : ∀ label label', label'.shape = label.shape →
      relaxation.Carries (next label) (next' label')) :
    relaxation.Carries (Check.resolve depth >>= next) (Check.resolve depth >>= next') :=
  ask_bind (fun _ _ _ relation found => Relaxation.resolve relation found) rest

theorem outermost_bind {next next' : Label → Check Unit}
    (rest : ∀ label label', label'.shape = label.shape →
      relaxation.Carries (next label) (next' label')) :
    relaxation.Carries (Check.outermost >>= next) (Check.outermost >>= next') :=
  ask_bind (fun _ _ _ relation found => Relaxation.outermost relation found) rest

theorem attempt_bind {check check' : Check Unit} {next next' : Verdict → Check Unit}
    (first : relaxation.Carries check check')
    (kept : relaxation.Carries (next (.ok ())) (next' (.ok ())))
    (fatal : ∀ fault, (next (.error fault)).Fatal) :
    relaxation.Carries (Check.attempt check >>= next) (Check.attempt check' >>= next') := by
  intro state relaxed relation succeeded
  rw [Check.attempt_bind_apply] at succeeded ⊢
  rw [Check.attempt_bind_apply]
  dsimp only at succeeded ⊢
  cases result : (check env state).result with
  | error fault =>
      -- a fault that is noted fails the whole check, which succeeded
      obtain ⟨later, failed⟩ := fatal fault env (check env state).state
      rw [result, failed] at succeeded
      cases succeeded
  | ok _ =>
      obtain ⟨passed, reached⟩ := first state relaxed relation result
      rw [result] at succeeded
      rw [passed]
      exact kept _ _ reached succeeded

theorem settled : relaxation.Carries (Check.settle (.ok ())) (Check.settle (.ok ())) :=
  fun _ _ relation _ => ⟨rfl, relation⟩

theorem observed {view : Environment → State → Verdict}
    (kept : ∀ state relaxed, relaxation.related state relaxed → view env state = .ok () →
      view other relaxed = .ok ()) :
    relaxation.Carries (Check.observe view >>= Check.settle)
      (Check.observe view >>= Check.settle) := by
  intro state relaxed relation passed
  rw [Check.observe_bind_apply] at passed ⊢
  rw [Check.observe_bind_apply]
  exact ⟨kept state relaxed relation passed, relation⟩

theorem resolve_type_bind {index : Nat} {next : FuncType → Check Unit}
    (rest : ∀ type, relaxation.Carries (next type) (next type)) :
    relaxation.Carries (Check.resolveType index >>= next) (Check.resolveType index >>= next) := by
  refine ask_bind ?_ fun type type' (same : type' = type) => same ▸ rest type
  intro state relaxed type relation found
  cases registered : env.types.get? index with
  | none => simp [registered] at found
  | some type' =>
      simp only [registered, Except.ok.injEq] at found
      rw [relaxation.get_type registered, found]
      exact ⟨type, rfl, rfl⟩

/-! ## Operands -/

theorem check_signature (signature : List ValueType) (construct : String) :
    relaxation.Carries (.checkSignature signature construct)
      (.checkSignature signature construct) := by
  intro state relaxed relation passed
  rw [Check.check_signature_result] at passed
  rw [Check.check_signature_result, Check.check_signature_state, Check.check_signature_state]
  exact ⟨signature_verdict relation passed, relation⟩

theorem drop_types (count : Nat) :
    relaxation.Carries (.dropTypes count) (.dropTypes count) := by
  intro state relaxed relation passed
  rw [Check.drop_types_state, Check.drop_types_state]
  refine ⟨?_, relaxation.remove relation count⟩
  rcases labels : state.labels with _ | ⟨label, outer⟩
  · rw [Check.drop_types_of_closed labels] at passed
    cases passed
  · have opened : state.labels ≠ [] := by simp [labels]
    obtain ⟨label', outer', labels'⟩ :=
      List.exists_cons_of_ne_nil (mt (labels_nil_iff relation).mp opened)
    rw [Check.drop_types_of_open labels] at passed
    rw [Check.drop_types_of_open labels']
    exact discard_verdict relation opened passed

theorem pop_signature (signature : List ValueType) (construct : String) :
    relaxation.Carries (.popSignature signature construct)
      (.popSignature signature construct) :=
  also (check_signature signature construct) (drop_types signature.length)

theorem pop_signatures (signatures : List (List ValueType)) (construct : String) :
    relaxation.Carries (.popSignatures signatures construct)
      (.popSignatures signatures construct) :=
  all_map fun signature => pop_signature signature construct

theorem push_types (types : List ValueType) :
    relaxation.Carries (.pushTypes types) (.pushTypes types) :=
  act fun _ _ relation =>
    relaxation.push relation (List.forall₂_same.mpr fun type _ => relaxation.stands_self type)

theorem push_one {type found : ValueType} (stand : relaxation.stands type found) :
    relaxation.Carries (.pushTypes [type]) (.pushTypes [found]) :=
  act fun _ _ relation => relaxation.push relation (.cons stand .nil)

theorem effect (effect : Effect) : relaxation.Carries effect.check effect.check :=
  also (pop_signatures effect.pops effect.construct) (push_types effect.pushes)

theorem check_region_empty (construct : String) :
    relaxation.Carries (.checkRegionEmpty construct) (.checkRegionEmpty construct) := by
  intro state relaxed relation passed
  rw [Check.check_region_empty_state, Check.check_region_empty_state]
  refine ⟨?_, relation⟩
  rcases labels : state.labels with _ | ⟨label, outer⟩
  · rw [Check.checkRegionEmpty, Check.innermost_bind_of_closed labels] at passed
    cases passed
  · have opened : state.labels ≠ [] := by simp [labels]
    obtain ⟨label', outer', labels'⟩ :=
      List.exists_cons_of_ne_nil (mt (labels_nil_iff relation).mp opened)
    rw [Check.check_region_empty_result labels] at passed
    rw [Check.check_region_empty_result labels']
    exact relaxation.empty_region relation opened passed

theorem drop : relaxation.Carries .drop .drop := by
  refine attempt_bind (drop_types 1) ?_ ?_
  · exact fun _ _ relation _ => ⟨rfl, relation⟩
  · exact fun fault _ _ => ⟨fault, rfl⟩

theorem check_non_null {type found : ValueType} (stand : relaxation.stands type found)
    (expected : ValueType) :
    relaxation.Carries (.checkNonNull type expected) (.checkNonNull found expected) := by
  intro state relaxed relation passed
  rw [Check.checkNonNull, Check.observe_bind_apply, Check.explain_result,
    Environment.check_type_ok_iff] at passed
  simp only [Check.checkNonNull, Check.observe_bind_apply, Check.explain_result,
    Check.explain_state, Environment.check_type_ok_iff]
  exact ⟨relaxation.stands_compatible stand passed, relation⟩

/-- A reference that was found is found again, perhaps as another type. -/
theorem reference_check (construct : String) :
    relaxation.Carries (.referenceCheck construct) (.referenceCheck construct) := by
  refine also (ask ?_) (drop_types 1)
  intro state relaxed relation passed
  unfold State.checkReference at passed ⊢
  cases seen : state.peek 0 with
  | error fault => simp [seen] at passed
  | ok type =>
      obtain ⟨found, seen', stand⟩ := relaxation.peek relation seen
      simp only [seen, granted_iff] at passed
      simp only [seen', granted_iff]
      exact relaxation.stands_reference stand passed

theorem pop_reference_bind {construct : String} {next next' : ValueType × Verdict → Check Unit}
    (kept : ∀ type found, relaxation.stands type found →
      relaxation.Carries (next (type, .ok ())) (next' (found, .ok ())))
    (fatal : ∀ type fault, (next (type, .error fault)).Fatal) :
    relaxation.Carries (Check.popReference construct >>= next)
      (Check.popReference construct >>= next') := by
  intro state relaxed relation succeeded
  have popped := @Check.pop_reference_apply env state construct
  have popped' := @Check.pop_reference_apply other relaxed construct
  rw [Check.bind_apply_ok (congrArg Outcome.result popped), popped] at succeeded ⊢
  rw [Check.bind_apply_ok (congrArg Outcome.result popped'), popped']
  cases result : (Check.referenceCheck construct env state).result with
  | error fault =>
      obtain ⟨later, failed⟩ := fatal (state.peekD 0) fault env (state.remove 1)
      simp only [result, failed] at succeeded
      cases succeeded
  | ok _ =>
      have passed := (reference_check construct state relaxed relation result).1
      have seen : Verdict.of (state.peek 0) = .ok () := by
        rw [Check.referenceCheck, Check.also_result, Verdict.and_eq_ok_iff] at result
        exact State.peek_of_check_reference (Check.ask_result_ok_iff.mp result.1)
      simp only [result] at succeeded
      rw [passed]
      exact kept _ _ (operand relation seen).2 _ _ (relaxation.remove relation 1) succeeded

theorem select (declared : Option ValueType) :
    relaxation.Carries (.select declared) (.select declared) := by
  intro state relaxed relation passed
  rw [Check.select_result, Verdict.and_eq_ok_iff] at passed
  obtain ⟨selected, stand⟩ := select_verdict relation passed.1
  obtain ⟨dropped, -⟩ := drop_types 3 state relaxed relation passed.2
  rw [Check.select_result, selected, dropped, Check.select_state, Check.select_state]
  exact ⟨rfl, relaxation.push (relaxation.remove relation 3) (.cons stand .nil)⟩

/-! ## Regions -/

theorem set_unreachable : relaxation.Carries .setUnreachable .setUnreachable :=
  resolve_bind fun _ _ _ => act fun _ _ relation => relaxation.mark_unreachable relation

theorem enter_region (kind : LabelKind) (params results : List ValueType) :
    relaxation.Carries (.enterRegion kind params results) (.enterRegion kind params results) :=
  act fun _ _ relation => relaxation.enter relation kind params results

theorem enter_body (kind : LabelKind) (results : List ValueType) :
    relaxation.Carries (.enterBody kind results) (.enterBody kind results) :=
  also (act fun _ _ _ => relaxation.start) (enter_region kind [] results)

theorem require_kind (rule : LabelRule) {label label' : Label}
    (same : label'.shape = label.shape) :
    relaxation.Carries (.requireKind rule label) (.requireKind rule label') := by
  rw [Check.requireKind, Check.requireKind, (Label.eq_of_shape same).1]
  exact ask fun _ _ _ passed => passed

theorem check_results {label label' : Label} (same : label'.shape = label.shape)
    (construct last : String) :
    relaxation.Carries (.checkResults label construct last)
      (.checkResults label' construct last) := by
  rw [Check.checkResults, Check.checkResults, (Label.eq_of_shape same).2.2]
  exact also (pop_signature _ _) (check_region_empty _)

theorem leave_region {label label' : Label} (same : label'.shape = label.shape)
    (construct last : String) :
    relaxation.Carries (.leaveRegion label construct last)
      (.leaveRegion label' construct last) :=
  also (check_results same construct last) (act fun _ _ relation => relaxation.leave relation)

theorem close_under (rule : LabelRule) (construct last : String) :
    relaxation.Carries (.closeUnder rule construct last) (.closeUnder rule construct last) :=
  resolve_bind fun _ _ same => also (require_kind rule same) (leave_region same construct last)

theorem next_arm (rule : LabelRule) {label label' : Label} (same : label'.shape = label.shape)
    (construct : String) (kind : LabelKind) (types : List ValueType) :
    relaxation.Carries (.nextArm rule label construct kind types)
      (.nextArm rule label' construct kind types) :=
  also (require_kind rule same) <| also (check_results same construct construct) <|
    also (act fun _ _ relation => relaxation.begin_arm relation kind types) nothing

theorem else_arm : relaxation.Carries .elseArm .elseArm := by
  refine resolve_bind fun label label' same => ?_
  rw [(Label.eq_of_shape same).2.1]
  exact next_arm _ same _ _ _

theorem end_region : relaxation.Carries .endRegion .endRegion := by
  refine resolve_bind fun label label' same => ?_
  rw [(Label.eq_of_shape same).1]
  split
  · exact also else_arm (leave_region same _ _)
  · exact leave_region same _ _

/-- Leave the whole body with the results of a call. -/
theorem tail_call (construct : String) (pops : List (List ValueType))
    (results : List ValueType) :
    relaxation.Carries (.tailCall construct pops results) (.tailCall construct pops results) := by
  refine also (pop_signatures pops construct) (outermost_bind fun label label' same => ?_)
  refine also (ask fun _ _ _ passed => ?_) set_unreachable
  rw [checkTailResults, granted_iff] at passed
  rw [checkTailResults, granted_iff, (Label.eq_of_shape same).2.2]
  exact relaxation.all_compatible passed

end Carries

/-- An operation that succeeds in a state succeeds in every relaxed one. -/
theorem run_carries (relaxation : Relaxation env other) (operation : Operation) :
    relaxation.Carries operation.run operation.run := by
  cases operation with
  | beginFunction results => exact .enter_body _ _
  | endFunction => exact .close_under _ _ _
  | beginInitExpr type => exact .enter_body _ _
  | endInitExpr => exact .close_under _ _ _
  | enter opening params results => exact .also (.pop_signatures _ _) (.enter_region _ _ _)
  | elseArm => exact .else_arm
  | endBlock => exact .end_region
  | catchArm values => exact .resolve_bind fun _ _ same => .next_arm _ same _ _ _
  | delegate depth => exact .resolve_bind fun _ _ _ => .close_under _ _ _
  | rethrow depth =>
      refine .ask_bind ?_ fun _ _ (_ : True) => .set_unreachable
      intro state relaxed _ relation passed
      exact ⟨(), rethrow relation passed, trivial⟩
  | throwTag values => exact .also (.pop_signature _ _) .set_unreachable
  | throwRef => exact .also (.pop_signature _ _) .set_unreachable
  | beginTryTable params => exact .pop_signature _ _
  | tryTableCatch values depth => exact .ask fun _ _ relation passed => catch_values relation passed
  | finishTryTable params results => exact .enter_region _ _ _
  | br depth =>
      refine .resolve_bind fun label label' same => ?_
      rw [Label.branch_types_of_shape same]
      exact .also (.check_signature _ _) .set_unreachable
  | brIf depth =>
      refine .attempt_bind (.pop_signature _ _) ?_ ?_
      · refine .resolve_bind fun label label' same => ?_
        rw [Label.branch_types_of_shape same]
        exact .also .settled
          (.also (.pop_signature _ _) (.also (.push_types _) .nothing))
      · exact fun fault => .ask_bind fun label => .also (.settle fault) _
  | beginBrTable =>
      exact .also (.act fun _ _ relation => relaxation.keep_table relation none)
        (.pop_signature _ _)
  | brTableTarget depth =>
      refine .resolve_bind fun label label' same => ?_
      rw [Label.branch_types_of_shape same]
      refine .also (.check_signature _ _) (.also (.ask ?_) (.also (.act ?_) .nothing))
      · exact fun _ _ relation passed => check_table_types relation passed
      · intro state relaxed relation
        rw [relaxation.table_types relation]
        exact relaxation.keep_table relation _
  | endBrTable =>
      exact .also (.act fun _ _ relation => relaxation.keep_table relation none) .set_unreachable
  | brOnNull depth =>
      refine .pop_reference_bind ?_ ?_
      · intro type found stand
        refine .resolve_bind fun label label' same => ?_
        rw [Label.branch_types_of_shape same]
        exact .also .settled
          (.also (.check_signature _ _)
            (.also (.push_one (relaxation.stands_non_null stand)) .nothing))
      · exact fun type fault => .ask_bind fun label => .also (.settle fault) _
  | brOnNonNull depth =>
      refine .pop_reference_bind ?_ ?_
      · intro type found stand
        refine .resolve_bind fun label label' same => ?_
        rw [Label.branch_types_of_shape same]
        split
        · exact .also .settled (.ask fun _ _ _ refused => nomatch refused)
        · exact .also .settled (.also (.check_non_null (relaxation.stands_non_null stand) _)
            (.also (.check_signature _ _) .nothing))
      · intro type fault
        refine .ask_bind fun label => ?_
        split
        · exact .also (.settle fault) _
        · exact .also (.settle fault) _
  | callRef index => exact .resolve_type_bind fun type => .effect _
  | returnValues =>
      refine .outermost_bind fun label label' same => ?_
      rw [(Label.eq_of_shape same).2.2]
      exact .also (.pop_signature _ _) .set_unreachable
  | returnCall params results => exact .tail_call _ _ _
  | returnCallIndirect params results table => exact .tail_call _ _ _
  | returnCallRef index => exact .resolve_type_bind fun type => .tail_call _ _ _
  | plain instruction => exact .effect _
  | lane op index => exact .also (.ask fun _ _ _ passed => passed) (.effect _)
  | shuffle op lanes =>
      exact .also (.all_map fun _ => .ask fun _ _ _ passed => passed) (.effect _)
  | laneAccess op memory index => exact .also (.ask fun _ _ _ passed => passed) (.effect _)
  | drop => exact .drop
  | select declared => exact .select declared
  | unreachable => exact .set_unreachable
  | refIsNull =>
      refine .pop_reference_bind ?_ ?_
      · intro type found stand
        exact .also .settled (.push_types _)
      · exact fun type fault => .also (.settle fault) _
  | refAsNonNull =>
      refine .pop_reference_bind ?_ ?_
      · intro type found stand
        exact .also .settled
          (.push_one (relaxation.stands_non_null stand))
      · exact fun type fault => .also (.settle fault) _
  | checkType actual expected =>
      refine .observed fun state relaxed _ passed => ?_
      rw [Environment.check_type_ok_iff] at passed ⊢
      exact relaxation.stands_compatible (relaxation.stands_self actual) passed
  | checkTypes actual expected =>
      refine .observed fun state relaxed _ passed => ?_
      rw [Environment.checkTypes, granted_iff] at passed ⊢
      exact relaxation.all_compatible passed
  | dropTypes count => exact .drop_types count

/-! ## Bodies -/

theorem run_all_carries (relaxation : Relaxation env other) (actions : List Action) :
    relaxation.Carries (Action.runAll actions) (Action.runAll actions) := by
  refine .all_map fun action => ?_
  cases action with
  | refuse complaint => exact .ask fun _ _ _ refused => nomatch refused
  | perform operation => exact relaxation.run_carries operation

theorem Carries.accepted {check check' : Check Unit} (carries : relaxation.Carries check check')
    {state relaxed next : State} (relation : relaxation.related state relaxed)
    (taken : check.accepted env state = some next) :
    ∃ next', check'.accepted other relaxed = some next' ∧ relaxation.related next next' := by
  cases result : (check env state).result with
  | error fault =>
      rw [Check.accepted_of_error result] at taken
      cases taken
  | ok _ =>
      obtain ⟨passed, reached⟩ := carries state relaxed relation result
      rw [Check.state_of_accepted taken] at reached
      exact ⟨_, Check.accepted_of_ok passed, reached⟩

/-- A body that is accepted from a state is accepted from every relaxed one, if its
instructions are relaxed. -/
theorem completes {scope wider : Scope}
    (relaxation : Relaxation scope.environment wider.environment)
    (carries : ∀ depth instruction, relaxation.Carries
      (Action.runAll (scope.actions depth instruction))
      (Action.runAll (wider.actions depth instruction)))
    {body : List Instruction} {state relaxed : State}
    (relation : relaxation.related state relaxed) (completes : scope.Completes body state) :
    wider.Completes body relaxed := by
  induction body generalizing state relaxed with
  | nil => exact completes
  | cons instruction rest ih =>
      obtain ⟨next, taken, goes⟩ := completes
      obtain ⟨next', taken', reached⟩ :=
        (carries state.labels.length instruction).accepted relation taken
      refine ⟨next', ?_, ?_⟩
      · rw [Scope.advance, labels_length relation]
        exact taken'
      · by_cases closed : next.labels = []
        · rw [if_pos closed] at goes
          rwa [if_pos ((labels_nil_iff reached).mpr closed)]
        · rw [if_neg closed] at goes
          rw [if_neg (mt (labels_nil_iff reached).mp closed)]
          exact ih reached goes

end Relaxation

end WasmTyping
