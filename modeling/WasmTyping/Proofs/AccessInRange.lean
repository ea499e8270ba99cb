import WasmTyping.Proofs.GuardedAccess
import WasmTyping.Proofs.RegionFrame

/-!
# Accesses are in range

Where the innermost limit does not exceed the height of the operand stack, the
checker over numbered labels and operands has an outcome, and it is the outcome
of the plain checker. Every step touches only the innermost region, so the
condition holds again wherever a step goes on.
-/

set_option autoImplicit false

namespace WasmTyping

theorem difference_eq {whole part : Nat} (fits : part ≤ whole) :
    difference? whole part = some (whole - part) :=
  if_pos fits

namespace State

variable {state : State} {label : Label} {outer : List Label}

theorem label_at_innermost (opened : state.labels = label :: outer) :
    state.labelAt? outer.length = some label := by
  simp [labelAt?, opened]

theorem label_at_of_depth {depth : Nat} (found : state.labels[depth]? = some label) :
    state.labelAt? (state.labels.length - 1 - depth) = some label := by
  obtain ⟨bound, _⟩ := List.getElem?_eq_some_iff.mp found
  unfold labelAt?
  rw [List.getElem?_reverse (by omega), ← found]
  congr 1
  omega

theorem change_label_at_innermost (opened : state.labels = label :: outer)
    (change : Label → Label) :
    state.changeLabelAt? outer.length change =
      some { state with labels := change label :: outer } := by
  have counted : outer.length < state.labels.length := by simp [opened]
  have changed : (state.labels.reverse.modify outer.length change).reverse =
      change label :: outer := by
    rw [opened, List.reverse_cons, List.modify_eq_take_drop]
    simp
  rw [changeLabelAt?, if_pos counted, changed]

theorem resolve_number_of_ok {depth : Nat} (found : state.labels[depth]? = some label) :
    state.resolveNumber? depth = some (.ok (state.labels.length - 1 - depth)) := by
  obtain ⟨bound, _⟩ := List.getElem?_eq_some_iff.mp found
  have nonempty : state.labels.isEmpty = false := by
    rw [List.isEmpty_eq_false_iff_exists_mem]
    exact ⟨label, List.mem_of_getElem? found⟩
  have within : depth ≤ state.labels.length - 1 := by omega
  simp only [resolveNumber?, nonempty, Bool.false_eq_true, if_false,
    difference_eq (show 1 ≤ state.labels.length by omega), Option.bind_eq_bind, Option.bind_some,
    within, if_true, difference_eq within]

theorem resolve_number_of_error {depth : Nat} {complaint : Complaint}
    (refused : state.resolve depth = .error complaint) :
    state.resolveNumber? depth = some (.error complaint) := by
  unfold resolve label? at refused
  rcases found : state.labels[depth]? with _ | label
  · rw [found] at refused
    have outside := List.getElem?_eq_none_iff.mp found
    by_cases empty : state.labels.isEmpty = true
    · simp only [empty, if_true, Except.error.injEq] at refused
      simp only [resolveNumber?, empty, if_true, refused]
    · have counted : 1 ≤ state.labels.length := by
        rw [List.isEmpty_iff] at empty
        exact List.length_pos_iff.mpr empty
      have beyond : ¬ depth ≤ state.labels.length - 1 := by omega
      simp only [empty, if_false, Except.error.injEq, Bool.false_eq_true] at refused
      simp only [resolveNumber?, empty, if_false, difference_eq counted, Option.bind_eq_bind,
        Option.bind_some, beyond, refused, Bool.false_eq_true]
  · rw [found] at refused
    cases refused

/-- A read by number is the read from the top of the innermost region. -/
theorem peek_at_eq (grounded : state.limit ≤ state.operands.length) (depth : Nat) :
    state.peekAt? depth = some (state.peek depth) := by
  rcases opened : state.labels with _ | ⟨label, outer⟩
  · simp [peekAt?, peek, opened]
  · have limit : state.limit = label.limit := by simp only [State.limit, opened]
    rw [limit] at grounded
    have size : state.region.length = state.operands.length - label.limit := by
      rw [region, limit, List.length_drop]
    simp only [peekAt?, peek, opened, List.head?_cons, difference_eq grounded,
      Option.bind_eq_bind, Option.bind_some]
    by_cases below : state.operands.length - label.limit ≤ depth
    · have absent : state.region.reverse[depth]? = none := by
        rw [List.getElem?_eq_none_iff, List.length_reverse, size]
        exact below
      rw [if_pos below, absent]
    · have inside : depth < state.region.length := by omega
      have number : state.operands[state.operands.length - depth - 1]? =
          state.region.reverse[depth]? := by
        rw [List.getElem?_reverse inside, region, limit, List.getElem?_drop]
        congr 1
        rw [List.length_drop]
        omega
      have found : ∃ type, state.region.reverse[depth]? = some type := by
        refine ⟨_, List.getElem?_eq_getElem ?_⟩
        rw [List.length_reverse]
        exact inside
      obtain ⟨type, found⟩ := found
      rw [if_neg below, difference_eq (by omega), Option.bind_some, difference_eq (by omega),
        Option.bind_some, number, found]
      rfl

theorem mismatch_at_eq (grounded : state.limit ≤ state.operands.length) (place : Place)
    (construct : String) (expected : List ValueType) :
    state.mismatchAt? place construct expected = some (state.mismatch place construct expected) := by
  have size : state.region.length = state.operands.length - state.limit := by
    rw [region, List.length_drop]
  have cut : ∀ shown, shown ≤ state.region.length →
      state.region.drop (state.region.length - shown) =
        state.operands.drop (state.operands.length - shown) := by
    intro shown bound
    rw [region, List.drop_drop, List.length_drop]
    congr 1
    omega
  simp only [mismatchAt?, mismatch, difference_eq grounded, Option.bind_eq_bind, Option.bind_some,
    ← size]
  rw [difference_eq (by omega), cut _ (Nat.min_le_right _ _)]
  rfl

end State

theorem operand_verdict_eq {env : Environment} {state : State}
    (grounded : state.limit ≤ state.operands.length) (depth : Nat) (expected : ValueType) :
    operandVerdict? env state depth expected = some (operandVerdict env state depth expected) := by
  simp only [operandVerdict?, operandVerdict, State.peek_at_eq grounded, Option.bind_eq_bind,
    Option.bind_some]
  cases state.peek depth <;> rfl

theorem signature_verdict_from_eq {env : Environment} {state : State}
    (grounded : state.limit ≤ state.operands.length) (position : Nat)
    (signature : List ValueType) :
    signatureVerdictFrom? env state (position + signature.length) position signature =
      some (signatureVerdict env state signature) := by
  induction signature generalizing position with
  | nil => rfl
  | cons expected rest ih =>
      have below : position + (expected :: rest).length - position = rest.length + 1 := by
        simp only [List.length_cons]
        omega
      have next : position + (expected :: rest).length = position + 1 + rest.length := by
        simp only [List.length_cons]
        omega
      rw [signatureVerdictFrom?, difference_eq (Nat.le_add_right _ _), below, next, ih]
      simp only [Option.bind_eq_bind, Option.bind_some, difference_eq (Nat.le_add_left 1 _),
        Nat.add_sub_cancel, operand_verdict_eq grounded, signatureVerdict]

theorem to_option_get_d_peek (state : State) (depth : Nat) :
    (state.peek depth).toOption.getD .any = state.peekD depth := by
  unfold State.peekD
  cases state.peek depth <;> rfl

theorem select_verdict_eq {env : Environment} {state : State}
    (grounded : state.limit ≤ state.operands.length) (declared : Option ValueType) :
    selectVerdict? env state declared = some (selectVerdict env state declared) := by
  simp only [selectVerdict?, selectVerdict, operand_verdict_eq grounded,
    State.peek_at_eq grounded, Option.bind_eq_bind, Option.bind_some, to_option_get_d_peek]
  cases declared with
  | none =>
      dsimp only
      split <;> rfl
  | some type => rfl

namespace Guarded

/-- In a state whose innermost limit does not exceed the height, the guarded
check has the outcome of the plain one. -/
def Agrees {α : Type} (guarded : Guarded α) (check : Check α) : Prop :=
  ∀ (env : Environment) (state : State), state.limit ≤ state.operands.length →
    guarded env state = some (check env state)

variable {α β : Type}

theorem bind_of_ok {guarded : Guarded α} {next : α → Guarded β} {env : Environment}
    {state : State} {value : α} {after : State} {events : List Event}
    (succeeded : guarded env state = some ⟨.ok value, after, events⟩) :
    (guarded >>= next) env state = (next value env after).map fun outcome =>
      ⟨outcome.result, outcome.state, events ++ outcome.events⟩ := by
  show Guarded.bind guarded next env state = _
  simp only [Guarded.bind, succeeded, Option.bind_eq_bind, Option.bind_some]
  cases next value env after <;> rfl

theorem bind_of_error {guarded : Guarded α} {next : α → Guarded β} {env : Environment}
    {state after : State} {fault : Fault} {events : List Event}
    (failed : guarded env state = some ⟨.error fault, after, events⟩) :
    (guarded >>= next) env state = some ⟨.error fault, after, events⟩ := by
  show Guarded.bind guarded next env state = _
  simp only [Guarded.bind, failed, Option.bind_eq_bind, Option.bind_some]

/-- A value found without any effect is handed on. -/
theorem bind_of_value {guarded : Guarded α} {next : α → Guarded β} {env : Environment}
    {state : State} {value : α} (found : guarded env state = some ⟨.ok value, state, []⟩) :
    (guarded >>= next) env state = next value env state := by
  rw [bind_of_ok found]
  cases next value env state <;> rfl

namespace Agrees

theorem of (check : Check α) : Agrees (.of check) check :=
  fun _ _ _ => rfl

theorem bind {guarded : Guarded α} {check : Check α} {next : α → Guarded β}
    {rest : α → Check β} (first : Agrees guarded check) (edits : check.Edits)
    (second : ∀ value, Agrees (next value) (rest value)) :
    Agrees (guarded >>= next) (check >>= rest) := by
  intro env state grounded
  have found := first env state grounded
  rcases result : (check env state).result with fault | value
  · rw [Check.bind_apply_error result]
    apply bind_of_error
    rw [found, ← result]
  · rw [Check.bind_apply_ok result]
    have here : guarded env state =
        some ⟨.ok value, (check env state).state, (check env state).events⟩ := by
      rw [found, ← result]
    rw [bind_of_ok here, second value env _ ((edits env state).confined grounded).grounded]
    rfl

theorem also {first second : Guarded Unit} {left right : Check Unit} (before : Agrees first left)
    (edits : left.Edits) (after : Agrees second right) :
    Agrees (first.also second) (left.also right) := by
  intro env state grounded
  simp only [Guarded.also, before env state grounded, Option.bind_eq_bind, Option.bind_some,
    after env _ ((edits env state).confined grounded).grounded]
  rfl

theorem attempt {guarded : Guarded Unit} {check : Check Unit} (agrees : Agrees guarded check) :
    Agrees guarded.attempt check.attempt := by
  intro env state grounded
  simp only [Guarded.attempt, agrees env state grounded, Option.bind_eq_bind, Option.bind_some]
  rfl

theorem view {look : Environment → State → Option α} {seen : Environment → State → α}
    (found : ∀ env state, state.limit ≤ state.operands.length →
      look env state = some (seen env state)) :
    Agrees (.view look) (.observe seen) := by
  intro env state grounded
  simp only [Guarded.view, found env state grounded, Option.bind_eq_bind, Option.bind_some]
  rfl

theorem explain (verdict : Verdict) {said : State → Option Diagnostic}
    {diagnostic : State → Diagnostic}
    (found : ∀ state : State, state.limit ≤ state.operands.length →
      said state = some (diagnostic state)) :
    Agrees (.explain verdict said) (.explain verdict diagnostic) := by
  intro env state grounded
  cases verdict with
  | ok _ => rfl
  | error fault =>
      simp only [Guarded.explain, found state grounded, Option.bind_eq_bind, Option.bind_some]
      rfl

theorem change (next : State → State) :
    Agrees (.change fun state => some (next state)) (.modify next) :=
  fun _ _ _ => rfl

theorem nil : Agrees (.all []) (.all []) :=
  fun _ _ _ => rfl

theorem cons {first : Guarded Unit} {check : Check Unit} {rest : List (Guarded Unit)}
    {checks : List (Check Unit)} (head : Agrees first check) (edits : check.Edits)
    (tail : Agrees (.all rest) (.all checks)) :
    Agrees (.all (first :: rest)) (.all (check :: checks)) :=
  also head edits tail

theorem all_map {γ : Type} {guarded : γ → Guarded Unit} {check : γ → Check Unit}
    (each : ∀ item, Agrees (guarded item) (check item))
    (edits : ∀ item, (check item).Edits) (items : List γ) :
    Agrees (.all (items.map guarded)) (.all (items.map check)) := by
  induction items with
  | nil => exact nil
  | cons item rest ih => exact cons (each item) (edits item) ih

/-! ## Labels by number -/

theorem ask_of_ok {question : Environment → State → Option (Except Complaint α)}
    {env : Environment} {state : State} {value : α}
    (answered : question env state = some (.ok value)) :
    Guarded.ask question env state = some ⟨.ok value, state, []⟩ := by
  simp only [Guarded.ask, answered, Option.bind_eq_bind, Option.bind_some]
  rfl

theorem ask_of_error {question : Environment → State → Option (Except Complaint α)}
    {env : Environment} {state : State} {complaint : Complaint}
    (refused : question env state = some (.error complaint)) :
    Guarded.ask question env state =
      some ⟨.error complaint.fault, state, [.reported complaint.diagnostic]⟩ := by
  simp only [Guarded.ask, refused, Option.bind_eq_bind, Option.bind_some]
  rfl

theorem label_at_bind {next : Label → Guarded β} {env : Environment} {state : State}
    {number : Nat} {label : Label} (found : state.labelAt? number = some label) :
    (labelAt number >>= next) env state = next label env state := by
  apply bind_of_value
  simp only [labelAt, Guarded.view, found, Option.bind_eq_bind, Option.bind_some]

theorem resolve_bind_of_ok {next : Nat → Guarded β} {env : Environment} {state : State}
    {depth : Nat} {label : Label} (found : state.labels[depth]? = some label) :
    (resolve depth >>= next) env state = next (state.labels.length - 1 - depth) env state := by
  apply bind_of_value
  apply ask_of_ok
  exact State.resolve_number_of_ok found

theorem resolve_bind_of_error {next : Nat → Guarded β} {env : Environment} {state : State}
    {depth : Nat} {complaint : Complaint} (refused : state.resolve depth = .error complaint) :
    (resolve depth >>= next) env state =
      some ⟨.error complaint.fault, state, [.reported complaint.diagnostic]⟩ := by
  apply bind_of_error
  apply ask_of_error
  exact State.resolve_number_of_error refused

/-- A label resolved to a number and looked up by it is the label resolved. -/
theorem resolved (depth : Nat) {next : Label → Guarded β} {rest : Label → Check β}
    (second : ∀ label, Agrees (next label) (rest label)) :
    Agrees (resolve depth >>= fun number => labelAt number >>= next)
      (Check.resolve depth >>= rest) := by
  intro env state grounded
  rcases resolved : state.resolve depth with complaint | label
  · rw [resolve_bind_of_error resolved, Check.resolve, Check.ask_bind_of_error resolved]
  · have found := (state.resolve_eq_ok_iff depth label).mp resolved
    rw [resolve_bind_of_ok found, label_at_bind (State.label_at_of_depth found), Check.resolve,
      Check.ask_bind_of_ok resolved]
    exact second label env state grounded

/-- The same for the label of the whole body, whose number is zero. -/
theorem outermost {next : Label → Guarded β} {rest : Label → Check β}
    (second : ∀ label, Agrees (next label) (rest label)) :
    Agrees (Guarded.outermost >>= fun number => labelAt number >>= next)
      (Check.outermost >>= rest) := by
  intro env state grounded
  by_cases closed : state.labels = []
  · have refused : state.outermostNumber = .error ⟨.noOpenBlock, .noOpenLabel⟩ := by
      simp [State.outermostNumber, closed]
    rw [Check.outermost, Check.ask_bind_of_error (State.outermost_of_closed closed)]
    apply bind_of_error
    apply ask_of_error
    exact congrArg some refused
  · have number : state.outermostNumber = .ok 0 := by
      simp [State.outermostNumber, closed]
    have found : state.labels.getLast? = some (state.labels.getLast closed) :=
      List.getLast?_eq_some_getLast closed
    have first : state.labelAt? 0 = some (state.labels.getLast closed) := by
      rw [State.labelAt?, ← List.head?_eq_getElem?, List.head?_reverse, found]
    have answered : Guarded.outermost env state = some ⟨.ok 0, state, []⟩ := by
      apply ask_of_ok
      exact congrArg some number
    rw [bind_of_value answered, label_at_bind first, Check.outermost,
      Check.ask_bind_of_ok ((state.outermost_eq_ok_iff _).mpr found)]
    exact second _ env state grounded

/-! ## Operands -/

theorem check_signature (signature : List ValueType) (construct : String) :
    Agrees (.checkSignature signature construct) (.checkSignature signature construct) := by
  apply bind _ (.observe _)
  · intro verdict
    exact explain verdict fun state grounded => State.mismatch_at_eq grounded _ _ _
  · apply view
    intro env state grounded
    have whole := @signature_verdict_from_eq env state grounded 0 signature
    rwa [Nat.zero_add] at whole

theorem innermost_bind_of_open {next : Nat → Guarded β} {env : Environment} {state : State}
    {label : Label} {outer : List Label} (opened : state.labels = label :: outer) :
    (innermost >>= next) env state = next outer.length env state := by
  have found : state.labels[0]? = some label := by simp [opened]
  rw [innermost, resolve_bind_of_ok found]
  simp [opened]

theorem innermost_bind_of_closed {next : Nat → Guarded β} {env : Environment} {state : State}
    (closed : state.labels = []) :
    (innermost >>= next) env state =
      some ⟨.error .noOpenLabel, state, [.reported .noOpenBlock]⟩ := by
  rw [innermost, resolve_bind_of_error (State.resolve_of_closed closed 0)]

/-- To cut back to a limit is to remove more than the region holds. -/
theorem discard_of_short {state : State} {count : Nat}
    (grounded : state.limit ≤ state.operands.length)
    (short : state.operands.length - state.limit < count) :
    state.discard count = state.truncate state.limit := by
  have height : max state.limit (state.operands.length - count) = state.limit := by omega
  simp only [State.discard, State.truncate, height]

theorem discard_of_enough {state : State} {count : Nat}
    (grounded : state.limit ≤ state.operands.length)
    (enough : ¬ state.operands.length - state.limit < count) :
    state.discard count = state.truncate (state.operands.length - count) := by
  have height : max state.limit (state.operands.length - count) =
      state.operands.length - count := by omega
  simp only [State.discard, State.truncate, height]

theorem drop_types (count : Nat) : Agrees (.dropTypes count) (.dropTypes count) := by
  intro env state grounded
  rcases opened : state.labels with _ | ⟨label, outer⟩
  · rw [Guarded.dropTypes, innermost_bind_of_closed opened, Check.drop_types_of_closed opened]
  · have limit : state.limit = label.limit := by simp only [State.limit, opened]
    have unreachable : state.isUnreachable = label.unreachable := by
      simp only [State.isUnreachable, opened]
    have size : state.region.length = state.operands.length - state.limit := by
      rw [State.region, List.length_drop]
    have available : Guarded.view (fun _ state => difference? state.operands.length label.limit)
        env state = some ⟨.ok (state.operands.length - state.limit), state, []⟩ := by
      simp only [Guarded.view, ← limit, difference_eq grounded, Option.bind_eq_bind,
        Option.bind_some]
    rw [Guarded.dropTypes, innermost_bind_of_open opened,
      label_at_bind (State.label_at_innermost opened), bind_of_value available,
      Check.drop_types_of_open opened, discardVerdict, size, unreachable]
    split
    · rename_i short
      have cut : Guarded.change (fun state => some (state.truncate label.limit)) env state =
          some ⟨.ok (), state.discard count, []⟩ := by
        rw [discard_of_short grounded short, limit]
        rfl
      rw [bind_of_ok cut]
      cases label.unreachable <;> simp [Guarded.of, short]
    · rename_i enough
      rw [discard_of_enough grounded enough]
      have bound : count ≤ state.operands.length := by omega
      simp [Guarded.change, difference_eq bound, enough]

theorem pop_signature (signature : List ValueType) (construct : String) :
    Agrees (.popSignature signature construct) (.popSignature signature construct) :=
  also (check_signature signature construct) (.check_signature signature construct)
    (drop_types signature.length)

theorem pop_signatures (signatures : List (List ValueType)) (construct : String) :
    Agrees (.popSignatures signatures construct) (.popSignatures signatures construct) :=
  all_map (fun signature => pop_signature signature construct)
    (fun signature => .pop_signature signature construct) signatures

theorem check_region_empty (construct : String) :
    Agrees (.checkRegionEmpty construct) (.checkRegionEmpty construct) := by
  intro env state grounded
  rcases opened : state.labels with _ | ⟨label, outer⟩
  · rw [Guarded.checkRegionEmpty, innermost_bind_of_closed opened, Check.checkRegionEmpty,
      Check.innermost_bind_of_closed opened]
  · have limit : state.limit = label.limit := by simp only [State.limit, opened]
    have seen : Guarded.view (fun _ state =>
        some (if state.operands.length = label.limit then .ok () else .error .stackNotEmpty))
        env state = some ⟨.ok (emptyVerdict state), state, []⟩ := by
      rw [emptyVerdict, limit]
      rfl
    rw [Guarded.checkRegionEmpty, innermost_bind_of_open opened,
      label_at_bind (State.label_at_innermost opened), bind_of_value seen,
      Check.checkRegionEmpty, Check.innermost_bind_of_open opened, Check.observe_bind_apply]
    apply explain _ _ env state grounded
    exact fun state grounded => State.mismatch_at_eq grounded _ _ _

theorem pop_reference (construct : String) :
    Agrees (.popReference construct) (.popReference construct) := by
  intro env state grounded
  have peeked : Guarded.view (fun _ state => state.peekAt? 0) env state =
      some ⟨.ok (state.peek 0), state, []⟩ := by
    simp only [Guarded.view, State.peek_at_eq grounded, Option.bind_eq_bind, Option.bind_some]
  have answer : Guarded.checkReference construct (state.peek 0) =
      state.checkReference construct := by
    unfold State.checkReference
    cases state.peek 0 <;> rfl
  have checked : ((Guarded.of (.ask fun _ _ => Guarded.checkReference construct (state.peek 0))).also
      (.dropTypes 1)).attempt env state =
        some ⟨.ok (Check.referenceCheck construct env state).result, state.remove 1,
          (Check.referenceCheck construct env state).events⟩ := by
    rw [answer, ← Check.drop_types_state]
    exact attempt (also (of (.ask fun _ _ => state.checkReference construct)) (.ask _)
      (drop_types 1)) env state grounded
  rw [Guarded.popReference, bind_of_value peeked, Check.pop_reference_apply, bind_of_ok checked,
    to_option_get_d_peek]
  simp [Pure.pure, Guarded.of, Check.pure]

/-! ## Regions -/

theorem reset_to_innermost {env : Environment} {state : State} {label : Label}
    {outer : List Label} (opened : state.labels = label :: outer) :
    resetTo outer.length env state = some ⟨.ok (), state.truncate label.limit, []⟩ := by
  rw [resetTo, label_at_bind (State.label_at_innermost opened)]
  rfl

theorem set_unreachable : Agrees .setUnreachable .setUnreachable := by
  intro env state grounded
  rcases opened : state.labels with _ | ⟨label, outer⟩
  · rw [Guarded.setUnreachable, innermost_bind_of_closed opened, Check.setUnreachable,
      Check.innermost_bind_of_closed opened]
  · have logged : Guarded.of (.act id fun _ => [.unreachable label.kind]) env state =
        some ⟨.ok (), state, [.unreachable label.kind]⟩ := rfl
    have changed : Guarded.change (fun state => state.changeLabelAt? outer.length
        fun label => { label with unreachable := true }) env state =
        some ⟨.ok (), { state with labels := { label with unreachable := true } :: outer }, []⟩ := by
      simp only [Guarded.change, State.change_label_at_innermost opened, Option.bind_eq_bind,
        Option.bind_some]
    rw [Guarded.setUnreachable, innermost_bind_of_open opened,
      label_at_bind (State.label_at_innermost opened), bind_of_ok logged, bind_of_ok changed,
      reset_to_innermost rfl, Check.set_unreachable_of_open opened]
    simp [State.markUnreachable, State.truncate, opened]

theorem require_kind_innermost {env : Environment} {state : State} {label : Label}
    {outer : List Label} (opened : state.labels = label :: outer) (rule : LabelRule) :
    Guarded.requireKind rule outer.length env state =
      some (Check.requireKind rule label env state) := by
  rw [Guarded.requireKind, label_at_bind (State.label_at_innermost opened)]
  rfl

theorem check_results_innermost {env : Environment} {state : State} {label : Label}
    {outer : List Label} (grounded : state.limit ≤ state.operands.length)
    (opened : state.labels = label :: outer) (construct last : String) :
    Guarded.checkResults outer.length construct last env state =
      some (Check.checkResults label construct last env state) := by
  rw [Guarded.checkResults, label_at_bind (State.label_at_innermost opened)]
  exact also (pop_signature _ _) (.pop_signature _ _) (check_region_empty _) env state grounded

theorem also_of_some {first second : Guarded Unit} {env : Environment} {state : State}
    {before after : Outcome Unit} (left : first env state = some before)
    (right : second env before.state = some after) :
    first.also second env state =
      some ⟨Verdict.and before.result after.result, after.state,
        before.events ++ after.events⟩ := by
  simp only [Guarded.also, left, Option.bind_eq_bind, Option.bind_some, right]

/-- Reset, push the results and take the label away: the region is left. -/
theorem leave_steps {env : Environment} {state : State} {label : Label} {outer : List Label}
    (opened : state.labels = label :: outer) :
    Guarded.all [resetTo outer.length, pushTypes label.results, popLabel] env state =
      some (Check.closeLabel env state) := by
  have truncated : (state.truncate label.limit).labels = label :: outer := opened
  simp only [Guarded.all, Guarded.also, reset_to_innermost opened, Option.bind_eq_bind,
    Option.bind_some, pushTypes, popLabel, Guarded.of, Check.closeLabel, Check.act_apply,
    Check.push_types_apply, Check.pure, State.push, State.truncate, State.leave, opened]
  rfl

theorem leave_region_innermost {env : Environment} {state : State} {label : Label}
    {outer : List Label} (grounded : state.limit ≤ state.operands.length)
    (opened : state.labels = label :: outer) (construct last : String) :
    Guarded.leaveRegion outer.length construct last env state =
      some (Check.leaveRegion label construct last env state) := by
  have removed : (Check.checkResults label construct last env state).state.labels =
      label :: outer := by
    rw [Check.check_results_state, State.remove_labels, opened]
  rw [Guarded.leaveRegion, label_at_bind (State.label_at_innermost opened)]
  exact also_of_some (check_results_innermost grounded opened construct last) (leave_steps removed)

theorem close_under (rule : LabelRule) (construct last : String) :
    Agrees (.closeUnder rule construct last) (.closeUnder rule construct last) := by
  intro env state grounded
  rcases opened : state.labels with _ | ⟨label, outer⟩
  · rw [Guarded.closeUnder, innermost_bind_of_closed opened, Check.closeUnder,
      Check.innermost_bind_of_closed opened]
  · rw [Guarded.closeUnder, innermost_bind_of_open opened, Check.closeUnder,
      Check.innermost_bind_of_open opened]
    exact also_of_some (require_kind_innermost opened rule)
      (leave_region_innermost grounded opened construct last)

theorem begin_kind_innermost {env : Environment} {state : State} {label : Label}
    {outer : List Label} (opened : state.labels = label :: outer) (kind : LabelKind) :
    beginKind outer.length kind env state =
      some ⟨.ok (), { state with
        labels := { label with kind := kind, unreachable := false } :: outer }, []⟩ := by
  simp only [beginKind, Guarded.change, State.change_label_at_innermost opened,
    Option.bind_eq_bind, Option.bind_some]

theorem else_steps {env : Environment} {state : State} {label : Label} {outer : List Label}
    (opened : state.labels = label :: outer) :
    Guarded.all [
        resetTo outer.length,
        (do
          let label ← labelAt outer.length
          pushTypes label.params),
        beginKind outer.length .elseArm] env state =
      some (Check.all [.modify fun state => state.beginArm .elseArm label.params] env state) := by
  have truncated : (state.truncate label.limit).labels = label :: outer := opened
  have pushed : ((state.truncate label.limit).push label.params).labels = label :: outer := opened
  simp only [Guarded.all, Guarded.also, reset_to_innermost opened, Option.bind_eq_bind,
    Option.bind_some, label_at_bind (State.label_at_innermost truncated), pushTypes, Guarded.of,
    Check.push_types_apply, begin_kind_innermost pushed]
  simp [State.beginArm, opened, State.truncate, State.push, Check.pure, Check.also_apply]

theorem catch_steps {env : Environment} {state : State} {label : Label} {outer : List Label}
    (opened : state.labels = label :: outer) (values : List ValueType) :
    Guarded.all [resetTo outer.length, beginKind outer.length .catchArm, pushTypes values]
        env state =
      some (Check.all [.modify fun state => state.beginArm .catchArm values] env state) := by
  have truncated : (state.truncate label.limit).labels = label :: outer := opened
  simp only [Guarded.all, Guarded.also, reset_to_innermost opened, Option.bind_eq_bind,
    Option.bind_some, begin_kind_innermost truncated, pushTypes, Guarded.of,
    Check.push_types_apply]
  simp [State.beginArm, opened, State.truncate, State.push, Check.pure, Check.also_apply]

/-- The next arm of a region begins with three steps of its own. -/
theorem next_arm {rule : LabelRule} {construct : String} {kind : LabelKind}
    {types : Label → List ValueType} {steps : Nat → List (Guarded Unit)}
    (begun : ∀ {env : Environment} {state : State} {label : Label} {outer : List Label},
      state.labels = label :: outer → Guarded.all (steps outer.length) env state =
        some (Check.all [.modify fun state => state.beginArm kind (types label)] env state)) :
    Agrees (innermost >>= fun top =>
        .all (.requireKind rule top :: .checkResults top construct construct :: steps top))
      (Check.innermost >>= fun label =>
        .nextArm rule label construct kind (types label)) := by
  intro env state grounded
  rcases opened : state.labels with _ | ⟨label, outer⟩
  · rw [innermost_bind_of_closed opened, Check.innermost_bind_of_closed opened]
  · have removed : (Check.checkResults label construct construct env state).state.labels =
        label :: outer := by
      rw [Check.check_results_state, State.remove_labels, opened]
    rw [innermost_bind_of_open opened, Check.innermost_bind_of_open opened]
    apply also_of_some (require_kind_innermost opened rule)
    exact also_of_some (check_results_innermost grounded opened construct construct)
      (begun removed)

theorem else_arm : Agrees .elseArm .elseArm :=
  next_arm else_steps

theorem catch_arm (values : List ValueType) : Agrees (.catchArm values) (.catchArm values) :=
  next_arm fun opened => catch_steps opened values

theorem end_region : Agrees .endRegion .endRegion := by
  intro env state grounded
  rcases opened : state.labels with _ | ⟨label, outer⟩
  · rw [Guarded.endRegion, innermost_bind_of_closed opened, Check.endRegion,
      Check.innermost_bind_of_closed opened]
  · rw [Guarded.endRegion, innermost_bind_of_open opened,
      label_at_bind (State.label_at_innermost opened), Check.endRegion,
      Check.innermost_bind_of_open opened]
    by_cases conditional : label.kind = .ifThen
    · have continued := Check.else_arm_confined env state grounded
      have after : (Check.elseArm env state).state.labels =
          { label with kind := .elseArm, unreachable := false } :: outer := by
        rw [Check.else_arm_state_of_open opened]
        simp [State.beginArm, opened]
      have tried := attempt else_arm env state grounded
      have settled : Guarded.of (.settle (Check.elseArm env state).result) env
          (Check.elseArm env state).state =
          some ⟨(Check.elseArm env state).result, (Check.elseArm env state).state, []⟩ := rfl
      have left := @leave_region_innermost env _ _ _ continued.grounded after
        LabelKind.elseArm.text LabelKind.elseArm.text
      rw [if_pos conditional, if_pos conditional, bind_of_ok tried,
        label_at_bind (State.label_at_innermost after), also_of_some settled left]
      rfl
    · have tried : (Guarded.of (.pure ())).attempt env state =
          some ⟨.ok (.ok ()), state, []⟩ := rfl
      have settled : Guarded.of (.settle (.ok ())) env state = some ⟨.ok (), state, []⟩ := rfl
      have left := @leave_region_innermost env _ _ _ grounded opened
        label.kind.text label.kind.text
      rw [if_neg conditional, if_neg conditional, bind_of_value tried,
        label_at_bind (State.label_at_innermost opened), also_of_some settled left]
      rfl

theorem delegate (depth : Nat) : Agrees (.delegate depth) (.delegate depth) := by
  intro env state grounded
  rw [Guarded.delegate, Check.delegate, Check.resolve]
  rcases resolved : state.resolve (min (depth + 1) Check.greatestDepth) with complaint | label
  · rw [resolve_bind_of_error resolved, Check.ask_bind_of_error resolved]
  · rw [resolve_bind_of_ok ((state.resolve_eq_ok_iff _ label).mp resolved),
      Check.ask_bind_of_ok resolved]
    exact close_under _ _ _ env state grounded

theorem rethrow (depth : Nat) : Agrees (.rethrow depth) (.rethrow depth) := by
  intro env state grounded
  rw [Guarded.rethrow, Check.rethrow]
  rcases resolved : state.resolve depth with complaint | label
  · have refused : state.checkRethrow depth = .error complaint := by
      simp only [State.checkRethrow, resolved]
    rw [resolve_bind_of_error resolved, Check.ask_bind_of_error refused]
  · have found := (state.resolve_eq_ok_iff depth label).mp resolved
    have answer : (if label.kind = .catchArm then .ok ()
        else if state.catchDepths.isEmpty then .error ⟨.rethrowOutsideCatch, .rethrowTarget⟩
        else .error ⟨.rethrowTarget depth state.catchDepths, .rethrowTarget⟩) =
        state.checkRethrow depth := by
      simp only [State.checkRethrow, resolved]
    rw [resolve_bind_of_ok found, label_at_bind (State.label_at_of_depth found)]
    rcases checked : state.checkRethrow depth with complaint | _
    · rw [Check.ask_bind_of_error checked]
      apply bind_of_error
      apply ask_of_error
      rw [answer, checked]
    · rw [Check.ask_bind_of_ok checked]
      rw [bind_of_value (ask_of_ok (by rw [answer, checked]))]
      exact set_unreachable env state grounded

theorem catch_count (depth : Nat) : Agrees (.catchCount depth) (.catchCount depth) := by
  intro env state grounded
  rw [Guarded.catchCount, Check.catchCount, Check.resolve]
  rcases resolved : state.resolve depth with complaint | label
  · rw [resolve_bind_of_error resolved, Check.ask_bind_of_error resolved]
  · have found := (state.resolve_eq_ok_iff depth label).mp resolved
    obtain ⟨bound, _⟩ := List.getElem?_eq_some_iff.mp found
    have slice : state.labelsFrom? (state.labels.length - 1 - depth) =
        some (state.labels.take (depth + 1)).reverse := by
      rw [State.labelsFrom?, if_pos (by omega), List.reverse_take]
      congr 2
      omega
    have seen : Guarded.view (fun _ later =>
        later.labelsFrom? (state.labels.length - 1 - depth)) env state =
        some ⟨.ok (state.labels.take (depth + 1)).reverse, state, []⟩ := by
      simp only [Guarded.view, slice, Option.bind_eq_bind, Option.bind_some]
    rw [resolve_bind_of_ok found, Check.ask_bind_of_ok resolved, bind_of_value seen]
    simp only [Pure.pure, Guarded.of, Check.pure, Check.observe, List.countP_reverse]

/-! ## Branches, calls and selection -/

theorem effect (effect : Effect) : Agrees (.effect effect) effect.check :=
  also (pop_signatures _ _) (.pop_signatures _ _) (of _)

theorem keep_table (types : State → Option (List ValueType)) :
    Agrees (.keepTable types) (.modify fun state => { state with tableTypes := types state }) :=
  change _

theorem drop : Agrees .drop .drop := by
  apply bind (attempt (drop_types 1)) (.attempt (.drop_types 1))
  intro verdict
  exact explain verdict fun state grounded => State.mismatch_at_eq grounded _ _ _

theorem select (declared : Option ValueType) : Agrees (.select declared) (.select declared) := by
  apply bind (view fun env state grounded => select_verdict_eq grounded declared) (.observe _)
  rintro ⟨verdict, type⟩
  apply cons (explain verdict fun state grounded => State.mismatch_at_eq grounded _ _ _)
    (.explain _ _)
  exact cons (drop_types 3) (.drop_types 3) (cons (of _) (.push_types _) nil)

theorem br (depth : Nat) : Agrees (.br depth) (.br depth) :=
  resolved depth fun _ => also (check_signature _ _) (.check_signature _ _) set_unreachable

theorem br_if (depth : Nat) : Agrees (.brIf depth) (.brIf depth) := by
  apply bind (attempt (pop_signature _ _)) (.attempt (.pop_signature _ _))
  intro condition
  apply resolved depth
  intro label
  apply cons (of _) (.settle _)
  exact cons (pop_signature _ _) (.pop_signature _ _) (cons (of _) (.push_types _) nil)

theorem br_table_target (depth : Nat) : Agrees (.brTableTarget depth) (.brTableTarget depth) := by
  apply resolved depth
  intro label
  apply cons (check_signature _ _) (.check_signature _ _)
  exact cons (of _) (.ask _) (cons (keep_table _) (.keep_table _) nil)

theorem br_on_null (depth : Nat) : Agrees (.brOnNull depth) (.brOnNull depth) := by
  apply bind (pop_reference _) (.pop_reference _)
  rintro ⟨type, verdict⟩
  apply resolved depth
  intro label
  apply cons (of _) (.settle _)
  exact cons (check_signature _ _) (.check_signature _ _) (cons (of _) (.push_types _) nil)

theorem br_on_non_null (depth : Nat) : Agrees (.brOnNonNull depth) (.brOnNonNull depth) := by
  apply bind (pop_reference _) (.pop_reference _)
  rintro ⟨type, verdict⟩
  apply resolved depth
  intro label
  cases label.branchTypes.getLast?
  · exact also (of _) (.settle _) (of _)
  · apply cons (of _) (.settle _)
    apply cons (of _) (.bind (.observe _) fun _ => .explain _ _)
    exact cons (check_signature _ _) (.check_signature _ _) nil

theorem throw_values (values : List ValueType) (construct : String) :
    Agrees (.throwValues values construct) (.throwValues values construct) :=
  also (pop_signature _ _) (.pop_signature _ _) set_unreachable

theorem try_table_catch (values : List ValueType) (depth : Nat) :
    Agrees (.tryTableCatch values depth) (.tryTableCatch values depth) := by
  intro env state grounded
  rw [Guarded.tryTableCatch]
  rcases resolved : state.resolve depth with complaint | label
  · rw [resolve_bind_of_error resolved]
    simp only [Check.tryTableCatch, Check.ask, checkCatchValues, resolved]
    rfl
  · have found := (state.resolve_eq_ok_iff depth label).mp resolved
    rw [resolve_bind_of_ok found, label_at_bind (State.label_at_of_depth found)]
    simp only [Check.tryTableCatch, Guarded.of, Check.ask, checkCatchValues, resolved]

theorem leave_with (results : List ValueType) : Agrees (.leaveWith results) (.leaveWith results) :=
  outermost fun _ => also (of _) (.ask _) set_unreachable

theorem tail_call (construct : String) (pops : List (List ValueType)) (results : List ValueType) :
    Agrees (.tailCall construct pops results) (.tailCall construct pops results) :=
  also (pop_signatures _ _) (.pop_signatures _ _) (leave_with results)

end Agrees

end Guarded

/-- Where the innermost limit does not exceed the height, no access of an
operation is out of range. -/
theorem Operation.run_guarded_agrees (operation : Operation) :
    operation.runGuarded.Agrees operation.run := by
  cases operation with
  | beginFunction results => exact .of _
  | endFunction => exact .close_under _ _ _
  | beginInitExpr type => exact .of _
  | endInitExpr => exact .close_under _ _ _
  | enter opening params results => exact .also (.pop_signatures _ _) (.pop_signatures _ _) (.of _)
  | elseArm => exact .else_arm
  | endBlock => exact .end_region
  | catchArm values => exact .catch_arm values
  | delegate depth => exact .delegate depth
  | rethrow depth => exact .rethrow depth
  | throwTag values => exact .throw_values _ _
  | throwRef => exact .throw_values _ _
  | beginTryTable params => exact .pop_signature _ _
  | tryTableCatch values depth => exact .try_table_catch values depth
  | finishTryTable params results => exact .of _
  | br depth => exact .br depth
  | brIf depth => exact .br_if depth
  | beginBrTable => exact .also (.keep_table _) (.keep_table _) (.pop_signature _ _)
  | brTableTarget depth => exact .br_table_target depth
  | endBrTable => exact .also (.keep_table _) (.keep_table _) .set_unreachable
  | brOnNull depth => exact .br_on_null depth
  | brOnNonNull depth => exact .br_on_non_null depth
  | callRef type => exact .bind (.of _) (.ask _) fun _ => .effect _
  | returnValues =>
      exact .outermost fun _ => .also (.pop_signature _ _) (.pop_signature _ _) .set_unreachable
  | returnCall params results => exact .tail_call _ _ _
  | returnCallIndirect params results table => exact .tail_call _ _ _
  | returnCallRef type => exact .bind (.of _) (.ask _) fun _ => .tail_call _ _ _
  | plain instruction => exact .effect _
  | lane op index => exact .also (.of _) (.check_lane _ _ _) (.effect _)
  | shuffle op lanes =>
      refine .also (.all_map (fun _ => .of _) (fun _ => .check_lane _ _ _) lanes) ?_ (.effect _)
      apply Check.Edits.all
      intro check member
      obtain ⟨lane, _, rfl⟩ := List.mem_map.mp member
      exact .check_lane _ _ _
  | laneAccess op memory index => exact .also (.of _) (.check_lane _ _ _) (.effect _)
  | drop => exact .drop
  | select declared => exact .select declared
  | unreachable => exact .set_unreachable
  | refIsNull =>
      exact .bind (.pop_reference _) (.pop_reference _) fun _ => .also (.of _) (.settle _) (.of _)
  | refAsNonNull =>
      exact .bind (.pop_reference _) (.pop_reference _) fun _ => .also (.of _) (.settle _) (.of _)
  | checkType actual expected => exact .of _
  | checkTypes actual expected => exact .of _
  | dropTypes count => exact .drop_types count

end WasmTyping
