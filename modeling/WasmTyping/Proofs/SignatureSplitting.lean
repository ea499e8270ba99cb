import Mathlib.Control.Monad.Basic
import WasmTyping.Proofs.StackDiscipline

/-!
# Signatures in pieces

A signature is compared as a whole before any operand is removed. If it is cut into pieces
that are popped one after the other from the top, the deeper pieces are compared with a
stack from which operands are already missing. Both ways see the same operands, since what
is removed moves every later depth by as much. This holds below the region as well, where a
removal stops at the limit and an unreachable region makes up for what it does not have.
-/

set_option autoImplicit false

namespace WasmTyping

/-! ## Operands after a removal -/

namespace State

variable (state : State)

@[simp] theorem discard_zero : state.discard 0 = state := by
  have whole : state.operands.length ≤ max state.limit (state.operands.length - 0) :=
    Nat.le_max_right _ _
  rw [discard, List.take_of_length_le whole]

@[simp] theorem discard_limit (count : Nat) : (state.discard count).limit = state.limit := rfl

/-- Removals add up. A limit above the stack leaves nothing to remove. -/
theorem discard_discard (first second : Nat) :
    (state.discard first).discard second = state.discard (first + second) := by
  have kept : min (max state.limit
        (min (max state.limit (state.operands.length - first)) state.operands.length - second))
      (max state.limit (state.operands.length - first)) =
        max state.limit (state.operands.length - (first + second)) := by
    omega
  rw [discard, discard_limit]
  simp only [discard, List.take_take, List.length_take]
  rw [kept]

theorem discard_region (count : Nat) :
    (state.discard count).region = state.region.take (state.region.length - count) := by
  have kept : max state.limit (state.operands.length - count) - state.limit =
      state.operands.length - state.limit - count := by
    omega
  rw [region, discard_limit, region, List.length_drop, discard, List.drop_take, kept]

/-- What is removed moves every depth by as much, inside the region and below it. -/
theorem peek_discard (count depth : Nat) :
    (state.discard count).peek depth = state.peek (count + depth) := by
  have moved : (state.discard count).region.reverse[depth]? =
      state.region.reverse[count + depth]? := by
    rw [discard_region, List.reverse_take, List.getElem?_drop]
    by_cases enough : count ≤ state.region.length
    · rw [Nat.sub_sub_self enough]
    · -- Both depths are below the region.
      have size : state.region.reverse.length = state.region.length := List.length_reverse
      rw [List.getElem?_eq_none (by omega), List.getElem?_eq_none (by omega)]
  unfold peek
  rw [moved]
  rfl

end State

/-- The lower part of a signature is compared with what is left below the upper part. -/
theorem signature_verdict_append (env : Environment) (state : State)
    (lower upper : List ValueType) :
    signatureVerdict env state (lower ++ upper) =
      Verdict.and (signatureVerdict env (state.discard upper.length) lower)
        (signatureVerdict env state upper) := by
  induction lower with
  | nil => rfl
  | cons expected rest ih =>
      have seen : operandVerdict env (state.discard upper.length) rest.length expected =
          operandVerdict env state (rest ++ upper).length expected := by
        rw [operandVerdict, operandVerdict, State.peek_discard, List.length_append, Nat.add_comm]
      rw [List.cons_append, signatureVerdict, signatureVerdict, seen, ih, Verdict.and_assoc]

/-! ## Signatures that are removed in pieces -/

namespace Check

variable {env : Environment} {state : State}

theorem pop_signature_append_state (opened : state.labels ≠ []) (lower upper : List ValueType)
    (construct below above : String) :
    (popSignature (lower ++ upper) construct env state).state =
      (popSignature lower below env (popSignature upper above env state).state).state := by
  obtain ⟨label, outer, labels⟩ := List.exists_cons_of_ne_nil opened
  have still : (state.discard upper.length).labels = label :: outer := labels
  rw [pop_signature_state, pop_signature_state, pop_signature_state, State.remove_of_open labels,
    State.remove_of_open labels, State.remove_of_open still, State.discard_discard,
    List.length_append, Nat.add_comm]

/-- The whole signature is faulty if a piece is. It names the fault of the lower piece first,
although that is popped last. -/
theorem pop_signature_append_result (opened : state.labels ≠ []) (lower upper : List ValueType)
    (construct below above : String) :
    (popSignature (lower ++ upper) construct env state).result =
      Verdict.and
        (popSignature lower below env (popSignature upper above env state).state).result
        (popSignature upper above env state).result := by
  obtain ⟨label, outer, labels⟩ := List.exists_cons_of_ne_nil opened
  have still : (state.discard upper.length).labels ≠ [] := opened
  rw [pop_signature_result opened, pop_signature_result opened, pop_signature_state,
    State.remove_of_open labels, pop_signature_result still, signature_verdict_append]

theorem pop_signature_append_ok_iff (opened : state.labels ≠ []) (lower upper : List ValueType)
    (construct below above : String) :
    (popSignature (lower ++ upper) construct env state).result = .ok () ↔
      (popSignature upper above env state).result = .ok () ∧
        (popSignature lower below env (popSignature upper above env state).state).result =
          .ok () := by
  rw [pop_signature_append_result opened lower upper construct below above,
    Verdict.and_eq_ok_iff, and_comm]

/-- Pieces of a signature, listed from the top of the stack, agree with the whole. -/
theorem pop_signatures_agree (opened : state.labels ≠ []) (pieces : List (List ValueType))
    (construct : String) :
    let whole := popSignature pieces.reverse.flatten construct env state
    let piecewise := popSignatures pieces construct env state
    (whole.result = .ok () ↔ piecewise.result = .ok ()) ∧ whole.state = piecewise.state := by
  induction pieces generalizing state with
  | nil =>
      obtain ⟨label, outer, labels⟩ := List.exists_cons_of_ne_nil opened
      constructor
      · rw [pop_signature_result opened]
        exact Iff.rfl
      · rw [pop_signature_state, State.remove_of_open labels]
        exact state.discard_zero
  | cons upper rest ih =>
      have still : (popSignature upper construct env state).state.labels ≠ [] := by
        rw [pop_signature_state, State.remove_labels]
        exact opened
      obtain ⟨verdicts, states⟩ := ih still
      have joined : (upper :: rest).reverse.flatten = rest.reverse.flatten ++ upper := by simp
      rw [joined]
      constructor
      · rw [pop_signature_append_ok_iff opened _ _ construct construct construct, verdicts,
          popSignatures, popSignatures, List.map_cons, all_cons, also_result,
          Verdict.and_eq_ok_iff]
      · rw [pop_signature_append_state opened _ _ construct construct construct, states]
        rfl

end Check

/-- In every state with an open label, whether the region is reachable or not, a signature
can be cut anywhere: to pop the whole succeeds exactly if popping the upper part and then
the lower one does, and leaves the same state in any case. So popping a signature agrees
with popping its types one at a time from the last. -/
theorem signatures_pop_in_pieces (env : Environment) {state : State}
    (opened : state.labels ≠ []) :
    (∀ (lower upper : List ValueType) (construct below above : String),
      let whole := Check.popSignature (lower ++ upper) construct env state
      let first := Check.popSignature upper above env state
      let second := Check.popSignature lower below env first.state
      (whole.result = .ok () ↔ first.result = .ok () ∧ second.result = .ok ()) ∧
        whole.state = second.state) ∧
    ∀ (signature : List ValueType) (construct : String),
      let whole := Check.popSignature signature construct env state
      let singly := Check.popSignatures (signature.reverse.map fun type => [type]) construct env
        state
      (whole.result = .ok () ↔ singly.result = .ok ()) ∧ whole.state = singly.state := by
  constructor
  · intro lower upper construct below above
    exact ⟨Check.pop_signature_append_ok_iff opened lower upper construct below above,
      Check.pop_signature_append_state opened lower upper construct below above⟩
  · intro signature construct
    have joined : (signature.reverse.map fun type => [type]).reverse.flatten = signature := by
      rw [← List.map_reverse, List.reverse_reverse, ← List.flatMap_def, List.flatMap_singleton']
    have agree := @Check.pop_signatures_agree env state opened
      (signature.reverse.map fun type => [type]) construct
    rw [joined] at agree
    exact agree

/-- Dead code with two operands above one of the function. The lower part of a signature
takes one of the two and an unknown operand. Where the last two types do not fit, neither
way succeeds, and both leave the operand of the function alone. -/
theorem lower_part_takes_unknown_operand :
    let env : Environment := ⟨.empty, .all⟩
    let state := State.empty.after env
      [.beginFunction [], .plain (.constant .f64), .enter .block [] [], .unreachable,
        .plain (.constant .i64), .plain (.constant .f32)]
    let first := Check.popSignature [.f32] "if" env state
    let second := Check.popSignature [.i32, .i64] "if" env first.state
    let whole := Check.popSignature [.i32, .i64, .f32] "call" env state
    let failing := Check.popSignature [.f64, .f32, .i64] "call" env state
    let singly := Check.popSignatures [[.i64], [.f32], [.f64]] "call" env state
    state.labels ≠ [] ∧ state.operands = [.f64, .i64, .f32] ∧
      first.result = .ok () ∧ second.result = .ok () ∧ whole.result = .ok () ∧
      whole.state = second.state ∧ second.state.operands = [.f64] ∧
      failing.result ≠ .ok () ∧ singly.result ≠ .ok () ∧ failing.state = singly.state := by
  intro env state first second whole failing singly
  have opened : state.labels ≠ [] := by decide +kernel
  have above : first.result = .ok () := by decide +kernel
  have below : second.result = .ok () := by decide +kernel
  have fails : failing.result ≠ .ok () := by decide +kernel
  obtain ⟨parts, types⟩ := signatures_pop_in_pieces env opened
  obtain ⟨verdict, same⟩ := parts [.i32, .i64] [.f32] "call" "if" "if"
  obtain ⟨each, left⟩ := types [.f64, .f32, .i64] "call"
  refine ⟨opened, by decide +kernel, above, below, verdict.mpr ⟨above, below⟩, same,
    by decide +kernel, fails, ?_, left⟩
  intro succeeded
  exact fails (each.mpr succeeded)

end WasmTyping
