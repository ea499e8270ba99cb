import WasmTyping.Proofs.ClosingConditions

/-!
# Ways out of a function

A `return` removes the results of the function before it leaves, a branch to the outermost
label only looks at them, and a tail call compares the results of its callee with those of
the function without putting them on the stack. The three agree: a `return` is a branch to
the outermost label, and a tail call that is accepted is a call followed by a `return`.
-/

set_option autoImplicit false

namespace WasmTyping

/-! ## Operands that are pushed and found again -/

section Pushed

variable {state : State} {label : Label} {outer : List Label}
  (opened : state.labels = label :: outer) (grounded : state.limit ≤ state.operands.length)

include opened grounded

theorem State.mark_unreachable_push (types : List ValueType) :
    (state.push types).markUnreachable = state.markUnreachable := by
  have reached : label.limit ≤ state.operands.length := by
    simpa only [State.limit, opened] using grounded
  simp only [State.markUnreachable, State.push, opened, List.take_append_of_le_length reached]

/-- Operands that fit a signature pass it once they are pushed, whatever lies below them. -/
theorem signature_verdict_push {env : Environment} {found expected : List ValueType}
    (fits : env.types.allCompatible found expected = true) :
    signatureVerdict env (state.push found) expected = .ok () := by
  have shown : ((⟨state.region, label.unreachable⟩ : Region).push found).top expected.length =
      some found := by
    rw [← all_compatible_length fits]
    exact Region.top_of_known state.region found label.unreachable
  rw [State.eq_keeping opened grounded, Surroundings.keeping_push, Surroundings.keeping,
    Check.signature_verdict_keeping, signature_verdict_ok_iff]
  exact ⟨found, shown, fits⟩

end Pushed

namespace Check

variable {env : Environment} {state next : State} {label : Label}

/-! ## Return -/

section Return

variable (last : state.labels.getLast? = some label)

include last

theorem return_values_result :
    (returnValues env state).result = signatureVerdict env state label.results := by
  have opened : state.labels ≠ [] := List.ne_nil_of_mem (List.mem_of_getLast? last)
  have still : (state.remove label.results.length).labels ≠ [] := by
    rw [State.remove_labels]
    exact opened
  rw [returnValues, outermost_bind_of_some last, also_result, pop_signature_result opened,
    pop_signature_state, set_unreachable_result still, Verdict.and_ok]

theorem return_values_state : (returnValues env state).state = state.markUnreachable := by
  rw [returnValues, outermost_bind_of_some last, also_state, pop_signature_state,
    set_unreachable_state, State.mark_unreachable_remove]

end Return

/-! ## Tail calls -/

/-- What operands are removed for plays no part in whether they can be. -/
theorem pop_signatures_accepted_congr (pops : List (List ValueType)) (construct other : String) :
    (popSignatures pops construct).accepted env state =
      (popSignatures pops other).accepted env state := by
  induction pops generalizing state with
  | nil => rfl
  | cons signature rest ih =>
      have checked : (checkSignature signature construct).accepted env state =
          (checkSignature signature other).accepted env state := by
        simp only [accepted, check_signature_result, check_signature_state]
      have step (name : String) : (popSignatures (signature :: rest) name).accepted env state =
          ((popSignature signature name).accepted env state).bind
            ((popSignatures rest name).accepted env) :=
        also_accepted env state _ _
      have continued : (popSignatures rest construct).accepted env =
          (popSignatures rest other).accepted env := by
        funext after
        exact ih
      rw [step, step, continued, popSignature, popSignature, also_accepted, also_accepted, checked]

/-- The results of a callee that leaves the body are results of the body. -/
theorem leave_with_accepted {results : List ValueType}
    (left : (leaveWith results).accepted env state = some next) :
    ∃ label, state.labels.getLast? = some label ∧
      env.types.allCompatible results label.results = true ∧ next = state.markUnreachable := by
  rw [leaveWith, outermost_bind_accepted] at left
  obtain ⟨label, last, left⟩ := Option.bind_eq_some_iff.mp left
  refine ⟨label, last, ?_, ?_⟩
  · rw [also_accepted, ask_accepted, checkTailResults] at left
    split at left
    · assumption
    · cases left
  · rw [← state_of_accepted left, also_state, ask_state, set_unreachable_state]

/-- A tail call that is accepted is a call and a `return`. -/
theorem call_and_return_of_tail_call (grounded : state.limit ≤ state.operands.length)
    {construct : String} {pops : List (List ValueType)} {results : List ValueType}
    (accepted : (tailCall construct pops results).accepted env state = some next)
    (call : String) :
    ∃ middle, (Effect.check ⟨call, pops, results⟩).accepted env state = some middle ∧
      returnValues.accepted env middle = some next := by
  rw [tailCall, also_accepted] at accepted
  obtain ⟨popped, removed, left⟩ := Option.bind_eq_some_iff.mp accepted
  obtain ⟨label, last, fits, rfl⟩ := leave_with_accepted left
  have ground : popped.limit ≤ popped.operands.length := by
    rw [← state_of_accepted removed]
    exact ((Edits.pop_signatures pops construct env state).confined grounded).grounded
  obtain ⟨inner, outer, opened⟩ : ∃ inner outer, popped.labels = inner :: outer :=
    List.exists_cons_of_ne_nil (List.ne_nil_of_mem (List.mem_of_getLast? last))
  have pushed : (popped.push results).labels.getLast? = some label := last
  refine ⟨popped.push results, ?_, ?_⟩
  · rw [Effect.check, also_accepted, pop_signatures_accepted_congr pops call construct, removed]
    rfl
  · have returned : (returnValues env (popped.push results)).result = .ok () := by
      rw [return_values_result pushed, signature_verdict_push opened ground fits]
    rw [accepted_of_ok returned, return_values_state pushed,
      State.mark_unreachable_push opened ground]

end Check

/-- Where a tail call succeeds, so do a call and then a `return`, and both ways lead to the
same state. -/
def Operation.IsCallAndReturn (tail call : Operation) (env : Environment) (state : State) :
    Prop :=
  (tail.run env state).result = .ok () →
    let called := call.run env state
    let returned := Operation.returnValues.run env called.state
    called.result = .ok () ∧ returned.result = .ok () ∧
      returned.state = (tail.run env state).state

namespace Operation

variable {env : Environment} {state : State} {tail call : Operation}

theorem IsCallAndReturn.of_accepted
    (splits : ∀ next, tail.run.accepted env state = some next →
      ∃ middle, call.run.accepted env state = some middle ∧
        Check.returnValues.accepted env middle = some next) :
    tail.IsCallAndReturn call env state := by
  intro succeeded
  obtain ⟨middle, called, returned⟩ := splits _ (Check.accepted_of_ok succeeded)
  have reached := Check.state_of_accepted called
  subst reached
  exact ⟨Check.ok_of_accepted called, Check.ok_of_accepted returned,
    Check.state_of_accepted returned⟩

/-- A call through a reference and its tail call resolve the type first. -/
theorem IsCallAndReturn.of_reference (grounded : state.limit ≤ state.operands.length)
    (index : Nat) : (returnCallRef index).IsCallAndReturn (callRef index) env state := by
  apply of_accepted
  intro next accepted
  simp only [run, Check.callRef, Check.returnCallRef, Check.resolveType,
    Check.ask_bind_accepted] at accepted ⊢
  obtain ⟨type, found, accepted⟩ := Option.bind_eq_some_iff.mp accepted
  rw [found]
  exact Check.call_and_return_of_tail_call grounded accepted "call_ref"

end Operation

/-- In every state that steps can lead to and that has an open label: unless the outermost
label is that of a loop, a `return` and a branch to it have the same verdict and lead to the
same state; and a tail call that succeeds, of a function, through a table or through a
reference, can be replaced by the call and a `return`. -/
theorem function_exits_agree (env : Environment) (operations : List Operation) {label : Label}
    (last : (State.empty.after env operations).labels.getLast? = some label) :
    let state := State.empty.after env operations
    (label.kind ≠ .loop →
      let exit := Operation.returnValues.run env state
      let branch := (Operation.br (state.labels.length - 1)).run env state
      exit.result = branch.result ∧ exit.state = branch.state) ∧
    (∀ params results, (Operation.returnCall params results).IsCallAndReturn
      (.plain (.call params results)) env state) ∧
    (∀ params results table, (Operation.returnCallIndirect params results table).IsCallAndReturn
      (.plain (.callIndirect params results table)) env state) ∧
    ∀ index, (Operation.returnCallRef index).IsCallAndReturn (.callRef index) env state := by
  intro state
  have grounded : state.limit ≤ state.operands.length :=
    (State.empty_disciplined.after env operations).grounded
  refine ⟨?_, ?_, ?_, ?_⟩
  · intro other exit branch
    have named : state.labels[state.labels.length - 1]? = some label := by
      rw [← List.getLast?_eq_getElem?]
      exact last
    have carried : label.branchTypes = label.results := if_neg other
    constructor
    · show (Check.returnValues env state).result = (Check.br _ env state).result
      rw [Check.return_values_result last, Check.br_result named, carried]
    · show (Check.returnValues env state).state = (Check.br _ env state).state
      rw [Check.return_values_state last, Check.br_state named]
  · intro params results
    apply Operation.IsCallAndReturn.of_accepted
    intro next accepted
    exact Check.call_and_return_of_tail_call grounded accepted "call"
  · intro params results table
    apply Operation.IsCallAndReturn.of_accepted
    intro next accepted
    exact Check.call_and_return_of_tail_call grounded accepted "call_indirect"
  · intro index
    exact Operation.IsCallAndReturn.of_reference grounded index

/-- A tail call through a reference from inside two blocks, whose callee returns a reference
that is never null where the function may return null. A `return` in its place finds no such
reference, and no more does a branch to the function. -/
theorem nested_tail_call_returns :
    let types : Registry := Registry.empty.insert 3 ⟨[.i32], [.externref false]⟩
    let env : Environment := ⟨types, .all⟩
    let operations : List Operation :=
      [.beginFunction [.externref true], .enter .block [] [], .enter .loop [] [.i64],
        .plain (.constant .i32), .plain (.refNull (.ref 3 true))]
    let state := State.empty.after env operations
    let tail := (Operation.returnCallRef 3).run env state
    let called := (Operation.callRef 3).run env state
    let returned := Operation.returnValues.run env called.state
    let exit := Operation.returnValues.run env state
    tail.result = .ok () ∧ called.result = .ok () ∧ returned.result = .ok () ∧
      returned.state = tail.state ∧ exit.result ≠ .ok () ∧
      ((Operation.br 2).run env state).result = exit.result := by
  intro types env operations state tail called returned exit
  have last : state.labels.getLast? = some ⟨.function, [], [.externref true], 0, false⟩ := by
    decide +kernel
  have succeeded : tail.result = .ok () := by decide +kernel
  have failed : exit.result ≠ .ok () := by decide +kernel
  have depth : state.labels.length - 1 = 2 := by decide +kernel
  obtain ⟨exits, -, -, reference⟩ := function_exits_agree env operations last
  obtain ⟨first, second, same⟩ := reference 3 succeeded
  have branch := (exits nofun).1
  rw [depth] at branch
  exact ⟨succeeded, first, second, same, failed, branch.symm⟩

end WasmTyping
