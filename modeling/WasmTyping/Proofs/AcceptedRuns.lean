import WasmTyping.Body.Validation
import WasmTyping.Proofs.Effects

/-!
# Accepted runs

A check that succeeds takes a state to a state, and a check that fails to none.
Seen this way the ways of going on are composition of partial functions, and a
body is accepted exactly when its instructions are, one after the other, and the
last of them closes the body. Diagnostics and the settings that limit them play
no part.
-/

set_option autoImplicit false

namespace WasmTyping

namespace Check

variable {α : Type} (env : Environment) (state : State)

/-- The state a check leaves, where it succeeds. -/
def accepted (check : Check Unit) (env : Environment) (state : State) : Option State :=
  match (check env state).result with
  | .ok _ => some (check env state).state
  | .error _ => none

theorem accepted_of_ok {check : Check Unit} {env : Environment} {state : State}
    (succeeded : (check env state).result = .ok ()) :
    check.accepted env state = some (check env state).state := by
  simp only [accepted, succeeded]

theorem accepted_of_error {check : Check Unit} {env : Environment} {state : State}
    {fault : Fault} (failed : (check env state).result = .error fault) :
    check.accepted env state = none := by
  simp only [accepted, failed]

theorem state_of_accepted {check : Check Unit} {env : Environment} {state next : State}
    (succeeded : check.accepted env state = some next) : (check env state).state = next := by
  unfold accepted at succeeded
  split at succeeded
  · exact Option.some.inj succeeded
  · cases succeeded

theorem ok_of_accepted {check : Check Unit} {env : Environment} {state next : State}
    (succeeded : check.accepted env state = some next) :
    (check env state).result = .ok () := by
  unfold accepted at succeeded
  split at succeeded
  · assumption
  · cases succeeded

/-- A check is known by when it succeeds and where it then leads. -/
theorem accepted_eq_map {check : Check Unit} {env : Environment} {state : State}
    {possible : Option α} {lead : α → State}
    (agrees : (check env state).result = .ok () ↔ possible.isSome = true)
    (reached : ∀ value, possible = some value → (check env state).state = lead value) :
    check.accepted env state = possible.map lead := by
  cases possible with
  | none =>
      cases failed : (check env state).result with
      | error fault => exact accepted_of_error failed
      | ok _ =>
          have impossible := agrees.mp failed
          cases impossible
  | some value =>
      rw [accepted_of_ok (agrees.mpr rfl), reached value rfl]
      rfl

@[simp] theorem also_accepted (first second : Check Unit) :
    (first.also second).accepted env state =
      (first.accepted env state).bind (second.accepted env) := by
  cases before : (first env state).result with
  | error fault =>
      have failed : ((first.also second) env state).result = .error fault := by
        rw [also_result, before]
        rfl
      rw [accepted_of_error failed, accepted_of_error before]
      rfl
  | ok _ =>
      have same : ((first.also second) env state).result =
          (second env (first env state).state).result := by
        rw [also_result, before]
        rfl
      rw [accepted_of_ok before, Option.bind_some]
      simp only [accepted, same, also_state]

@[simp] theorem all_append_accepted (first second : List (Check Unit)) :
    (all (first ++ second)).accepted env state =
      ((all first).accepted env state).bind ((all second).accepted env) := by
  induction first generalizing state with
  | nil => rfl
  | cons check rest ih =>
      rw [List.cons_append, all_cons, all_cons, also_accepted, also_accepted,
        Option.bind_assoc]
      congr 1
      funext next
      exact ih next

@[simp] theorem all_singleton_accepted (check : Check Unit) :
    (all [check]).accepted env state = check.accepted env state := by
  rw [all_cons, also_accepted]
  cases check.accepted env state <;> rfl

theorem all_pair_accepted (first second : Check Unit) :
    (all [first, second]).accepted env state = (first.also second).accepted env state := by
  rw [all_cons, also_accepted, also_accepted]
  congr 1
  funext next
  exact all_singleton_accepted env next second

@[simp] theorem modify_accepted (change : State → State) :
    (modify change).accepted env state = some (change state) := rfl

@[simp] theorem act_accepted (change : State → State) (log : State → List Event) :
    (act change log).accepted env state = some (change state) := rfl

@[simp] theorem push_types_accepted (types : List ValueType) :
    (pushTypes types).accepted env state = some (state.push types) := rfl

theorem ask_bind_accepted (question : Environment → State → Except Complaint α)
    (next : α → Check Unit) :
    (ask question >>= next).accepted env state =
      (question env state).toOption.bind fun value => (next value).accepted env state := by
  cases answer : question env state with
  | error complaint =>
      have refused := @ask_bind_of_error α Unit env state question next complaint answer
      exact accepted_of_error (congrArg Outcome.result refused)
  | ok value =>
      have answered := @ask_bind_of_ok α Unit env state question next value answer
      simp only [accepted, answered]
      rfl

theorem ask_accepted (question : Environment → State → Except Complaint Unit) :
    (ask question).accepted env state = (question env state).toOption.map fun _ => state := by
  cases answer : question env state with
  | error complaint =>
      have failed : (ask question env state).result = .error complaint.fault := by
        simp only [ask, answer]
        rfl
      rw [accepted_of_error failed]
      rfl
  | ok _ =>
      have succeeded : (ask question env state).result = .ok () := by
        simp only [ask, answer]
        rfl
      rw [accepted_of_ok succeeded]
      rfl

theorem resolve_bind_accepted (depth : Nat) (next : Label → Check Unit) :
    (resolve depth >>= next).accepted env state =
      state.labels[depth]?.bind fun label => (next label).accepted env state := by
  rw [resolve, ask_bind_accepted, State.resolve_to_option]

theorem outermost_bind_accepted (next : Label → Check Unit) :
    (outermost >>= next).accepted env state =
      state.labels.getLast?.bind fun label => (next label).accepted env state := by
  rw [outermost, ask_bind_accepted, State.outermost_to_option]

theorem innermost_bind_accepted {state : State} {label : Label} {outer : List Label}
    (opened : state.labels = label :: outer) (next : Label → Check Unit) :
    (innermost >>= next).accepted env state = (next label).accepted env state := by
  rw [innermost, resolve_bind_accepted, opened]
  rfl

theorem observe_bind_accepted (view : Environment → State → α) (next : α → Check Unit) :
    (observe view >>= next).accepted env state = (next (view env state)).accepted env state := by
  unfold accepted
  rw [observe_bind_apply]

/-- Where a noted fault is fatal later on, to note it is as good as to stop. -/
theorem attempt_bind_accepted (check : Check Unit) (next : Verdict → Check Unit)
    (fatal : ∀ fault state, (next (.error fault)).accepted env state = none) :
    (attempt check >>= next).accepted env state =
      (check.accepted env state).bind ((next (.ok ())).accepted env) := by
  have carried : (attempt check >>= next).accepted env state =
      (next (check env state).result).accepted env (check env state).state := by
    unfold accepted
    rw [attempt_bind_apply]
  rw [carried]
  cases before : (check env state).result with
  | error fault =>
      rw [fatal, accepted_of_error before]
      rfl
  | ok _ =>
      rw [accepted_of_ok before]
      rfl

@[simp] theorem settle_ok_accepted : (settle (.ok ())).accepted env state = some state := rfl

@[simp] theorem settle_error_accepted (fault : Fault) :
    (settle (.error fault)).accepted env state = none := rfl

end Check

namespace Action

@[simp] theorem run_all_append_accepted (first second : List Action) (env : Environment)
    (state : State) :
    (runAll (first ++ second)).accepted env state =
      ((runAll first).accepted env state).bind ((runAll second).accepted env) := by
  unfold runAll
  rw [List.map_append, Check.all_append_accepted]

theorem accepted_of_append {first rest : List Action} {env : Environment} {state next : State}
    (accepted : (runAll (first ++ rest)).accepted env state = some next) :
    ∃ middle, (runAll first).accepted env state = some middle ∧
      (runAll rest).accepted env middle = some next := by
  rw [run_all_append_accepted] at accepted
  exact Option.bind_eq_some_iff.mp accepted

@[simp] theorem run_all_perform_accepted (operation : Operation) (env : Environment)
    (state : State) :
    (runAll [.perform operation]).accepted env state = operation.run.accepted env state :=
  Check.all_singleton_accepted env state operation.run

@[simp] theorem run_all_refuse_accepted (complaint : Complaint) (env : Environment)
    (state : State) : (runAll [.refuse complaint]).accepted env state = none := by
  show (Check.all [Check.complain complaint]).accepted env state = none
  rw [Check.all_singleton_accepted, Check.complain, Check.ask_accepted]
  rfl

end Action

theorem Outcome.explained_result (outcome : Outcome Unit) :
    outcome.explained.result = outcome.result := by
  unfold explained
  split
  · rfl
  · split <;> rfl

theorem Outcome.explained_state (outcome : Outcome Unit) :
    outcome.explained.state = outcome.state := by
  unfold explained
  split
  · rfl
  · split <;> rfl

namespace Scope

variable (scope : Scope)

section Immediates

variable (env : Environment) (state : State)

theorem requiring_accepted (feature : Feature) (name : String) (rest : List Action) :
    (Action.runAll (scope.requiring feature name rest)).accepted env state =
      if scope.features.enabled feature then (Action.runAll rest).accepted env state
      else none := by
  unfold requiring
  split
  · rfl
  · exact Action.run_all_refuse_accepted _ env state

theorem accepted_of_requiring {scope : Scope} {env : Environment} {state next : State}
    {feature : Feature} {name : String} {rest : List Action}
    (accepted : (Action.runAll (scope.requiring feature name rest)).accepted env state =
      some next) :
    scope.features.enabled feature = true ∧
      (Action.runAll rest).accepted env state = some next := by
  rw [requiring_accepted] at accepted
  exact Option.ite_none_right_eq_some.mp accepted

theorem accepted_of_requiring_simd {scope : Scope} {env : Environment} {state next : State}
    {op : Opcode} {rest : List Action}
    (accepted : (Action.runAll (scope.requiringSimdFor op rest)).accepted env state =
      some next) :
    (op.isSimd = true → scope.features.enabled .simd = true) ∧
      (Action.runAll rest).accepted env state = some next := by
  unfold requiringSimdFor at accepted
  split at accepted
  · obtain ⟨enabled, passed⟩ := accepted_of_requiring accepted
    exact ⟨fun _ => enabled, passed⟩
  · next plain => exact ⟨fun vector => absurd vector plain, accepted⟩

theorem resolving_accepted {α : Type} (found : Except IndexSpace α) (index : Nat)
    (rest : α → List Action) :
    (Action.runAll (resolving found index rest)).accepted env state =
      found.toOption.bind fun value => (Action.runAll (rest value)).accepted env state := by
  cases found with
  | ok value => rfl
  | error space => exact Action.run_all_refuse_accepted _ env state

end Immediates

/-- The state after an instruction of the body, where it is accepted. -/
def advance (state : State) (instruction : Instruction) : Option State :=
  (Action.runAll (scope.actions state.labels.length instruction)).accepted scope.environment state

theorem advance_eq {scope : Scope} {results : List ValueType}
    (function : scope.kind = .function results) (state : State) (instruction : Instruction) :
    scope.advance state instruction =
      (Action.runAll (scope.instructionActions state.labels.length instruction)).accepted
        scope.environment state := by
  unfold advance actions
  rw [function]

/-- An instruction of a constant expression is accepted only if it may stand there. -/
theorem admitted_of_advance {scope : Scope} {type : ValueType} {state next : State}
    {instruction : Instruction} (initializer : scope.kind = .initExpr type)
    (advanced : scope.advance state instruction = some next) :
    scope.readsMutableGlobal instruction = false ∧ scope.isConstant instruction = true ∧
      (Action.runAll (scope.instructionActions state.labels.length instruction)).accepted
        scope.environment state = some next := by
  rw [advance, actions, initializer] at advanced
  dsimp only at advanced
  split at advanced
  · rw [Action.run_all_refuse_accepted] at advanced
    cases advanced
  · rename_i immutable
    split at advanced
    · rename_i constant
      exact ⟨Bool.eq_false_iff.mpr immutable, constant, advanced⟩
    · rw [Action.run_all_refuse_accepted] at advanced
      cases advanced

/-- A constant expression accepts no instruction that a function would refuse. -/
theorem accepted_of_advance {scope : Scope} {state next : State} {instruction : Instruction}
    (advanced : scope.advance state instruction = some next) :
    (Action.runAll (scope.instructionActions state.labels.length instruction)).accepted
      scope.environment state = some next := by
  cases kind : scope.kind with
  | function results =>
      rw [advance_eq kind] at advanced
      exact advanced
  | initExpr type => exact (admitted_of_advance kind advanced).2.2

/-- The instructions are accepted one after the other, and the last of them, and
no other, closes the body. -/
def Completes : List Instruction → State → Prop
  | [], _ => False
  | instruction :: rest, state =>
    ∃ next, scope.advance state instruction = some next ∧
      if next.labels = [] then rest = [] else Completes rest next

theorem completes_of_advance {scope : Scope} {state next : State} {instruction : Instruction}
    {rest : List Instruction} (advanced : scope.advance state instruction = some next)
    (opened : next.labels ≠ []) (completes : scope.Completes rest next) :
    scope.Completes (instruction :: rest) state := by
  refine ⟨next, advanced, ?_⟩
  rwa [if_neg opened]

/-- Every instruction of a completed body was accepted in some state. -/
theorem Completes.advances {scope : Scope} {body : List Instruction} {state : State}
    (completes : scope.Completes body state) :
    ∀ instruction ∈ body, ∃ before next, scope.advance before instruction = some next := by
  induction body generalizing state with
  | nil => exact completes.elim
  | cons first rest ih =>
      obtain ⟨next, advanced, goesOn⟩ := completes
      refine List.forall_mem_cons.mpr ⟨⟨state, next, advanced⟩, ?_⟩
      split at goesOn
      · rw [goesOn]
        exact List.forall_mem_nil _
      · exact ih goesOn

theorem step_accepted (state : State) (instruction : Instruction) :
    scope.advance state instruction =
      match (scope.step false state instruction).result with
      | .ok _ => some (scope.step false state instruction).state
      | .error _ => none := by
  unfold advance step Check.accepted
  simp only [Outcome.explained_result, Outcome.explained_state, Bool.false_eq_true, if_false]

/-- A fault is never forgotten. -/
theorem walk_keeps_fault (config : Config) (body : List Instruction) (position : Nat)
    (closed : Bool) (progress : Progress) (fault : Fault)
    (failed : progress.verdict = .error fault) :
    (scope.walk config body position closed progress).verdict = .error fault := by
  induction body generalizing position closed progress with
  | nil =>
      unfold walk
      split
      · exact failed
      · simp only [Progress.absorb, failed, Verdict.and]
  | cons instruction rest ih =>
      have still : (progress.absorb config position
          (scope.step closed progress.state instruction)).verdict = .error fault := by
        simp only [Progress.absorb, failed, Verdict.and]
      unfold walk
      dsimp only
      split
      · exact still
      · exact ih _ _ _ still

theorem walk_after_close (config : Config) (body : List Instruction) (position : Nat)
    (progress : Progress) :
    (scope.walk config body position true progress).verdict = .ok () ↔
      progress.verdict = .ok () ∧ body = [] := by
  cases body with
  | nil => simp [walk]
  | cons instruction rest =>
      have refused : ∃ fault,
          (scope.step true progress.state instruction).result = .error fault := by
        refine ⟨.afterEnd, ?_⟩
        unfold step
        rw [Outcome.explained_result]
        rfl
      obtain ⟨fault, refused⟩ := refused
      simp only [walk, Bool.true_or, if_true, Progress.absorb, refused, Verdict.and_eq_ok_iff]
      simp

theorem walk_verdict_ok_iff (config : Config) (body : List Instruction) (position : Nat)
    (progress : Progress) :
    (scope.walk config body position false progress).verdict = .ok () ↔
      progress.verdict = .ok () ∧ scope.Completes body progress.state := by
  induction body generalizing position progress with
  | nil =>
      have missing : (scope.walk config [] position false progress).verdict =
          Verdict.and progress.verdict (.error .missingEnd) := rfl
      rw [missing, Verdict.and_eq_ok_iff]
      simp [Completes]
  | cons instruction rest ih =>
      simp only [Completes, step_accepted]
      cases stepped : (scope.step false progress.state instruction).result with
      | error fault =>
          -- Whether the walk stops here or goes on, the verdict holds a fault.
          have failed : ∃ first, (progress.absorb config position
              (scope.step false progress.state instruction)).verdict = .error first := by
            simp only [Progress.absorb, stepped]
            cases progress.verdict with
            | ok _ => exact ⟨fault, rfl⟩
            | error earlier => exact ⟨earlier, rfl⟩
          obtain ⟨first, failed⟩ := failed
          have spoiled : (scope.walk config (instruction :: rest) position false
              progress).verdict = .error first := by
            unfold walk
            dsimp only
            split
            · exact failed
            · exact scope.walk_keeps_fault config rest _ _ _ first failed
          simp [spoiled]
      | ok _ =>
          have goesOn : scope.walk config (instruction :: rest) position false progress =
              scope.walk config rest (position + 1)
                (scope.step false progress.state instruction).state.labels.isEmpty
                (progress.absorb config position
                  (scope.step false progress.state instruction)) := by
            rw [walk]
            simp [stepped, Except.isOk, Except.toBool, Progress.absorb]
          have kept : (progress.absorb config position
              (scope.step false progress.state instruction)).verdict = .ok () ↔
              progress.verdict = .ok () := by
            simp [Progress.absorb, stepped, Verdict.and_eq_ok_iff]
          rw [goesOn]
          by_cases closes : (scope.step false progress.state instruction).state.labels = []
          · rw [List.isEmpty_iff.mpr closes, walk_after_close, kept]
            simp [closes]
          · have stays : (scope.step false progress.state instruction).state.labels.isEmpty =
                false := by simpa using closes
            rw [stays, ih, kept]
            simp [closes, Progress.absorb]

/-- A body is accepted exactly when its instructions complete the region that is
opened for it. -/
theorem validate_verdict_ok_iff (config : Config) (count : Nat) (body : List Instruction) :
    (scope.validate config count body).verdict = .ok () ↔
      ∃ begun, scope.opening.run.accepted scope.environment .empty = some begun ∧
        scope.Completes body begun := by
  unfold validate
  rw [walk_verdict_ok_iff]
  cases begun : (scope.opening.run scope.environment .empty).result with
  | error fault => simp [Check.accepted_of_error begun]
  | ok _ => simp [Check.accepted_of_ok begun]

/-- What the body of a function of the given type can refer to. -/
def ofFunction (module : Module) (features : Features) (type : FuncType)
    (locals : List ValueType) : Scope :=
  ⟨module, features, type.params ++ locals, .function type.results⟩

end Scope

theorem Validator.validate_function_ok_iff (validator : Validator) (index : Nat)
    (locals : List ValueType) (body : List Instruction) :
    (validator.validateFunction index locals body).verdict = .ok () ↔
      ∃ type, validator.module.functionType index = .ok type ∧
        (Scope.ofFunction validator.module validator.config.features type locals).Completes body
          (State.empty.enter .function [] type.results) := by
  unfold validateFunction
  cases found : validator.module.functionType index with
  | error space => simp
  | ok type =>
      show ((Scope.ofFunction validator.module validator.config.features type locals).validate
        validator.config validator.diagnostics body).verdict = .ok () ↔ _
      rw [Scope.validate_verdict_ok_iff]
      constructor
      · rintro ⟨begun, entered, completes⟩
        cases entered
        exact ⟨type, rfl, completes⟩
      · rintro ⟨type', same, completes⟩
        cases same
        exact ⟨_, rfl, completes⟩

end WasmTyping
