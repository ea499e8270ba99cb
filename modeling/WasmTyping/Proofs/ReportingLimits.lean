import Mathlib.Control.Monad.Basic
import WasmTyping.Proofs.AcceptedRuns

/-!
# Reporting limits

The settings limit how many diagnostics are delivered and may end the walk of a body
at a failure. The verdict does not depend on them. A walk without settings leaves a
trail of outcomes; the verdict is the first fault of the trail, and what is delivered
is a beginning of what the trail reports.
-/

set_option autoImplicit false

namespace WasmTyping

/-! ## The trail of a body -/

/-- The first fault of several outcomes. -/
def firstFault (outcomes : List (Outcome Unit)) : Verdict :=
  outcomes.foldr (fun outcome rest => Verdict.and outcome.result rest) (.ok ())

@[simp] theorem first_fault_nil : firstFault [] = .ok () := rfl

@[simp] theorem first_fault_cons (outcome : Outcome Unit) (rest : List (Outcome Unit)) :
    firstFault (outcome :: rest) = Verdict.and outcome.result (firstFault rest) := rfl

/-- The diagnostics of an outcome, located at a position. -/
def Outcome.located (position : Nat) (outcome : Outcome Unit) : List Report :=
  outcome.diagnostics.map fun diagnostic => ⟨some position, diagnostic⟩

/-- The diagnostics of outcomes at consecutive positions. -/
def reportsFrom : Nat → List (Outcome Unit) → List Report
  | _, [] => []
  | position, outcome :: rest => outcome.located position ++ reportsFrom (position + 1) rest

namespace Scope

/-- The outcomes of the instructions that are processed: up to the one that closes the
body, the first one after it or, where failures stop the walk, the first failure. A
missing `end` has an outcome as well. -/
def trail (scope : Scope) (stopping : Bool) :
    List Instruction → Bool → State → List (Outcome Unit)
  | [], closed, state =>
    if closed then []
    else [Check.complain ⟨.missingEnd scope.kind, .missingEnd⟩ scope.environment state]
  | instruction :: rest, closed, state =>
    let outcome := scope.step closed state instruction
    outcome ::
      if closed || (!outcome.result.isOk && stopping) then []
      else scope.trail stopping rest outcome.state.labels.isEmpty outcome.state

/-- The trail of a whole body. -/
def bodyTrail (scope : Scope) (stopping : Bool) (body : List Instruction) :
    List (Outcome Unit) :=
  scope.trail stopping body false (scope.opening.run scope.environment .empty).state

end Scope

theorem reports_from_prefix {some all : List (Outcome Unit)} (begins : some <+: all)
    (position : Nat) : reportsFrom position some <+: reportsFrom position all := by
  obtain ⟨rest, rfl⟩ := begins
  induction some generalizing position with
  | nil => exact List.nil_prefix
  | cons outcome some ih =>
      simp only [List.cons_append, reportsFrom]
      exact (List.prefix_append_right_inj _).mpr (ih (position + 1))

namespace Scope

variable (scope : Scope)

/-- To stop at failures cuts the trail. -/
theorem trail_prefix (stopping : Bool) (body : List Instruction) (closed : Bool)
    (state : State) :
    scope.trail stopping body closed state <+: scope.trail false body closed state := by
  induction body generalizing closed state with
  | nil => exact List.prefix_rfl
  | cons instruction rest ih =>
      rw [trail, trail, List.prefix_cons_inj]
      cases closed with
      | true => exact List.prefix_rfl
      | false =>
          rw [Bool.and_false, Bool.or_false, if_neg Bool.false_ne_true]
          split
          · exact List.nil_prefix
          · exact ih _ _

/-! ## The walk along the trail -/

/-- Whatever the settings, the first fault of the whole trail decides. -/
theorem walk_verdict (config : Config) (body : List Instruction) (position : Nat)
    (closed : Bool) (progress : Progress) :
    (scope.walk config body position closed progress).verdict =
      Verdict.and progress.verdict
        (firstFault (scope.trail false body closed progress.state)) := by
  induction body generalizing position closed progress with
  | nil => cases closed <;> simp [walk, trail, Progress.absorb]
  | cons instruction rest ih =>
      rw [walk, trail, first_fault_cons, Bool.and_false, Bool.or_false]
      cases closed with
      | true => simp [Progress.absorb]
      | false =>
          rw [if_neg Bool.false_ne_true]
          split
          · rename_i stops
            -- a failure that ends the walk hides all later ones
            rcases result : (scope.step false progress.state instruction).result with fault | _
            · simp only [Progress.absorb, result]
              rfl
            · simp [result, Except.isOk, Except.toBool] at stops
          · rw [ih, ← Verdict.and_assoc]
            rfl

theorem deliverable_eq_take (config : Config) (count position : Nat) (outcome : Outcome Unit) :
    Progress.deliverable config count position outcome.diagnostics =
      (outcome.located position).take (config.maxDiagnostics - count) := by
  rw [Progress.deliverable, Outcome.located, List.map_take]

/-- What is delivered is the beginning of what the trail reports. -/
theorem walk_reports (config : Config) (body : List Instruction) (position : Nat)
    (closed : Bool) (progress : Progress) :
    (scope.walk config body position closed progress).reports =
      progress.reports ++
        (reportsFrom position (scope.trail config.failFast body closed progress.state)).take
          (config.maxDiagnostics - progress.count) := by
  induction body generalizing position closed progress with
  | nil =>
      cases closed with
      | true => simp [walk, trail, reportsFrom]
      | false => simp [walk, trail, reportsFrom, Progress.absorb, deliverable_eq_take]
  | cons instruction rest ih =>
      rw [walk, trail, reportsFrom, List.take_append, ← List.append_assoc]
      generalize scope.step closed progress.state instruction = outcome
      have delivered : (progress.absorb config position outcome).reports =
          progress.reports ++
            (outcome.located position).take (config.maxDiagnostics - progress.count) := by
        rw [Progress.absorb, deliverable_eq_take]
      have counted : (progress.absorb config position outcome).count = progress.count +
          min (config.maxDiagnostics - progress.count) (outcome.located position).length := by
        rw [Progress.absorb, deliverable_eq_take, List.length_take]
      split
      · rename_i stops
        rw [delivered, List.self_eq_append_right]
        split
        · exact List.take_nil
        · rename_i unstopped
          have full : config.maxDiagnostics ≤ (progress.absorb config position outcome).count := by
            simp_all [Progress.stopsAtFailure]
          have nothing : config.maxDiagnostics - progress.count -
              (outcome.located position).length = 0 := by omega
          rw [nothing, List.take_zero]
      · rename_i goes
        have unstopped : ¬(closed || (!outcome.result.isOk && config.failFast)) = true := by
          simp_all [Progress.stopsAtFailure]
        have room : config.maxDiagnostics - (progress.absorb config position outcome).count =
            config.maxDiagnostics - progress.count - (outcome.located position).length := by
          omega
        rw [ih, delivered, room, if_neg unstopped]
        rfl

theorem opening_succeeds : (scope.opening.run scope.environment .empty).result = .ok () := by
  unfold opening
  cases scope.kind <;> rfl

theorem validate_verdict (config : Config) (count : Nat) (body : List Instruction) :
    (scope.validate config count body).verdict = firstFault (scope.bodyTrail false body) := by
  rw [validate, walk_verdict, opening_succeeds, Verdict.ok_and]
  rfl

theorem validate_reports (config : Config) (count : Nat) (body : List Instruction) :
    (scope.validate config count body).reports =
      (reportsFrom 0 (scope.bodyTrail config.failFast body)).take
        (config.maxDiagnostics - count) := by
  rw [validate, walk_reports, List.nil_append]
  rfl

end Scope

/-! ## Bodies one after another -/

/-- A body to be validated. -/
inductive Task where
  | function (index : Nat) (locals : List ValueType) (body : List Instruction)
  | initExpr (type : ValueType) (body : List Instruction)

namespace Task

def body : Task → List Instruction
  | function _ _ body => body
  | initExpr _ body => body

/-- What the body can refer to, if its function exists. -/
def scope (module : Module) (features : Features) : Task → Except IndexSpace Scope
  | function index locals _ =>
    match module.functionType index with
    | .error space => .error space
    | .ok type => .ok (.ofFunction module features type locals)
  | initExpr type _ => .ok ⟨module, features, [], .initExpr type⟩

end Task

namespace Validator

def perform (validator : Validator) : Task → Validation
  | .function index locals body => validator.validateFunction index locals body
  | .initExpr type body => validator.validateInitExpr type body

/-- Validate bodies in their order; each takes over the count of diagnostics. -/
def performAll : Validator → List Task → List Validation
  | _, [] => []
  | validator, task :: rest =>
    let validation := validator.perform task
    validation :: validation.validator.performAll rest

variable {validator : Validator} {task : Task}

theorem perform_of_resolved {scope : Scope}
    (resolved : task.scope validator.module validator.config.features = .ok scope) :
    (validator.perform task).verdict = firstFault (scope.bodyTrail false task.body) ∧
      (validator.perform task).reports =
        (reportsFrom 0 (scope.bodyTrail validator.config.failFast task.body)).take
          (validator.config.maxDiagnostics - validator.diagnostics) := by
  cases task with
  | function index locals body =>
      unfold Task.scope at resolved
      simp only [perform, validateFunction]
      cases found : validator.module.functionType index with
      | error space => simp [found] at resolved
      | ok type =>
          simp only [found, Except.ok.injEq] at resolved
          subst resolved
          exact ⟨Scope.validate_verdict _ _ _ _, Scope.validate_reports _ _ _ _⟩
  | initExpr type body =>
      cases resolved
      exact ⟨Scope.validate_verdict _ _ _ _, Scope.validate_reports _ _ _ _⟩

theorem perform_of_unresolved {space : IndexSpace}
    (unresolved : task.scope validator.module validator.config.features = .error space) :
    (validator.perform task).verdict = .error (.invalidIndex space) ∧
      ∃ index, (validator.perform task).reports = [⟨none, .invalidIndex space index⟩] := by
  cases task with
  | function index locals body =>
      unfold Task.scope at unresolved
      simp only [perform, validateFunction]
      cases found : validator.module.functionType index with
      | error space' =>
          simp only [found, Except.error.injEq] at unresolved
          subst unresolved
          exact ⟨rfl, index, rfl⟩
      | ok type => simp [found] at unresolved
  | initExpr type body => cases unresolved

/-- The verdict depends on the module and the features alone. -/
theorem perform_verdict_eq {other : Validator} (module : validator.module = other.module)
    (features : validator.config.features = other.config.features) (task : Task) :
    (validator.perform task).verdict = (other.perform task).verdict := by
  cases resolved : task.scope validator.module validator.config.features with
  | error space =>
      have same := resolved
      rw [module, features] at same
      rw [(perform_of_unresolved resolved).1, (perform_of_unresolved same).1]
  | ok scope =>
      have same := resolved
      rw [module, features] at same
      rw [(perform_of_resolved resolved).1, (perform_of_resolved same).1]

/-- Only the count of diagnostics passes from one body to the next. -/
theorem perform_validator (validator : Validator) (task : Task) :
    (validator.perform task).validator.module = validator.module ∧
      (validator.perform task).validator.config = validator.config := by
  cases task with
  | function index locals body =>
      simp only [perform, validateFunction]
      split <;> exact ⟨rfl, rfl⟩
  | initExpr type body => exact ⟨rfl, rfl⟩

theorem perform_all_verdicts (validator other : Validator)
    (module : validator.module = other.module)
    (features : validator.config.features = other.config.features) (tasks : List Task) :
    (validator.performAll tasks).map Validation.verdict =
      tasks.map fun task => (other.perform task).verdict := by
  induction tasks generalizing validator with
  | nil => rfl
  | cons task rest ih =>
      obtain ⟨sameModule, sameConfig⟩ := perform_validator validator task
      rw [performAll, List.map_cons, List.map_cons, perform_verdict_eq module features task, ih]
      · exact sameModule.trans module
      · rw [sameConfig, features]

end Validator

/-- The verdict on a body is the same for all reporting limits and all counts of
earlier diagnostics, hence in any order of the bodies. What is delivered is a beginning
of what is delivered without limits, as long as the limit admits unless the first
failure ends the walk. -/
theorem verdicts_ignore_reporting_limits (module : Module) (features : Features) :
    (∀ (task : Task) (scope : Scope), task.scope module features = .ok scope →
      ∃ (verdict : Verdict) (findings : List Report),
        (∀ limit count, count + findings.length ≤ limit →
          (Validator.perform ⟨module, ⟨features, false, limit⟩, count⟩ task).reports =
            findings) ∧
        ∀ (failFast : Bool) (limit count : Nat),
          let validation := Validator.perform ⟨module, ⟨features, failFast, limit⟩, count⟩ task
          validation.verdict = verdict ∧
            validation.reports <+: findings ∧
            (failFast = false →
              validation.reports.length = min findings.length (limit - count)) ∧
            (limit ≤ count → validation.reports = [])) ∧
      ∀ (config : Config) (count : Nat) (tasks : List Task),
        (Validator.performAll ⟨module, config, count⟩ tasks).map Validation.verdict =
          tasks.map fun task => ((Validator.start module config).perform task).verdict := by
  constructor
  · intro task scope resolved
    have performed (failFast : Bool) (limit count : Nat) :=
      @Validator.perform_of_resolved ⟨module, ⟨features, failFast, limit⟩, count⟩ task _ resolved
    refine ⟨firstFault (scope.bodyTrail false task.body),
      reportsFrom 0 (scope.bodyTrail false task.body), ?_, ?_⟩
    · intro limit count room
      rw [(performed false limit count).2, List.take_of_length_le (Nat.le_sub_of_add_le' room)]
    · intro failFast limit count
      have reports := (performed failFast limit count).2
      have begins := reports_from_prefix
        (scope.trail_prefix failFast task.body false
          (scope.opening.run scope.environment .empty).state) 0
      refine ⟨(performed failFast limit count).1, ?_, ?_, ?_⟩
      · rw [reports]
        exact (List.take_prefix _ _).trans begins
      · rintro rfl
        rw [reports, List.length_take, Nat.min_comm]
      · intro full
        rw [reports, Nat.sub_eq_zero_of_le full, List.take_zero]
  · intro config count tasks
    apply Validator.perform_all_verdicts
    · rfl
    · rfl

/-- A body with three failures: the first of them is the verdict under all limits, and two
of them are delivered where there is room for two. -/
theorem failing_body_keeps_verdict :
    let types : Registry := Registry.empty.insert 0 ⟨[], [.i32]⟩
    let module : Module := { Module.ofTypes types with functions := [0] }
    let task : Task := .function 0 [] [.drop, .localGet 7, .i64Const 1, .endBlock]
    let scope : Scope := ⟨module, .all, [], .function [.i32]⟩
    let findings : List Report :=
      [⟨some 0, .mismatch .inside "drop" [.any] [] false⟩,
        ⟨some 1, .invalidIndex .localVariable 7⟩,
        ⟨some 3, .mismatch .inside "implicit return" [.i32] [.i64] false⟩]
    task.scope module .all = .ok scope ∧
      (∀ limit count, count + 3 ≤ limit →
        (Validator.perform ⟨module, ⟨.all, false, limit⟩, count⟩ task).reports = findings) ∧
      (∀ (failFast : Bool) (limit count : Nat),
        let validation := Validator.perform ⟨module, ⟨.all, failFast, limit⟩, count⟩ task
        validation.verdict = .error .stackUnderflow ∧ validation.reports <+: findings) ∧
      (Validator.perform ⟨module, ⟨.all, false, 7⟩, 5⟩ task).reports.length = 2 := by
  intro types module task scope findings
  have resolved : task.scope module .all = .ok scope := rfl
  obtain ⟨verdict, found, unlimited, limited⟩ :=
    (verdicts_ignore_reporting_limits module .all).1 task scope resolved
  -- One validation with room for a fourth finding shows that there are three.
  have delivered : (Validator.perform ⟨module, ⟨.all, false, 4⟩, 0⟩ task).reports = findings := by
    decide +kernel
  have length : found.length = 3 := by
    have counted := (limited false 4 0).2.2.1 rfl
    rw [delivered] at counted
    change 3 = min found.length 4 at counted
    omega
  have same : found = findings := (unlimited 4 0 (by omega)).symm.trans delivered
  have failed : (Validator.perform ⟨module, ⟨.all, false, 4⟩, 0⟩ task).verdict =
      .error .stackUnderflow := by
    decide +kernel
  have first : verdict = .error .stackUnderflow := (limited false 4 0).1.symm.trans failed
  have cut := (limited false 7 5).2.2.1 rfl
  rw [length] at cut
  refine ⟨resolved, ?_, ?_, cut⟩
  · intro limit count room
    rw [unlimited limit count (by omega), same]
  · intro failFast limit count
    obtain ⟨kept, begins, -, -⟩ := limited failFast limit count
    exact ⟨kept.trans first, same ▸ begins⟩

end WasmTyping
