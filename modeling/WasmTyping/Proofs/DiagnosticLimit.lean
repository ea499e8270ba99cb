import WasmTyping.Proofs.ReportingLimits

/-!
# The limit of diagnostics

A validator counts what it delivers over all bodies. Diagnostics about instructions stop
at the limit of the settings. A function that does not exist is reported whatever the
count is, so this is the one way to go beyond the limit.
-/

set_option autoImplicit false

namespace WasmTyping

/-! ## One body -/

theorem Progress.absorb_count (progress : Progress) (config : Config) (position : Nat)
    (outcome : Outcome Unit) :
    (progress.absorb config position outcome).count + progress.reports.length =
      progress.count + (progress.absorb config position outcome).reports.length := by
  simp only [absorb, List.length_append]
  omega

namespace Scope

variable (scope : Scope) (config : Config)

/-- The count and the reports of a walk grow together. -/
theorem walk_count (body : List Instruction) (position : Nat) (closed : Bool)
    (progress : Progress) :
    (scope.walk config body position closed progress).count + progress.reports.length =
      progress.count + (scope.walk config body position closed progress).reports.length := by
  induction body generalizing position closed progress with
  | nil =>
      cases closed with
      | true => simp [walk]
      | false => exact progress.absorb_count config position _
  | cons instruction rest ih =>
      rw [walk]
      have here := progress.absorb_count config position
        (scope.step closed progress.state instruction)
      split
      · exact here
      · have later := ih (position + 1)
          (progress.absorb config position
            (scope.step closed progress.state instruction)).state.labels.isEmpty
          (progress.absorb config position (scope.step closed progress.state instruction))
        omega

theorem validate_count (count : Nat) (body : List Instruction) :
    (scope.validate config count body).count =
      count + (scope.validate config count body).reports.length :=
  scope.walk_count config body 0 false
    ⟨(scope.opening.run scope.environment .empty).state, _, count, [], _⟩

end Scope

namespace Validator

section Perform

variable {validator : Validator} {task : Task}

theorem perform_count (validator : Validator) (task : Task) :
    (validator.perform task).validator.diagnostics =
      validator.diagnostics + (validator.perform task).reports.length := by
  cases task with
  | function index locals body =>
      simp only [perform, validateFunction]
      split
      · rfl
      · exact Scope.validate_count _ _ _ _
  | initExpr type body => exact Scope.validate_count _ _ _ _

/-- A body is reported on only as far as there is room. -/
theorem perform_room {scope : Scope}
    (resolved : task.scope validator.module validator.config.features = .ok scope) :
    (validator.perform task).reports.length ≤
      validator.config.maxDiagnostics - validator.diagnostics := by
  rw [(perform_of_resolved resolved).2, List.length_take]
  exact Nat.min_le_left _ _

/-- A task takes the count beyond the limit exactly if there is no room left and its
function does not exist. -/
theorem perform_exceeds_iff (validator : Validator) (task : Task) :
    validator.config.maxDiagnostics < (validator.perform task).validator.diagnostics ↔
      validator.config.maxDiagnostics < validator.diagnostics ∨
        (∃ space, task.scope validator.module validator.config.features = .error space) ∧
          validator.config.maxDiagnostics ≤ validator.diagnostics := by
  rw [perform_count]
  cases resolved : task.scope validator.module validator.config.features with
  | error space =>
      obtain ⟨index, reports⟩ := (perform_of_unresolved resolved).2
      simp only [reports, List.length_singleton, Except.error.injEq, exists_eq', true_and]
      omega
  | ok scope =>
      have room := perform_room resolved
      simp only [reduceCtorEq, exists_false, false_and, or_false]
      omega

/-- What is delivered beyond the limit has no position. -/
theorem perform_beyond {report : Report}
    (beyond : report ∈ (validator.perform task).reports.drop
      (validator.config.maxDiagnostics - validator.diagnostics)) :
    report.position = none := by
  cases resolved : task.scope validator.module validator.config.features with
  | error space =>
      obtain ⟨index, reports⟩ := (perform_of_unresolved resolved).2
      rw [reports] at beyond
      have same := List.mem_singleton.mp (List.mem_of_mem_drop beyond)
      rw [same]
  | ok scope =>
      rw [List.drop_of_length_le (perform_room resolved)] at beyond
      cases beyond

end Perform

/-! ## Bodies one after another -/

/-- The validator after some bodies. -/
def afterAll (validator : Validator) (tasks : List Task) : Validator :=
  tasks.foldl (fun current task => (current.perform task).validator) validator

/-- What is delivered for some bodies. -/
def delivered (validator : Validator) (tasks : List Task) : List Report :=
  (validator.performAll tasks).flatMap Validation.reports

theorem after_all_cons (validator : Validator) (task : Task) (rest : List Task) :
    validator.afterAll (task :: rest) = (validator.perform task).validator.afterAll rest := rfl

theorem delivered_cons (validator : Validator) (task : Task) (rest : List Task) :
    validator.delivered (task :: rest) =
      (validator.perform task).reports ++ (validator.perform task).validator.delivered rest := rfl

theorem after_all_count (validator : Validator) (tasks : List Task) :
    (validator.afterAll tasks).diagnostics =
      validator.diagnostics + (validator.delivered tasks).length := by
  induction tasks generalizing validator with
  | nil => rfl
  | cons task rest ih =>
      rw [after_all_cons, ih, perform_count, delivered_cons, List.length_append, Nat.add_assoc]

theorem delivered_beyond (validator : Validator) (tasks : List Task) :
    ∀ report ∈ (validator.delivered tasks).drop
      (validator.config.maxDiagnostics - validator.diagnostics), report.position = none := by
  induction tasks generalizing validator with
  | nil =>
      intro report beyond
      rw [delivered, performAll, List.flatMap_nil, List.drop_nil] at beyond
      cases beyond
  | cons task rest ih =>
      intro report beyond
      rw [delivered_cons, List.drop_append, List.mem_append] at beyond
      rcases beyond with here | there
      · exact perform_beyond here
      · apply ih (validator.perform task).validator
        rwa [(perform_validator validator task).2, perform_count, Nat.sub_add_eq]

/-- The count goes beyond the limit exactly where a function that does not exist is
asked for when the limit has been reached. -/
theorem after_all_exceeds_iff (validator : Validator) (tasks : List Task) :
    validator.config.maxDiagnostics < (validator.afterAll tasks).diagnostics ↔
      validator.config.maxDiagnostics < validator.diagnostics ∨
        ∃ earlier task later, tasks = earlier ++ task :: later ∧
          (∃ space, task.scope validator.module validator.config.features = .error space) ∧
          validator.config.maxDiagnostics ≤ (validator.afterAll earlier).diagnostics := by
  induction tasks generalizing validator with
  | nil => simp [afterAll]
  | cons task rest ih =>
      obtain ⟨module, config⟩ := perform_validator validator task
      have next := ih (validator.perform task).validator
      rw [module, config, perform_exceeds_iff] at next
      rw [after_all_cons, next, or_assoc]
      apply or_congr_right
      constructor
      · rintro (⟨missing, full⟩ | ⟨earlier, other, later, rfl, missing, full⟩)
        · exact ⟨[], task, rest, rfl, missing, full⟩
        · exact ⟨task :: earlier, other, later, rfl, missing, full⟩
      · rintro ⟨earlier, other, later, tasks, missing, full⟩
        cases earlier with
        | nil =>
            cases tasks
            exact .inl ⟨missing, full⟩
        | cons first earlier =>
            cases tasks
            exact .inr ⟨earlier, other, later, rfl, missing, full⟩

end Validator

/-- Over all bodies the count is the number of reports delivered. It goes beyond the
limit exactly where a function that does not exist is asked for when the limit has been
reached, and every report beyond the limit is of that kind. -/
theorem located_reports_keep_the_limit (module : Module) (config : Config)
    (tasks : List Task) :
    let validator := Validator.start module config
    (validator.afterAll tasks).diagnostics = (validator.delivered tasks).length ∧
      (config.maxDiagnostics < (validator.afterAll tasks).diagnostics ↔
        ∃ earlier task later, tasks = earlier ++ task :: later ∧
          (∃ space, task.scope module config.features = .error space) ∧
          config.maxDiagnostics ≤ (validator.afterAll earlier).diagnostics) ∧
      ∀ report ∈ (validator.delivered tasks).drop config.maxDiagnostics,
        report.position = none := by
  intro validator
  refine ⟨?_, ?_, validator.delivered_beyond tasks⟩
  · rw [Validator.after_all_count]
    exact Nat.zero_add _
  · have exceeds := validator.after_all_exceeds_iff tasks
    have fresh : ¬ config.maxDiagnostics < validator.diagnostics := Nat.not_lt_zero _
    exact exceeds.trans (or_iff_right fresh)

/-- A body with a failure uses up the limit, and then a function does not exist. -/
theorem missing_function_is_reported_beyond_the_limit :
    let types : Registry := Registry.empty.insert 0 ⟨[], []⟩
    let module : Module := { Module.ofTypes types with functions := [0] }
    let config : Config := { Config.standard with maxDiagnostics := 1 }
    let tasks : List Task := [.function 0 [] [.drop, .endBlock], .function 7 [] []]
    let validator := Validator.start module config
    (validator.delivered tasks).length = 2 ∧
      (∃ earlier task later, tasks = earlier ++ task :: later ∧
        (∃ space, task.scope module config.features = .error space) ∧
        config.maxDiagnostics ≤ (validator.afterAll earlier).diagnostics) ∧
      ∀ report ∈ (validator.delivered tasks).drop 1, report.position = none := by
  intro types module config tasks validator
  have two : (validator.delivered tasks).length = 2 := by decide +kernel
  obtain ⟨counted, exceeds, beyond⟩ := located_reports_keep_the_limit module config tasks
  refine ⟨two, exceeds.mp ?_, beyond⟩
  rw [counted, two]
  decide

/-- Two functions that do not exist, under a limit of one. -/
theorem missing_functions_exceed_the_limit :
    let config : Config := { Config.standard with maxDiagnostics := 1 }
    let tasks : List Task := [.function 0 [] [], .function 0 [] []]
    ¬ ((Validator.start Module.empty config).afterAll tasks).diagnostics ≤
      config.maxDiagnostics := by
  decide

end WasmTyping
