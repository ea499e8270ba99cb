import WasmTyping.Proofs.ReportingLimits
import WasmTyping.Proofs.SpokenFaults
import WasmTyping.Proofs.TypeRendering

/-!
# Reports of faults

Every step of a body fails exactly when it reports something. So without a limit the
reports tell the verdict and the positions of all failures: a report begins with the
position of its instruction, and the position can be read back.
-/

set_option autoImplicit false

namespace WasmTyping

/-! ## Positions in the text of a report -/

/-- The beginning of a text determines the position it names. -/
theorem located_text_injective {first second : Nat} {left right : String}
    (same : "@" ++ toString first ++ ": " ++ left = "@" ++ toString second ++ ": " ++ right) :
    first = second := by
  have split (position : Nat) (text : String) :
      ("@" ++ toString position ++ ": " ++ text).toList =
        '@' :: (Nat.toDigits 10 position ++ ':' :: ' ' :: text.toList) := by
    simp only [String.toList_append, Nat.toString_eq_repr, Nat.toList_repr, List.append_assoc]
    rfl
  have texts := congrArg String.toList same
  rw [split, split] at texts
  exact digits_append_injective rfl (List.cons.inj texts).2

/-- The text of a report about an unknown function names no position. -/
theorem unlocated_text_ne (space : IndexSpace) (index position : Nat) (message : String) :
    Report.text ⟨none, .invalidIndex space index⟩ ≠
      "@" ++ toString position ++ ": " ++ message := by
  intro same
  have wording : Report.text ⟨none, .invalidIndex space index⟩ =
      "invalid " ++ space.name ++ " index" ++ ": " ++ toString index := rfl
  have heads := congrArg (fun text => text.toList.head?) (wording.symm.trans same)
  simp at heads

/-! ## Reports of a trail -/

theorem Outcome.mem_located_iff {outcome : Outcome Unit} {position : Nat} {report : Report} :
    report ∈ outcome.located position ↔
      report.position = some position ∧ report.diagnostic ∈ outcome.diagnostics := by
  obtain ⟨place, diagnostic⟩ := report
  simp only [located, List.mem_map, Report.mk.injEq]
  constructor
  · rintro ⟨said, member, rfl, rfl⟩
    exact ⟨rfl, member⟩
  · rintro ⟨rfl, member⟩
    exact ⟨diagnostic, member, rfl, rfl⟩

theorem mem_reports_from_iff {outcomes : List (Outcome Unit)} {start : Nat} {report : Report} :
    report ∈ reportsFrom start outcomes ↔
      ∃ (index : Nat) (outcome : Outcome Unit), outcomes[index]? = some outcome ∧
        report ∈ outcome.located (start + index) := by
  induction outcomes generalizing start with
  | nil => simp [reportsFrom]
  | cons outcome rest ih =>
      rw [reportsFrom, List.mem_append, ih]
      constructor
      · rintro (here | ⟨index, later, found, inside⟩)
        · exact ⟨0, outcome, rfl, here⟩
        · exact ⟨index + 1, later, found, by rwa [Nat.add_right_comm] at inside⟩
      · rintro ⟨index, later, found, inside⟩
        cases index with
        | zero =>
            cases found
            exact .inl inside
        | succ index => exact .inr ⟨index, later, found, by rwa [Nat.add_right_comm]⟩

/-- The reports of candid outcomes tell whether one of them is a fault. -/
theorem reports_nil_iff {outcomes : List (Outcome Unit)} {start : Nat}
    (candid : ∀ outcome ∈ outcomes, outcome.Candid) :
    reportsFrom start outcomes = [] ↔ firstFault outcomes = .ok () := by
  induction outcomes generalizing start with
  | nil => simp [reportsFrom]
  | cons outcome rest ih =>
      obtain ⟨here, later⟩ := List.forall_mem_cons.mp candid
      rw [reportsFrom, List.append_eq_nil_iff, ih later, first_fault_cons,
        Verdict.and_eq_ok_iff, Outcome.located, List.map_eq_nil_iff, here.silent_iff]

/-- The texts reported about candid outcomes tell which of them are faults. -/
theorem reported_texts_iff {outcomes : List (Outcome Unit)}
    (candid : ∀ outcome ∈ outcomes, outcome.Candid) (position : Nat) :
    (∃ report ∈ reportsFrom 0 outcomes, ∃ message,
        report.text = "@" ++ toString position ++ ": " ++ message) ↔
      ∃ outcome fault, outcomes[position]? = some outcome ∧ outcome.result = .error fault := by
  simp only [mem_reports_from_iff, Outcome.mem_located_iff, Nat.zero_add]
  constructor
  · rintro ⟨⟨place, diagnostic⟩, ⟨index, outcome, found, rfl, said⟩, message, same⟩
    obtain rfl : index = position := located_text_injective same
    obtain ⟨fault, failed⟩ :=
      (candid outcome (List.mem_of_getElem? found)).mpr (List.ne_nil_of_mem said)
    exact ⟨outcome, fault, found, failed⟩
  · rintro ⟨outcome, fault, found, failed⟩
    obtain ⟨diagnostic, said⟩ := List.exists_mem_of_ne_nil _
      ((candid outcome (List.mem_of_getElem? found)).spoken failed)
    exact ⟨⟨some position, diagnostic⟩, ⟨position, outcome, found, rfl, said⟩,
      diagnostic.text, rfl⟩

namespace Scope

variable (scope : Scope) (stopping : Bool)

theorem trail_candid (body : List Instruction) (closed : Bool) (state : State) :
    ∀ outcome ∈ scope.trail stopping body closed state, outcome.Candid := by
  induction body generalizing closed state with
  | nil =>
      cases closed with
      | true =>
          intro outcome member
          exact absurd member List.not_mem_nil
      | false =>
          intro outcome member
          cases List.mem_singleton.mp member
          exact Check.Candid.ask _ _ _
  | cons instruction rest ih =>
      rw [trail, List.forall_mem_cons]
      refine ⟨scope.step_candid closed state instruction, ?_⟩
      split
      · intro outcome member
        exact absurd member List.not_mem_nil
      · exact ih _ _

/-- The first fault stands before the walk stops. -/
theorem first_fault_trail (body : List Instruction) (closed : Bool) (state : State) :
    firstFault (scope.trail stopping body closed state) =
      firstFault (scope.trail false body closed state) := by
  induction body generalizing closed state with
  | nil => rfl
  | cons instruction rest ih =>
      rw [trail, trail, first_fault_cons, first_fault_cons]
      cases closed with
      | true => rfl
      | false =>
          rw [Bool.and_false, Bool.or_false, if_neg Bool.false_ne_true]
          rcases result : (scope.step false state instruction).result with fault | _
          · rfl
          · exact ih _ _

end Scope

namespace Validator

/-- The outcomes of the instructions of a task that are processed without a limit,
none if the task names an unknown function. -/
def processed (validator : Validator) (task : Task) : List (Outcome Unit) :=
  match task.scope validator.module validator.config.features with
  | .error _ => []
  | .ok scope => scope.bodyTrail validator.config.failFast task.body

end Validator

/-- Every step of the checker, every catch count and every instruction of a body fails
exactly when it reports something; the summary of a fault is never needed. Without a
limit the reports of a body tell whether it is accepted and which of the processed
positions failed. -/
theorem failures_are_the_reports :
    (∀ (operation : Operation), operation.isQuery = false →
      ∀ (env : Environment) (state : State), (operation.run env state).Candid) ∧
    (∀ (depth : Nat) (env : Environment) (state : State),
      (Check.catchCount depth env state).Candid) ∧
    (∀ (scope : Scope) (closed : Bool) (state : State) (instruction : Instruction),
      (scope.step closed state instruction).Candid ∧
        scope.step closed state instruction =
          scope.check closed state.labels.length instruction scope.environment state) ∧
    ∀ (validator : Validator) (task : Task),
      validator.diagnostics + (reportsFrom 0 (validator.processed task)).length ≤
        validator.config.maxDiagnostics →
      ((validator.perform task).verdict = .ok () ↔ (validator.perform task).reports = []) ∧
        ∀ position : Nat,
          (∃ report ∈ (validator.perform task).reports, ∃ message,
            report.text = "@" ++ toString position ++ ": " ++ message) ↔
          ∃ outcome fault, (validator.processed task)[position]? = some outcome ∧
            outcome.result = .error fault := by
  refine ⟨?_, Check.Candid.catch_count, ?_, ?_⟩
  · intro operation step
    exact Operation.run_candid step
  · intro scope closed state instruction
    exact ⟨scope.step_candid closed state instruction,
      scope.step_eq_check closed state instruction⟩
  · intro validator task room
    cases resolved : task.scope validator.module validator.config.features with
    | error space =>
        obtain ⟨verdict, index, reports⟩ := Validator.perform_of_unresolved resolved
        have nothing : validator.processed task = [] := by rw [Validator.processed, resolved]
        rw [verdict, reports, nothing]
        refine ⟨by simp, fun position => ⟨?_, ?_⟩⟩
        · rintro ⟨report, member, message, same⟩
          cases List.mem_singleton.mp member
          exact absurd same (unlocated_text_ne space index position message)
        · rintro ⟨outcome, fault, found, -⟩
          cases found
    | ok scope =>
        obtain ⟨verdict, reports⟩ := Validator.perform_of_resolved resolved
        have trail : validator.processed task =
            scope.bodyTrail validator.config.failFast task.body := by
          rw [Validator.processed, resolved]
        have candid : ∀ outcome ∈ validator.processed task, outcome.Candid := by
          rw [trail]
          exact scope.trail_candid _ _ _ _
        have decided : firstFault (scope.bodyTrail false task.body) =
            firstFault (validator.processed task) := by
          rw [trail]
          exact (scope.first_fault_trail _ _ _ _).symm
        rw [← trail, List.take_of_length_le (Nat.le_sub_of_add_le' room)] at reports
        rw [verdict, reports, decided]
        exact ⟨(reports_nil_iff candid).symm, reported_texts_iff candid⟩

/-- A step without an open label, and a body with failures at two instructions and no
`end`. -/
theorem failures_without_end_are_reported :
    let types : Registry := Registry.empty.insert 0 ⟨[], [.i32]⟩
    let module : Module := { Module.ofTypes types with functions := [0] }
    let validator := Validator.start module ⟨.all, false, 3⟩
    let task : Task := .function 0 [] [.drop, .i64Const 1, .localGet 7]
    (Operation.isQuery .drop = false ∧
        (Operation.run .drop ⟨types, .all⟩ .empty).Candid) ∧
      validator.diagnostics + (reportsFrom 0 (validator.processed task)).length ≤
        validator.config.maxDiagnostics ∧
      ((validator.perform task).verdict = .ok () ↔ (validator.perform task).reports = []) ∧
        ∀ position : Nat,
          (∃ report ∈ (validator.perform task).reports, ∃ message,
            report.text = "@" ++ toString position ++ ": " ++ message) ↔
          ∃ outcome fault, (validator.processed task)[position]? = some outcome ∧
            outcome.result = .error fault := by
  intro types module validator task
  have room : validator.diagnostics + (reportsFrom 0 (validator.processed task)).length ≤
      validator.config.maxDiagnostics := by decide +kernel
  exact ⟨⟨rfl, failures_are_the_reports.1 .drop rfl _ _⟩, room,
    failures_are_the_reports.2.2.2 validator task room⟩

end WasmTyping
