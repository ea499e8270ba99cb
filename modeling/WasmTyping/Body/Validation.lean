import WasmTyping.Body.Action

/-!
# Validation of bodies

A function body or a constant initializer is checked instruction by instruction.
Every diagnostic is located at the position of the instruction it is about, and
one beyond the last for a missing `end`. The settings limit how many diagnostics
are delivered over all bodies and may end the walk at a failure; the first fault
decides the verdict.
-/

set_option autoImplicit false

namespace WasmTyping

structure Report where
  position : Option Nat
  diagnostic : Diagnostic
  deriving DecidableEq

def Report.text (report : Report) : String :=
  match report.position with
  | none => report.diagnostic.text
  | some position => "@" ++ toString position ++ ": " ++ report.diagnostic.text

structure Progress where
  state : State
  verdict : Verdict
  /-- Diagnostics delivered for this body and all before it. -/
  count : Nat
  reports : List Report
  events : List Event

namespace Progress

def deliverable (config : Config) (count position : Nat) (diagnostics : List Diagnostic) :
    List Report :=
  (diagnostics.take (config.maxDiagnostics - count)).map fun diagnostic =>
    ⟨some position, diagnostic⟩

def absorb (progress : Progress) (config : Config) (position : Nat) (outcome : Outcome Unit) :
    Progress :=
  let reports := deliverable config progress.count position outcome.diagnostics
  { state := outcome.state
    verdict := Verdict.and progress.verdict outcome.result
    count := progress.count + reports.length
    reports := progress.reports ++ reports
    events := progress.events ++ outcome.events }

def stopsAtFailure (progress : Progress) (config : Config) : Bool :=
  config.failFast || config.maxDiagnostics ≤ progress.count

end Progress

/-- A failure without a diagnostic is reported by the summary of its fault. -/
def Outcome.explained (outcome : Outcome Unit) : Outcome Unit :=
  match outcome.result with
  | .ok _ => outcome
  | .error fault =>
    if outcome.diagnostics.isEmpty then
      { outcome with events := outcome.events ++ [.reported (.unexplained fault)] }
    else outcome

namespace Scope

def environment (scope : Scope) : Environment :=
  ⟨scope.module.types, scope.features⟩

/-- One instruction of the body. Nothing may follow the `end` of the body. -/
def step (scope : Scope) (closed : Bool) (state : State) (instruction : Instruction) :
    Outcome Unit :=
  let check : Check Unit :=
    if closed then .complain ⟨.afterEnd instruction.name scope.kind, .afterEnd⟩
    else Action.runAll (scope.actions state.labels.length instruction)
  (check scope.environment state).explained

/-- The instructions of a body from a position on. `closed` says that the body
has ended before. -/
def walk (scope : Scope) (config : Config) :
    List Instruction → Nat → Bool → Progress → Progress
  | [], position, closed, progress =>
    if closed then progress
    else
      progress.absorb config position
        (Check.complain ⟨.missingEnd scope.kind, .missingEnd⟩ scope.environment progress.state)
  | instruction :: rest, position, closed, progress =>
    let outcome := scope.step closed progress.state instruction
    let next := progress.absorb config position outcome
    if closed || (!outcome.result.isOk && next.stopsAtFailure config) then next
    else scope.walk config rest (position + 1) next.state.labels.isEmpty next

def opening (scope : Scope) : Operation :=
  match scope.kind with
  | .function results => .beginFunction results
  | .initExpr type => .beginInitExpr type

def validate (scope : Scope) (config : Config) (count : Nat) (body : List Instruction) :
    Progress :=
  let begun := scope.opening.run scope.environment .empty
  scope.walk config body 0 false ⟨begun.state, begun.result, count, [], begun.events⟩

end Scope

structure Validator where
  module : Module
  config : Config
  /-- Diagnostics delivered so far. -/
  diagnostics : Nat
  deriving DecidableEq

structure Validation where
  verdict : Verdict
  /-- The validator for the next body. -/
  validator : Validator
  reports : List Report
  events : List Event

namespace Validator

def start (module : Module) (config : Config) : Validator := ⟨module, config, 0⟩

def validateFunction (validator : Validator) (index : Nat) (locals : List ValueType)
    (body : List Instruction) : Validation :=
  match validator.module.functionType index with
  | .error space =>
    { verdict := .error (.invalidIndex space)
      validator := { validator with diagnostics := validator.diagnostics + 1 }
      reports := [⟨none, .invalidIndex space index⟩]
      events := [] }
  | .ok type =>
    let scope : Scope :=
      { module := validator.module
        features := validator.config.features
        locals := type.params ++ locals
        kind := .function type.results }
    let progress := scope.validate validator.config validator.diagnostics body
    { verdict := progress.verdict
      validator := { validator with diagnostics := progress.count }
      reports := progress.reports
      events := [.functionBegun index type] ++ progress.events ++
        [.functionDone index progress.count] }

def validateInitExpr (validator : Validator) (type : ValueType) (body : List Instruction) :
    Validation :=
  let scope : Scope :=
    { module := validator.module
      features := validator.config.features
      locals := []
      kind := .initExpr type }
  let progress := scope.validate validator.config validator.diagnostics body
  { verdict := progress.verdict
    validator := { validator with diagnostics := progress.count }
    reports := progress.reports
    events := .initExprBegun type :: progress.events }

end Validator

end WasmTyping
