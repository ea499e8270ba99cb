import WasmTyping.Checker.State
import WasmTyping.Compatibility

/-!
# Checks

A check reads the type registry and the features, changes the state, emits events
and ends in a value or a fault. A fault undoes nothing: the state and the events
up to it stand.

Two ways to go on after a check matter. `bind` stops at the first fault, which is
right only where the rest has nothing to work on. `also` runs the rest in any
case and keeps the first fault, so that an instruction always has its whole stack
effect.
-/

set_option autoImplicit false

namespace WasmTyping

structure Environment where
  types : Registry
  features : Features
  deriving DecidableEq

namespace Environment

/-- Whether `actual` may stand for `expected`; two references that do not fit
have a fault of their own. -/
def checkType (env : Environment) (actual expected : ValueType) : Verdict :=
  if env.types.compatible actual expected then .ok ()
  else if actual.isReference && expected.isReference then .error .referenceMismatch
  else .error .typeMismatch

def checkTypes (env : Environment) (actual expected : List ValueType) : Verdict :=
  if env.types.allCompatible actual expected then .ok () else .error .sequenceMismatch

end Environment

@[ext]
structure Outcome (α : Type) where
  result : Except Fault α
  state : State
  events : List Event

namespace Outcome

variable {α : Type}

/-- The diagnostics among the events, in order. -/
def diagnostics (outcome : Outcome α) : List Diagnostic :=
  outcome.events.filterMap Event.diagnostic?

end Outcome

def Check (α : Type) : Type :=
  Environment → State → Outcome α

namespace Check

variable {α β : Type}

protected def pure (value : α) : Check α := fun _ state =>
  ⟨.ok value, state, []⟩

/-- Go on with the value of a check, unless it ended in a fault. -/
protected def bind (check : Check α) (next : α → Check β) : Check β := fun env state =>
  let before := check env state
  match before.result with
  | .error fault => ⟨.error fault, before.state, before.events⟩
  | .ok value =>
    let after := next value env before.state
    ⟨after.result, after.state, before.events ++ after.events⟩

instance : Monad Check where
  pure := Check.pure
  bind := Check.bind

/-- Run a second check after the first in any case. The first fault counts. -/
def also (first second : Check Unit) : Check Unit := fun env state =>
  let before := first env state
  let after := second env before.state
  ⟨Verdict.and before.result after.result, after.state, before.events ++ after.events⟩

/-- Run every check of a list. The first fault counts. -/
def all : List (Check Unit) → Check Unit
  | [] => .pure ()
  | check :: rest => check.also (all rest)

/-- Run a check and hand on its verdict as a value. -/
def attempt (check : Check Unit) : Check Verdict := fun env state =>
  let outcome := check env state
  ⟨.ok outcome.result, outcome.state, outcome.events⟩

/-- End with a verdict reached before. -/
def settle (verdict : Verdict) : Check Unit := fun _ state =>
  ⟨verdict, state, []⟩

/-- Settle a verdict, and say what is wrong if it is a fault. -/
def explain (verdict : Verdict) (diagnostic : State → Diagnostic) : Check Unit := fun _ state =>
  ⟨verdict, state,
    match verdict with
    | .ok _ => []
    | .error _ => [.reported (diagnostic state)]⟩

def observe (view : Environment → State → α) : Check α := fun env state =>
  ⟨.ok (view env state), state, []⟩

/-- Get an answer that depends on the state and does not change it, or complain. -/
def ask (question : Environment → State → Except Complaint α) : Check α := fun env state =>
  let answer := question env state
  ⟨answer.mapError Complaint.fault, state,
    match answer with
    | .ok _ => []
    | .error complaint => [.reported complaint.diagnostic]⟩

/-- Complain unless a condition holds. -/
def ensure (holds : Bool) (complaint : Complaint) : Check Unit :=
  ask fun _ _ => if holds then .ok () else .error complaint

def complain (complaint : Complaint) : Check Unit :=
  ask fun _ _ => .error complaint

/-- Change the state and log what happens to it. -/
def act (change : State → State) (log : State → List Event) : Check Unit := fun _ state =>
  ⟨.ok (), change state, log state⟩

def modify (change : State → State) : Check Unit :=
  act change fun _ => []

/-! ## What each way of going on does -/

theorem pure_apply (value : α) (env : Environment) (state : State) :
    (Pure.pure value : Check α) env state = ⟨.ok value, state, []⟩ := rfl

theorem bind_apply_ok {check : Check α} {next : α → Check β} {env : Environment}
    {state : State} {value : α} (succeeded : (check env state).result = .ok value) :
    (check >>= next) env state =
      ⟨(next value env (check env state).state).result,
        (next value env (check env state).state).state,
        (check env state).events ++ (next value env (check env state).state).events⟩ := by
  show Check.bind check next env state = _
  simp only [Check.bind, succeeded]

theorem bind_apply_error {check : Check α} {next : α → Check β} {env : Environment}
    {state : State} {fault : Fault} (failed : (check env state).result = .error fault) :
    (check >>= next) env state =
      ⟨.error fault, (check env state).state, (check env state).events⟩ := by
  show Check.bind check next env state = _
  simp only [Check.bind, failed]

theorem also_apply (first second : Check Unit) (env : Environment) (state : State) :
    (first.also second) env state =
      ⟨Verdict.and (first env state).result (second env (first env state).state).result,
        (second env (first env state).state).state,
        (first env state).events ++ (second env (first env state).state).events⟩ := rfl

end Check

end WasmTyping
