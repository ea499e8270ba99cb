import WasmTyping.Checker.Effect
import WasmTyping.Checker.Regions

/-!
# Branches, calls and selection

Checks of the instructions whose stack effect depends on a label, on a registered
type or on the operands themselves.
-/

set_option autoImplicit false

namespace WasmTyping

/-- The verdict on the operands of `select` and the type it leaves. Without a
declared type the operands must not be references. -/
def selectVerdict (env : Environment) (state : State) (declared : Option ValueType) :
    Verdict × ValueType :=
  let present := Verdict.and (operandVerdict env state 0 .i32)
    (Verdict.and (Verdict.of (state.peek 1)) (Verdict.of (state.peek 2)))
  let first := state.peekD 1
  let second := state.peekD 2
  match declared with
  | some type =>
    (Verdict.and present (Verdict.and (env.checkType first type) (env.checkType second type)),
      type)
  | none =>
    if first.isReference || second.isReference then
      (Verdict.and present (.error .untypedSelect), .any)
    else
      (Verdict.and present (env.checkType first second), first)

/-- Whether two targets of one `br_table` agree: in number of values where
references are enabled, in the exact types otherwise. -/
def tableTargetsAgree (features : Features) (first next : List ValueType) : Bool :=
  if features.referenceTypes then first.length == next.length else first == next

/-- Compare what a target of a `br_table` carries with the first target. -/
def checkTableTypes (env : Environment) (state : State) (types : List ValueType) :
    Except Complaint Unit :=
  match state.tableTypes with
  | none => .ok ()
  | some first =>
    if tableTargetsAgree env.features first types then .ok ()
    else .error ⟨.tableTargets first types, .tableTargets⟩

/-- The values of a clause of `try_table` must fit the label it branches to. -/
def checkCatchValues (env : Environment) (state : State) (values : List ValueType)
    (depth : Nat) : Except Complaint Unit :=
  match state.resolve depth with
  | .error complaint => .error complaint
  | .ok label =>
    if env.types.allCompatible values label.branchTypes then .ok ()
    else .error ⟨.catchValues label.branchTypes values, .catchValues⟩

/-- The results of a tail call must be results of the whole body. -/
def checkTailResults (env : Environment) (label : Label) (results : List ValueType) :
    Except Complaint Unit :=
  if env.types.allCompatible results label.results then .ok ()
  else .error ⟨.returnResults label.results results, .returnResults⟩

namespace Check

def drop : Check Unit := do
  let verdict ← attempt (dropTypes 1)
  explain verdict fun state => state.mismatch .inside "drop" [.any]

def select (declared : Option ValueType) : Check Unit := do
  let (verdict, type) ← observe fun env state => selectVerdict env state declared
  all [
    explain verdict fun state => state.mismatch .inside "select" [type, type, .i32],
    dropTypes 3,
    pushTypes [type]]

def br (depth : Nat) : Check Unit := do
  let label ← resolve depth
  (checkSignature label.branchTypes "br").also setUnreachable

/-- A depth without a label is the fault that counts, whatever the condition. -/
def brIf (depth : Nat) : Check Unit := do
  let condition ← attempt (popSignature [.i32] "br_if")
  let label ← resolve depth
  all [
    settle condition,
    popSignature label.branchTypes "br_if",
    pushTypes label.branchTypes]

/-- First step of `br_table`: take the selector. -/
def beginBrTable : Check Unit :=
  (modify fun state => { state with tableTypes := none }).also
    (popSignature [.i32] "br_table")

/-- One target of `br_table`, the default included. The first target is kept for
comparison. -/
def brTableTarget (depth : Nat) : Check Unit := do
  let label ← resolve depth
  let types := label.branchTypes
  all [
    checkSignature types "br_table",
    ask fun env state => checkTableTypes env state types,
    modify fun state => { state with tableTypes := some (state.tableTypes.getD types) }]

/-- Last step of `br_table`: nothing after it is executed. -/
def endBrTable : Check Unit :=
  (modify fun state => { state with tableTypes := none }).also setUnreachable

/-- After `br_on_null` the reference stays, known not to be null. -/
def brOnNull (depth : Nat) : Check Unit := do
  let (type, verdict) ← popReference "br_on_null"
  let label ← resolve depth
  all [
    settle verdict,
    checkSignature label.branchTypes "br_on_null",
    pushTypes [type.asNonNull]]

/-- The last value of a branch on a non-null reference must accept it. -/
def checkNonNull (actual expected : ValueType) : Check Unit := do
  let verdict ← observe fun env _ => env.checkType actual expected
  explain verdict fun _ => .nonNullOperand expected actual

/-- The branch of `br_on_non_null` carries the reference as its last value. -/
def brOnNonNull (depth : Nat) : Check Unit := do
  let (type, verdict) ← popReference "br_on_non_null"
  let label ← resolve depth
  match label.branchTypes.getLast? with
  | none => (settle verdict).also (complain ⟨.nonNullTarget, .targetWithoutReference⟩)
  | some last =>
    all [
      settle verdict,
      checkNonNull type.asNonNull last,
      checkSignature label.branchTypes.dropLast "br_on_non_null"]

/-- Remove the values of an exception and leave the region. -/
def throwValues (values : List ValueType) (construct : String) : Check Unit :=
  (popSignature values construct).also setUnreachable

def tryTableCatch (values : List ValueType) (depth : Nat) : Check Unit :=
  ask fun env state => checkCatchValues env state values depth

def callRef (index : Nat) : Check Unit := do
  let type ← resolveType index
  Effect.check ⟨"call_ref", [[.ref index true], type.params], type.results⟩

def returnValues : Check Unit := do
  let label ← outermost
  (popSignature label.results "return").also setUnreachable

/-- Leave the whole body with the results of a call. -/
def leaveWith (results : List ValueType) : Check Unit := do
  let label ← outermost
  (ask fun env _ => checkTailResults env label results).also setUnreachable

/-- A tail call removes its operands and leaves the body. -/
def tailCall (construct : String) (pops : List (List ValueType)) (results : List ValueType) :
    Check Unit :=
  (popSignatures pops construct).also (leaveWith results)

def returnCallRef (index : Nat) : Check Unit := do
  let type ← resolveType index
  tailCall "return_call_ref" [[.ref index true], type.params] type.results

def refIsNull : Check Unit := do
  let (_, verdict) ← popReference "ref.is_null"
  (settle verdict).also (pushTypes [.i32])

def refAsNonNull : Check Unit := do
  let (type, verdict) ← popReference "ref.as_non_null"
  (settle verdict).also (pushTypes [type.asNonNull])

end Check

end WasmTyping
