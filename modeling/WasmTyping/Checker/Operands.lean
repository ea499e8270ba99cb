import WasmTyping.Checker.Check

/-!
# Operands

Checks that resolve labels and compare or remove operands of the innermost
region.
-/

set_option autoImplicit false

namespace WasmTyping

def operandVerdict (env : Environment) (state : State) (depth : Nat) (expected : ValueType) :
    Verdict :=
  match state.peek depth with
  | .ok actual => env.checkType actual expected
  | .error fault => .error fault

/-- The verdict on the operands at the top of the innermost region against a
signature, deepest operand first. -/
def signatureVerdict (env : Environment) (state : State) : List ValueType → Verdict
  | [] => .ok ()
  | expected :: rest =>
    Verdict.and (operandVerdict env state rest.length expected) (signatureVerdict env state rest)

/-- Only an unreachable region can give up more operands than it holds. -/
def discardVerdict (state : State) (count : Nat) : Verdict :=
  if state.region.length < count && !state.isUnreachable then .error .stackUnderflow else .ok ()

def emptyVerdict (state : State) : Verdict :=
  if state.operands.length = state.limit then .ok () else .error .stackNotEmpty

namespace Check

def resolve (depth : Nat) : Check Label :=
  ask fun _ state => state.resolve depth

def innermost : Check Label :=
  resolve 0

def outermost : Check Label :=
  ask fun _ state => state.outermost

def resolveType (index : Nat) : Check FuncType :=
  ask fun env _ =>
    match env.types.get? index with
    | some type => .ok type
    | none => .error (.invalidIndex .type index)

def checkSignature (signature : List ValueType) (construct : String) : Check Unit := do
  let verdict ← observe fun env state => signatureVerdict env state signature
  explain verdict fun state => state.mismatch .inside construct signature

/-- Remove operands. To remove more than the region holds empties the region, and
is a fault where the region is reachable. -/
def dropTypes (count : Nat) : Check Unit := do
  let _ ← innermost
  let verdict ← observe fun _ state => discardVerdict state count
  modify fun state => state.discard count
  settle verdict

def popSignature (signature : List ValueType) (construct : String) : Check Unit :=
  (checkSignature signature construct).also (dropTypes signature.length)

def popSignatures (signatures : List (List ValueType)) (construct : String) : Check Unit :=
  all (signatures.map fun signature => popSignature signature construct)

def pushTypes (types : List ValueType) : Check Unit :=
  modify fun state => state.push types

def checkRegionEmpty (construct : String) : Check Unit := do
  let _ ← innermost
  let verdict ← observe fun _ state => emptyVerdict state
  explain verdict fun state => state.mismatch .atEnd construct []

/-- Remove a reference and hand on its type, `any` where there is no operand,
together with the verdict on it. -/
def popReference (construct : String) : Check (ValueType × Verdict) := do
  let type ← observe fun _ state => state.peekD 0
  let verdict ← attempt ((ask fun _ state => state.checkReference construct).also (dropTypes 1))
  return (type, verdict)

def checkLane (count lane : Nat) (fault : Fault) : Check Unit :=
  ensure (lane < count) ⟨.laneOutOfRange count lane, fault⟩

end Check

end WasmTyping
