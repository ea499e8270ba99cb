import WasmTyping.Checker.Operands

/-!
# Regions

Checks that open, continue, close or abandon the innermost region.
-/

set_option autoImplicit false

namespace WasmTyping

namespace Check

def enterRegion (kind : LabelKind) (params results : List ValueType) : Check Unit :=
  act (fun state => state.enter kind params results)
    fun state => [.opened kind params results state.operands.length]

def enterBody (kind : LabelKind) (results : List ValueType) : Check Unit :=
  (modify fun _ => .empty).also (enterRegion kind [] results)

def setUnreachable : Check Unit := do
  let label ← innermost
  act State.markUnreachable fun _ => [.unreachable label.kind]

def requireKind (rule : LabelRule) (label : Label) : Check Unit :=
  ensure (rule.allows label.kind) ⟨.labelKind rule, .labelKind rule⟩

/-- The operands of the region must be exactly its results. -/
def checkResults (label : Label) (construct last : String) : Check Unit :=
  (popSignature label.results construct).also (checkRegionEmpty last)

def closeLabel : Check Unit :=
  act State.leave fun state => state.labels.head?.toList.map fun label => .closed label.kind

def leaveRegion (label : Label) (construct last : String) : Check Unit :=
  (checkResults label construct last).also closeLabel

def closeUnder (rule : LabelRule) (construct last : String) : Check Unit := do
  let label ← innermost
  (requireKind rule label).also (leaveRegion label construct last)

def nextArm (rule : LabelRule) (label : Label) (construct : String) (kind : LabelKind)
    (types : List ValueType) : Check Unit :=
  all [
    requireKind rule label,
    checkResults label construct construct,
    modify fun state => state.beginArm kind types]

def elseArm : Check Unit := do
  let label ← innermost
  nextArm .elseAfterIf label "if true branch" .elseArm label.params

/-- A `catch` arm begins with the values of its tag, a `catch_all` arm with none. -/
def catchArm (values : List ValueType) : Check Unit := do
  let label ← innermost
  nextArm .catchAfterTry label "try block" .catchArm values

/-- The `end` of a region. An `if` without `else` has an empty second arm. -/
def endRegion : Check Unit := do
  let label ← innermost
  if label.kind = .ifThen then
    elseArm.also (leaveRegion label LabelKind.elseArm.text LabelKind.elseArm.text)
  else
    leaveRegion label label.kind.text label.kind.text

/-- Depths are 32-bit numbers; counting further stays at the greatest one. -/
def greatestDepth : Nat := 4294967295

/-- A `delegate` closes a `try`; its depth is counted from outside of it. -/
def delegate (depth : Nat) : Check Unit := do
  let _ ← resolve (min (depth + 1) greatestDepth)
  closeUnder .delegateAfterTry "try block" "try block"

def rethrow (depth : Nat) : Check Unit := do
  ask fun _ state => state.checkRethrow depth
  setUnreachable

/-- The number of open `catch` regions up to a depth. It is not cut off at the greatest
depth, which it passes only inside `2 ^ 32` such regions. -/
def catchCount (depth : Nat) : Check Nat := do
  let _ ← resolve depth
  observe fun _ state =>
    (state.labels.take (depth + 1)).countP fun label => label.kind = .catchArm

end Check

end WasmTyping
