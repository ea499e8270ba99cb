import WasmTyping.Checker.Operation

/-!
# The checker over numbered labels and operands

The operations of the checker once more, on stacks that are accessed by number:
labels are numbered from the outermost, operands from the deepest, and a label is
looked up again at every use. Each look-up and each difference of sizes is
guarded. There is no outcome where a number is out of range or where a difference
would be negative, in particular where a limit exceeds the height of the stack.
-/

set_option autoImplicit false

namespace WasmTyping

/-- A difference of sizes, where it is not negative. -/
def difference? (whole part : Nat) : Option Nat :=
  if part ≤ whole then some (whole - part) else none

namespace State

/-- The label with a number, counted from the outermost. -/
def labelAt? (state : State) (number : Nat) : Option Label :=
  state.labels.reverse[number]?

/-- Change the label with a number. -/
def changeLabelAt? (state : State) (number : Nat) (change : Label → Label) : Option State :=
  if number < state.labels.length then
    some { state with labels := (state.labels.reverse.modify number change).reverse }
  else none

/-- The labels from a number on, up to the innermost. -/
def labelsFrom? (state : State) (number : Nat) : Option (List Label) :=
  if number ≤ state.labels.length then some (state.labels.reverse.drop number) else none

def truncate (state : State) (height : Nat) : State :=
  { state with operands := state.operands.take height }

/-- The number of the label that a depth names. -/
def resolveNumber? (state : State) (depth : Nat) : Option (Except Complaint Nat) :=
  if state.labels.isEmpty then some (.error ⟨.noOpenBlock, .noOpenLabel⟩)
  else do
    let greatest ← difference? state.labels.length 1
    if depth ≤ greatest then
      let number ← difference? greatest depth
      some (.ok number)
    else some (.error ⟨.depthOutOfRange depth greatest, .depthOutOfRange⟩)

/-- The number of the label of the whole body. -/
def outermostNumber (state : State) : Except Complaint Nat :=
  if state.labels.isEmpty then .error ⟨.noOpenBlock, .noOpenLabel⟩ else .ok 0

/-- The operand a number of entries below the top, looked up by number. -/
def peekAt? (state : State) (depth : Nat) : Option (Except Fault ValueType) :=
  match state.labels.head? with
  | none => some (.error .noOpenLabel)
  | some label => do
    let available ← difference? state.operands.length label.limit
    if available ≤ depth then
      some (if label.unreachable then .ok .any else .error .stackUnderflow)
    else
      let above ← difference? state.operands.length depth
      let number ← difference? above 1
      let type ← state.operands[number]?
      some (.ok type)

/-- The report of operands that do not fit, cut out of the whole stack. -/
def mismatchAt? (state : State) (place : Place) (construct : String)
    (expected : List ValueType) : Option Diagnostic := do
  let depth ← difference? state.operands.length state.limit
  let shown := min (if expected.isEmpty then shownWithoutExpectation else expected.length) depth
  let start ← difference? state.operands.length shown
  some (.mismatch place construct expected (state.operands.drop start) (shown != depth))

end State

def operandVerdict? (env : Environment) (state : State) (depth : Nat) (expected : ValueType) :
    Option Verdict := do
  match ← state.peekAt? depth with
  | .ok actual => some (env.checkType actual expected)
  | .error fault => some (.error fault)

/-- The verdict on the operands for a signature of some length, from a position
in it on. -/
def signatureVerdictFrom? (env : Environment) (state : State) (length : Nat) :
    Nat → List ValueType → Option Verdict
  | _, [] => some (.ok ())
  | position, expected :: rest => do
    let below ← difference? length position
    let depth ← difference? below 1
    let verdict ← operandVerdict? env state depth expected
    let others ← signatureVerdictFrom? env state length (position + 1) rest
    some (Verdict.and verdict others)

/-- The verdict on the operands of `select` and the type it leaves. -/
def selectVerdict? (env : Environment) (state : State) (declared : Option ValueType) :
    Option (Verdict × ValueType) := do
  let condition ← operandVerdict? env state 0 .i32
  let first ← state.peekAt? 1
  let second ← state.peekAt? 2
  let present := Verdict.and condition (Verdict.and (Verdict.of first) (Verdict.of second))
  let left := first.toOption.getD .any
  let right := second.toOption.getD .any
  match declared with
  | some type =>
    some (Verdict.and present (Verdict.and (env.checkType left type) (env.checkType right type)),
      type)
  | none =>
    if left.isReference || right.isReference then
      some (Verdict.and present (.error .untypedSelect), .any)
    else some (Verdict.and present (env.checkType left right), left)

/-- A check without an outcome where an access is out of range. -/
def Guarded (α : Type) : Type :=
  Environment → State → Option (Outcome α)

namespace Guarded

variable {α β : Type}

/-- A check that makes no access by number. -/
def of (check : Check α) : Guarded α := fun env state =>
  some (check env state)

protected def bind (check : Guarded α) (next : α → Guarded β) : Guarded β := fun env state => do
  let before ← check env state
  match before.result with
  | .error fault => some ⟨.error fault, before.state, before.events⟩
  | .ok value =>
    let after ← next value env before.state
    some ⟨after.result, after.state, before.events ++ after.events⟩

instance : Monad Guarded where
  pure value := of (Check.pure value)
  bind := Guarded.bind

def also (first second : Guarded Unit) : Guarded Unit := fun env state => do
  let before ← first env state
  let after ← second env before.state
  some ⟨Verdict.and before.result after.result, after.state, before.events ++ after.events⟩

def all : List (Guarded Unit) → Guarded Unit
  | [] => of (Check.pure ())
  | check :: rest => check.also (all rest)

def attempt (check : Guarded Unit) : Guarded Verdict := fun env state => do
  let outcome ← check env state
  some ⟨.ok outcome.result, outcome.state, outcome.events⟩

/-- Look at the state. -/
def view (look : Environment → State → Option α) : Guarded α := fun env state => do
  let value ← look env state
  some ⟨.ok value, state, []⟩

def ask (question : Environment → State → Option (Except Complaint α)) : Guarded α :=
  fun env state => do
    let answer ← question env state
    of (Check.ask fun _ _ => answer) env state

def change (next : State → Option State) : Guarded Unit := fun _ state => do
  let after ← next state
  some ⟨.ok (), after, []⟩

/-- Settle a verdict; only a fault has a diagnostic. -/
def explain (verdict : Verdict) (diagnostic : State → Option Diagnostic) : Guarded Unit :=
  fun _ state =>
    match verdict with
    | .ok _ => some ⟨verdict, state, []⟩
    | .error _ => do
      let said ← diagnostic state
      some ⟨verdict, state, [.reported said]⟩

/-! ## Operands -/

/-- The number of the label that a depth names. -/
def resolve (depth : Nat) : Guarded Nat :=
  ask fun _ state => state.resolveNumber? depth

def innermost : Guarded Nat :=
  resolve 0

def outermost : Guarded Nat :=
  ask fun _ state => some state.outermostNumber

def labelAt (number : Nat) : Guarded Label :=
  view fun _ state => state.labelAt? number

def checkSignature (signature : List ValueType) (construct : String) : Guarded Unit := do
  let verdict ← view fun env state =>
    signatureVerdictFrom? env state signature.length 0 signature
  explain verdict fun state => state.mismatchAt? .inside construct signature

def dropTypes (count : Nat) : Guarded Unit := do
  let top ← innermost
  let label ← labelAt top
  let available ← view fun _ state => difference? state.operands.length label.limit
  if available < count then
    change fun state => some (state.truncate label.limit)
    of (.settle (if label.unreachable then .ok () else .error .stackUnderflow))
  else
    change fun state => do
      let height ← difference? state.operands.length count
      some (state.truncate height)

def popSignature (signature : List ValueType) (construct : String) : Guarded Unit :=
  (checkSignature signature construct).also (dropTypes signature.length)

def popSignatures (signatures : List (List ValueType)) (construct : String) : Guarded Unit :=
  all (signatures.map fun signature => popSignature signature construct)

def pushTypes (types : List ValueType) : Guarded Unit :=
  of (.pushTypes types)

def checkRegionEmpty (construct : String) : Guarded Unit := do
  let top ← innermost
  let label ← labelAt top
  let verdict ← view fun _ state =>
    some (if state.operands.length = label.limit then .ok () else .error .stackNotEmpty)
  explain verdict fun state => state.mismatchAt? .atEnd construct []

/-- Whether an operand that was read is a reference or unknown. -/
def checkReference (construct : String) : Except Fault ValueType → Except Complaint Unit
  | .error fault => .error ⟨.expectedReference construct none, fault⟩
  | .ok type =>
    if type = .any || type.isReference then .ok ()
    else .error ⟨.expectedReference construct (some type), .operandNotReference⟩

/-- Remove a reference and hand on its type together with the verdict on it. -/
def popReference (construct : String) : Guarded (ValueType × Verdict) := do
  let peeked ← view fun _ state => state.peekAt? 0
  let verdict ← attempt
    ((of (.ask fun _ _ => checkReference construct peeked)).also (dropTypes 1))
  return (peeked.toOption.getD .any, verdict)

/-! ## Regions -/

/-- Cut the stack back to the limit of a label. -/
def resetTo (number : Nat) : Guarded Unit := do
  let label ← labelAt number
  change fun state => some (state.truncate label.limit)

def setUnreachable : Guarded Unit := do
  let top ← innermost
  let label ← labelAt top
  of (.act id fun _ => [.unreachable label.kind])
  change fun state => state.changeLabelAt? top fun label => { label with unreachable := true }
  resetTo top

def requireKind (rule : LabelRule) (number : Nat) : Guarded Unit := do
  let label ← labelAt number
  of (.requireKind rule label)

def checkResults (number : Nat) (construct last : String) : Guarded Unit := do
  let label ← labelAt number
  (popSignature label.results construct).also (checkRegionEmpty last)

/-- Take the innermost label away. -/
def popLabel : Guarded Unit :=
  of (.act (fun state => { state with labels := state.labels.tail }) fun state =>
    state.labels.head?.toList.map fun label => .closed label.kind)

/-- End the region of a label. -/
def leaveRegion (number : Nat) (construct last : String) : Guarded Unit := do
  let label ← labelAt number
  all [
    checkResults number construct last,
    resetTo number,
    pushTypes label.results,
    popLabel]

def closeUnder (rule : LabelRule) (construct last : String) : Guarded Unit := do
  let top ← innermost
  (requireKind rule top).also (leaveRegion top construct last)

/-- Mark the region of a label as another arm of the same construct. -/
def beginKind (number : Nat) (kind : LabelKind) : Guarded Unit :=
  change fun state => state.changeLabelAt? number fun label =>
    { label with kind := kind, unreachable := false }

def elseArm : Guarded Unit := do
  let top ← innermost
  all [
    requireKind .elseAfterIf top,
    checkResults top "if true branch" "if true branch",
    resetTo top,
    (do
      let label ← labelAt top
      pushTypes label.params),
    beginKind top .elseArm]

def catchArm (values : List ValueType) : Guarded Unit := do
  let top ← innermost
  all [
    requireKind .catchAfterTry top,
    checkResults top "try block" "try block",
    resetTo top,
    beginKind top .catchArm,
    pushTypes values]

def endRegion : Guarded Unit := do
  let top ← innermost
  let label ← labelAt top
  let completed ← attempt (if label.kind = .ifThen then elseArm else of (.pure ()))
  let label ← labelAt top
  (of (.settle completed)).also (leaveRegion top label.kind.text label.kind.text)

def delegate (depth : Nat) : Guarded Unit := do
  let _ ← resolve (min (depth + 1) Check.greatestDepth)
  closeUnder .delegateAfterTry "try block" "try block"

def rethrow (depth : Nat) : Guarded Unit := do
  let target ← resolve depth
  let label ← labelAt target
  ask fun _ state => some <|
    if label.kind = .catchArm then .ok ()
    else if state.catchDepths.isEmpty then .error ⟨.rethrowOutsideCatch, .rethrowTarget⟩
    else .error ⟨.rethrowTarget depth state.catchDepths, .rethrowTarget⟩
  setUnreachable

/-- The number of open `catch` regions up to a depth. -/
def catchCount (depth : Nat) : Guarded Nat := do
  let target ← resolve depth
  let labels ← view fun _ state => state.labelsFrom? target
  return labels.countP fun label => label.kind = .catchArm

/-! ## Branches, calls and selection -/

def effect (effect : Effect) : Guarded Unit :=
  (popSignatures effect.pops effect.construct).also (pushTypes effect.pushes)

def drop : Guarded Unit := do
  let verdict ← attempt (dropTypes 1)
  explain verdict fun state => state.mismatchAt? .inside "drop" [.any]

def select (declared : Option ValueType) : Guarded Unit := do
  let (verdict, type) ← view fun env state => selectVerdict? env state declared
  all [
    explain verdict fun state => state.mismatchAt? .inside "select" [type, type, .i32],
    dropTypes 3,
    pushTypes [type]]

def br (depth : Nat) : Guarded Unit := do
  let target ← resolve depth
  let label ← labelAt target
  (checkSignature label.branchTypes "br").also setUnreachable

def brIf (depth : Nat) : Guarded Unit := do
  let condition ← attempt (popSignature [.i32] "br_if")
  let target ← resolve depth
  let label ← labelAt target
  all [
    of (.settle condition),
    popSignature label.branchTypes "br_if",
    pushTypes label.branchTypes]

/-- Set what the first target of a `br_table` carries. -/
def keepTable (types : State → Option (List ValueType)) : Guarded Unit :=
  change fun state => some { state with tableTypes := types state }

def beginBrTable : Guarded Unit :=
  (keepTable fun _ => none).also (popSignature [.i32] "br_table")

def brTableTarget (depth : Nat) : Guarded Unit := do
  let target ← resolve depth
  let label ← labelAt target
  let types := label.branchTypes
  all [
    checkSignature types "br_table",
    of (.ask fun env state => checkTableTypes env state types),
    keepTable fun state => some (state.tableTypes.getD types)]

def endBrTable : Guarded Unit :=
  (keepTable fun _ => none).also setUnreachable

def brOnNull (depth : Nat) : Guarded Unit := do
  let (type, verdict) ← popReference "br_on_null"
  let target ← resolve depth
  let label ← labelAt target
  all [
    of (.settle verdict),
    checkSignature label.branchTypes "br_on_null",
    pushTypes [type.asNonNull]]

def brOnNonNull (depth : Nat) : Guarded Unit := do
  let (type, verdict) ← popReference "br_on_non_null"
  let target ← resolve depth
  let label ← labelAt target
  match label.branchTypes.getLast? with
  | none => (of (.settle verdict)).also (of (.complain ⟨.nonNullTarget, .targetWithoutReference⟩))
  | some last =>
    all [
      of (.settle verdict),
      of (.checkNonNull type.asNonNull last),
      checkSignature label.branchTypes.dropLast "br_on_non_null"]

def throwValues (values : List ValueType) (construct : String) : Guarded Unit :=
  (popSignature values construct).also setUnreachable

def tryTableCatch (values : List ValueType) (depth : Nat) : Guarded Unit := do
  let target ← resolve depth
  let label ← labelAt target
  of (.ask fun env _ =>
    if env.types.allCompatible values label.branchTypes then .ok ()
    else .error ⟨.catchValues label.branchTypes values, .catchValues⟩)

def callRef (index : Nat) : Guarded Unit := do
  let type ← of (.resolveType index)
  effect ⟨"call_ref", [[.ref index true], type.params], type.results⟩

def returnValues : Guarded Unit := do
  let body ← outermost
  let label ← labelAt body
  (popSignature label.results "return").also setUnreachable

def leaveWith (results : List ValueType) : Guarded Unit := do
  let body ← outermost
  let label ← labelAt body
  (of (.ask fun env _ => checkTailResults env label results)).also setUnreachable

def tailCall (construct : String) (pops : List (List ValueType)) (results : List ValueType) :
    Guarded Unit :=
  (popSignatures pops construct).also (leaveWith results)

def returnCallRef (index : Nat) : Guarded Unit := do
  let type ← of (.resolveType index)
  tailCall "return_call_ref" [[.ref index true], type.params] type.results

def refIsNull : Guarded Unit := do
  let (_, verdict) ← popReference "ref.is_null"
  (of (.settle verdict)).also (pushTypes [.i32])

def refAsNonNull : Guarded Unit := do
  let (type, verdict) ← popReference "ref.as_non_null"
  (of (.settle verdict)).also (pushTypes [type.asNonNull])

end Guarded

/-- An operation over numbered labels and operands. -/
def Operation.runGuarded : Operation → Guarded Unit
  | beginFunction results => .of (.enterBody .function results)
  | endFunction => .closeUnder .functionEnd "implicit return" "function"
  | beginInitExpr type => .of (.enterBody .initExpr [type])
  | endInitExpr => .closeUnder .initExprEnd "initializer expression" "initializer expression"
  | enter opening params results =>
    (Guarded.popSignatures (opening.pops params) opening.name).also
      (.of (.enterRegion opening.label params results))
  | elseArm => .elseArm
  | endBlock => .endRegion
  | catchArm values => .catchArm values
  | delegate depth => .delegate depth
  | rethrow depth => .rethrow depth
  | throwTag values => .throwValues values "throw"
  | throwRef => .throwValues [.exnref] "throw_ref"
  | beginTryTable params => .popSignature params "try_table"
  | tryTableCatch values depth => .tryTableCatch values depth
  | finishTryTable params results => .of (.enterRegion .tryTable params results)
  | br depth => .br depth
  | brIf depth => .brIf depth
  | beginBrTable => .beginBrTable
  | brTableTarget depth => .brTableTarget depth
  | endBrTable => .endBrTable
  | brOnNull depth => .brOnNull depth
  | brOnNonNull depth => .brOnNonNull depth
  | callRef type => .callRef type
  | returnValues => .returnValues
  | returnCall params results => .tailCall "return_call" [params] results
  | returnCallIndirect params results table =>
    .tailCall "return_call_indirect" [[table.indexType], params] results
  | returnCallRef type => .returnCallRef type
  | plain instruction => .effect instruction.effect
  | lane op index =>
    (Guarded.of (.checkLane op.laneCount index .laneOutOfRange)).also
      (.effect (Plain.numeric op).effect)
  | shuffle op lanes =>
    (Guarded.all (lanes.map fun lane =>
      .of (.checkLane shuffleLaneCount lane .shuffleLaneOutOfRange))).also
      (.effect (Plain.numeric op).effect)
  | laneAccess op memory index =>
    (Guarded.of (.checkLane op.laneCount index .laneOutOfRange)).also
      (.effect (Plain.access op memory).effect)
  | drop => .drop
  | select declared => .select declared
  | unreachable => .setUnreachable
  | refIsNull => .refIsNull
  | refAsNonNull => .refAsNonNull
  | checkType actual expected => .of (Operation.checkType actual expected).run
  | checkTypes actual expected => .of (Operation.checkTypes actual expected).run
  | dropTypes count => .dropTypes count

end WasmTyping
