import WasmTyping.Diagnostic

/-!
# Checker state

The operand stack, deepest entry first, and the open labels, innermost first. The
limits of the labels cut the stack into regions; the innermost region is the part
that the current instruction may use.
-/

set_option autoImplicit false

namespace WasmTyping

structure State where
  operands : List ValueType
  labels : List Label
  /-- What the first target of a `br_table` in progress carries. -/
  tableTypes : Option (List ValueType)
  deriving DecidableEq

namespace State

def empty : State := ⟨[], [], none⟩

def limit (state : State) : Nat :=
  match state.labels with
  | [] => 0
  | label :: _ => label.limit

/-- The operands of the innermost region, the whole stack without a label. -/
def region (state : State) : List ValueType :=
  state.operands.drop state.limit

/-- Nothing can be executed in an unreachable region, nor without a label. -/
def isUnreachable (state : State) : Bool :=
  match state.labels with
  | [] => true
  | label :: _ => label.unreachable

def label? (state : State) (depth : Nat) : Option Label :=
  state.labels[depth]?

def resolve (state : State) (depth : Nat) : Except Complaint Label :=
  match state.label? depth with
  | some label => .ok label
  | none =>
    if state.labels.isEmpty then .error ⟨.noOpenBlock, .noOpenLabel⟩
    else .error ⟨.depthOutOfRange depth (state.labels.length - 1), .depthOutOfRange⟩

def outermost (state : State) : Except Complaint Label :=
  match state.labels.getLast? with
  | some label => .ok label
  | none => .error ⟨.noOpenBlock, .noOpenLabel⟩

/-- The operand a number of entries below the top of the innermost region.
Below the region an unreachable one yields `any`. -/
def peek (state : State) (depth : Nat) : Except Fault ValueType :=
  match state.labels with
  | [] => .error .noOpenLabel
  | label :: _ =>
    match state.region.reverse[depth]? with
    | some type => .ok type
    | none => if label.unreachable then .ok .any else .error .stackUnderflow

def push (state : State) (types : List ValueType) : State :=
  { state with operands := state.operands ++ types }

/-- Remove operands from the top, at most those of the innermost region. -/
def discard (state : State) (count : Nat) : State :=
  { state with
    operands := state.operands.take (max state.limit (state.operands.length - count)) }

def enter (state : State) (kind : LabelKind) (params results : List ValueType) : State :=
  { state with
    operands := state.operands ++ params
    labels := ⟨kind, params, results, state.operands.length, false⟩ :: state.labels }

def markUnreachable (state : State) : State :=
  match state.labels with
  | [] => state
  | label :: outer =>
    { state with
      operands := state.operands.take label.limit
      labels := { label with unreachable := true } :: outer }

def beginArm (state : State) (kind : LabelKind) (types : List ValueType) : State :=
  match state.labels with
  | [] => state
  | label :: outer =>
    { state with
      operands := state.operands.take label.limit ++ types
      labels := { label with kind := kind, unreachable := false } :: outer }

def leave (state : State) : State :=
  match state.labels with
  | [] => state
  | label :: outer =>
    { state with
      operands := state.operands.take label.limit ++ label.results
      labels := outer }

def catchDepths (state : State) : List Nat :=
  (state.labels.zipIdx.filter fun entry => entry.1.kind = .catchArm).map Prod.snd

def checkRethrow (state : State) (depth : Nat) : Except Complaint Unit :=
  match state.resolve depth with
  | .error complaint => .error complaint
  | .ok label =>
    if label.kind = .catchArm then .ok ()
    else if state.catchDepths.isEmpty then .error ⟨.rethrowOutsideCatch, .rethrowTarget⟩
    else .error ⟨.rethrowTarget depth state.catchDepths, .rethrowTarget⟩

def checkReference (state : State) (construct : String) : Except Complaint Unit :=
  match state.peek 0 with
  | .error fault => .error ⟨.expectedReference construct none, fault⟩
  | .ok type =>
    if type = .any || type.isReference then .ok ()
    else .error ⟨.expectedReference construct (some type), .operandNotReference⟩

def peekD (state : State) (depth : Nat) : ValueType :=
  match state.peek depth with
  | .ok type => type
  | .error _ => .any

/-- How many operands a diagnostic shows when none was expected. -/
def shownWithoutExpectation : Nat := 4

/-- The report that the innermost region does not end in the expected operands.
It shows as many operands as were expected. -/
def mismatch (state : State) (place : Place) (construct : String) (expected : List ValueType) :
    Diagnostic :=
  let depth := state.region.length
  let shown := min (if expected.isEmpty then shownWithoutExpectation else expected.length) depth
  .mismatch place construct expected (state.region.drop (depth - shown)) (shown != depth)

end State

end WasmTyping
