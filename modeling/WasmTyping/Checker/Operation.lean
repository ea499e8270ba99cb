import WasmTyping.Checker.Branches
import WasmTyping.Instruction

/-!
# Operations

The steps a checker can be asked to take, in any order. An operation always
leaves a state behind, whether it succeeds or not.
-/

set_option autoImplicit false

namespace WasmTyping

namespace Opening

def label : Opening → LabelKind
  | block => .block
  | loop => .loop
  | ifThen => .ifThen
  | tryBlock => .tryBlock

/-- The signatures removed on entry: an `if` also takes a condition. -/
def pops (opening : Opening) (params : List ValueType) : List (List ValueType) :=
  match opening with
  | ifThen => [[.i32], params]
  | block | loop | tryBlock => [params]

end Opening

inductive Operation where
  | beginFunction (results : List ValueType)
  | endFunction
  | beginInitExpr (type : ValueType)
  | endInitExpr
  | enter (opening : Opening) (params results : List ValueType)
  | elseArm
  | endBlock
  | catchArm (values : List ValueType)
  | delegate (depth : Nat)
  | rethrow (depth : Nat)
  | throwTag (values : List ValueType)
  | throwRef
  | beginTryTable (params : List ValueType)
  | tryTableCatch (values : List ValueType) (depth : Nat)
  | finishTryTable (params results : List ValueType)
  | br (depth : Nat)
  | brIf (depth : Nat)
  | beginBrTable
  | brTableTarget (depth : Nat)
  | endBrTable
  | brOnNull (depth : Nat)
  | brOnNonNull (depth : Nat)
  | callRef (type : Nat)
  | returnValues
  | returnCall (params results : List ValueType)
  | returnCallIndirect (params results : List ValueType) (table : Limits)
  | returnCallRef (type : Nat)
  | plain (instruction : Plain)
  | lane (op : Opcode) (index : Nat)
  | shuffle (op : Opcode) (lanes : List Nat)
  | laneAccess (op : Opcode) (memory : Limits) (index : Nat)
  | drop
  | select (declared : Option ValueType)
  | unreachable
  | refIsNull
  | refAsNonNull
  | checkType (actual expected : ValueType)
  | checkTypes (actual expected : List ValueType)
  | dropTypes (count : Nat)
  deriving DecidableEq

namespace Operation

/-- A shuffle selects from the lanes of two vectors. -/
def shuffleLaneCount : Nat := 32

def run : Operation → Check Unit
  | beginFunction results => .enterBody .function results
  | endFunction => .closeUnder .functionEnd "implicit return" "function"
  | beginInitExpr type => .enterBody .initExpr [type]
  | endInitExpr => .closeUnder .initExprEnd "initializer expression" "initializer expression"
  | enter opening params results =>
    (Check.popSignatures (opening.pops params) opening.name).also
      (.enterRegion opening.label params results)
  | elseArm => .elseArm
  | endBlock => .endRegion
  | catchArm values => .catchArm values
  | delegate depth => .delegate depth
  | rethrow depth => .rethrow depth
  | throwTag values => .throwValues values "throw"
  | throwRef => .throwValues [.exnref] "throw_ref"
  | beginTryTable params => .popSignature params "try_table"
  | tryTableCatch values depth => .tryTableCatch values depth
  | finishTryTable params results => .enterRegion .tryTable params results
  | br depth => .br depth
  | brIf depth => .brIf depth
  | beginBrTable => .beginBrTable
  | brTableTarget depth => .brTableTarget depth
  | endBrTable => .endBrTable
  | brOnNull depth => .brOnNull depth
  | brOnNonNull depth => .brOnNonNull depth
  | callRef type => .callRef type
  | returnValues => .returnValues
  | returnCall params results => .tailCall "return_call" [params] results
  | returnCallIndirect params results table =>
    .tailCall "return_call_indirect" [[table.indexType], params] results
  | returnCallRef type => .returnCallRef type
  | plain instruction => instruction.effect.check
  | lane op index =>
    (Check.checkLane op.laneCount index .laneOutOfRange).also (Plain.numeric op).effect.check
  | shuffle op lanes =>
    (Check.all (lanes.map (Check.checkLane shuffleLaneCount · .shuffleLaneOutOfRange))).also
      (Plain.numeric op).effect.check
  | laneAccess op memory index =>
    (Check.checkLane op.laneCount index .laneOutOfRange).also (Plain.access op memory).effect.check
  | drop => .drop
  | select declared => .select declared
  | unreachable => .setUnreachable
  | refIsNull => .refIsNull
  | refAsNonNull => .refAsNonNull
  | checkType actual expected => do
    .settle (← .observe fun env _ => env.checkType actual expected)
  | checkTypes actual expected => do
    .settle (← .observe fun env _ => env.checkTypes actual expected)
  | dropTypes count => .dropTypes count

end Operation

end WasmTyping
