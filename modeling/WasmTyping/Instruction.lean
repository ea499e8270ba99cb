import WasmTyping.FuncType
import WasmTyping.Opcode

/-!
# Instructions

Decoded instructions with their immediates. Indices and depths are not resolved
yet. Instructions with a fixed signature carry an opcode descriptor together with
a class, and any opcode may come with any class: the class decides how the
immediates are checked, the opcode how the operands are.
-/

set_option autoImplicit false

namespace WasmTyping

/-- Memory immediate: which memory, the alignment as an exponent of two, and the
static offset. -/
structure MemArg where
  memory : Nat
  align : Nat
  offset : Nat
  deriving DecidableEq

/-- What a clause of `try_table` catches, and whether the branch also carries the
exception reference. -/
inductive CatchKind where
  | tag
  | tagRef
  | all
  | allRef
  deriving DecidableEq

/-- A clause of `try_table`. The depth is counted from outside the region. -/
structure CatchClause where
  kind : CatchKind
  tag : Option Nat
  depth : Nat
  deriving DecidableEq

/-- Whether the branch carries an exception reference after the tag values. -/
def CatchClause.carriesRef (clause : CatchClause) : Bool :=
  match clause.kind with
  | .tagRef | .allRef => true
  | .tag | .all => false

/-- The structured instructions that open a region at once. -/
inductive Opening where
  | block
  | loop
  | ifThen
  | tryBlock
  deriving DecidableEq

def Opening.name : Opening → String
  | block => "block"
  | loop => "loop"
  | ifThen => "if"
  | tryBlock => "try"

inductive NumericClass where
  | unary
  | binary
  | compare
  | convert
  | ternary
  deriving DecidableEq

inductive AccessClass where
  | load
  | store
  | atomicLoad
  | atomicStore
  | atomicRmw
  | atomicCmpxchg
  | atomicWait
  | atomicNotify
  deriving DecidableEq

def AccessClass.isAtomic : AccessClass → Bool
  | load | store => false
  | atomicLoad | atomicStore | atomicRmw | atomicCmpxchg | atomicWait | atomicNotify => true

inductive LaneAccessClass where
  | load
  | store
  deriving DecidableEq

/-- A decoded instruction. Constants hold their bit pattern. -/
inductive Instruction where
  | unreachable
  | nop
  | enter (opening : Opening) (type : BlockType)
  | elseArm
  | endBlock
  | catchTag (tag : Nat)
  | catchAll
  | delegate (depth : Nat)
  | rethrow (depth : Nat)
  | throwTag (tag : Nat)
  | throwRef
  | tryTable (type : BlockType) (clauses : List CatchClause)
  | br (depth : Nat)
  | brIf (depth : Nat)
  | brTable (targets : List Nat) (fallback : Nat)
  | brOnNull (depth : Nat)
  | brOnNonNull (depth : Nat)
  | returnValues
  | call (function : Nat)
  | callIndirect (table type : Nat)
  | callRef (type : Nat)
  | returnCall (function : Nat)
  | returnCallIndirect (table type : Nat)
  | returnCallRef (type : Nat)
  | drop
  | select (type : Option ValueType)
  | localGet (index : Nat)
  | localSet (index : Nat)
  | localTee (index : Nat)
  | globalGet (index : Nat)
  | globalSet (index : Nat)
  | tableGet (table : Nat)
  | tableSet (table : Nat)
  | tableSize (table : Nat)
  | tableGrow (table : Nat)
  | tableFill (table : Nat)
  | tableCopy (target source : Nat)
  | tableInit (table segment : Nat)
  | elemDrop (segment : Nat)
  | memorySize (memory : Nat)
  | memoryGrow (memory : Nat)
  | memoryFill (memory : Nat)
  | memoryCopy (target source : Nat)
  | memoryInit (memory segment : Nat)
  | dataDrop (segment : Nat)
  | i32Const (bits : BitVec 32)
  | i64Const (bits : BitVec 64)
  | f32Const (bits : BitVec 32)
  | f64Const (bits : BitVec 64)
  | v128Const (bits : BitVec 128)
  | numeric (kind : NumericClass) (op : Opcode)
  | access (kind : AccessClass) (op : Opcode) (arg : MemArg)
  | atomicFence
  | lane (op : Opcode) (index : UInt8)
  | shuffle (op : Opcode) (lanes : Vector UInt8 16)
  | laneAccess (kind : LaneAccessClass) (op : Opcode) (arg : MemArg) (index : UInt8)
  | refNull (type : ValueType)
  | refIsNull
  | refFunc (function : Nat)
  | refAsNonNull
  deriving DecidableEq

namespace Instruction

/-- The mnemonic of the text format. -/
def name : Instruction → String
  | unreachable => "unreachable"
  | nop => "nop"
  | enter opening _ => opening.name
  | elseArm => "else"
  | endBlock => "end"
  | catchTag _ => "catch"
  | catchAll => "catch_all"
  | delegate _ => "delegate"
  | rethrow _ => "rethrow"
  | throwTag _ => "throw"
  | throwRef => "throw_ref"
  | tryTable _ _ => "try_table"
  | br _ => "br"
  | brIf _ => "br_if"
  | brTable _ _ => "br_table"
  | brOnNull _ => "br_on_null"
  | brOnNonNull _ => "br_on_non_null"
  | returnValues => "return"
  | call _ => "call"
  | callIndirect _ _ => "call_indirect"
  | callRef _ => "call_ref"
  | returnCall _ => "return_call"
  | returnCallIndirect _ _ => "return_call_indirect"
  | returnCallRef _ => "return_call_ref"
  | drop => "drop"
  | select _ => "select"
  | localGet _ => "local.get"
  | localSet _ => "local.set"
  | localTee _ => "local.tee"
  | globalGet _ => "global.get"
  | globalSet _ => "global.set"
  | tableGet _ => "table.get"
  | tableSet _ => "table.set"
  | tableSize _ => "table.size"
  | tableGrow _ => "table.grow"
  | tableFill _ => "table.fill"
  | tableCopy _ _ => "table.copy"
  | tableInit _ _ => "table.init"
  | elemDrop _ => "elem.drop"
  | memorySize _ => "memory.size"
  | memoryGrow _ => "memory.grow"
  | memoryFill _ => "memory.fill"
  | memoryCopy _ _ => "memory.copy"
  | memoryInit _ _ => "memory.init"
  | dataDrop _ => "data.drop"
  | i32Const _ => "i32.const"
  | i64Const _ => "i64.const"
  | f32Const _ => "f32.const"
  | f64Const _ => "f64.const"
  | v128Const _ => "v128.const"
  | numeric _ op => op.name
  | access _ op _ => op.name
  | atomicFence => "atomic.fence"
  | lane op _ => op.name
  | shuffle op _ => op.name
  | laneAccess _ op _ _ => op.name
  | refNull _ => "ref.null"
  | refIsNull => "ref.is_null"
  | refFunc _ => "ref.func"
  | refAsNonNull => "ref.as_non_null"

def memArg? : Instruction → Option MemArg
  | access _ _ arg | laneAccess _ _ arg _ => some arg
  | _ => none

def opensRegion : Instruction → Bool
  | enter _ _ | tryTable _ _ => true
  | _ => false

end Instruction

end WasmTyping
