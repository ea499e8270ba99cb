import WasmTyping.Checker.Operands
import WasmTyping.Limits
import WasmTyping.Opcode

/-!
# Plain instructions

Instructions whose stack effect is fixed once their immediates are known. Each is
described by the signatures it removes, one after the other, and the types it
pushes.
-/

set_option autoImplicit false

namespace WasmTyping

/-- A fixed stack effect. Without a signature to remove nothing is checked, not
even that a label is open. -/
structure Effect where
  construct : String
  pops : List (List ValueType)
  pushes : List ValueType
  deriving DecidableEq

namespace Effect

def check (effect : Effect) : Check Unit :=
  (Check.popSignatures effect.pops effect.construct).also (Check.pushTypes effect.pushes)

/-- No effect at all. -/
def skip (construct : String) : Effect := ⟨construct, [], []⟩

/-- Push one value. -/
def producing (construct : String) (type : ValueType) : Effect := ⟨construct, [], [type]⟩

/-- Remove one signature and push another. -/
def exchanging (construct : String) (params results : List ValueType) : Effect :=
  ⟨construct, [params], results⟩

end Effect

namespace Opcode

def paramTypes (op : Opcode) : List ValueType :=
  op.params.map .num

def resultTypes (op : Opcode) : List ValueType :=
  op.result.toList.map .num

/-- The operands of an access: an `i32` address takes the index type of the
memory. -/
def accessTypes (op : Opcode) (memory : Limits) : List ValueType :=
  match op.paramTypes with
  | .i32 :: operands => memory.indexType :: operands
  | params => params

end Opcode

/-- A plain instruction with its immediates resolved. -/
inductive Plain where
  | nop
  | atomicFence
  | dataDrop (segment : Nat)
  | elemDrop (segment : Nat)
  | constant (type : ValueType)
  | localGet (type : ValueType)
  | localSet (type : ValueType)
  | localTee (type : ValueType)
  | globalGet (type : ValueType)
  | globalSet (type : ValueType)
  | refFunc (type : Nat)
  | refNull (type : ValueType)
  | call (params results : List ValueType)
  | callIndirect (params results : List ValueType) (table : Limits)
  | numeric (op : Opcode)
  | access (op : Opcode) (memory : Limits)
  | memorySize (memory : Limits)
  | memoryGrow (memory : Limits)
  | memoryFill (memory : Limits)
  | memoryCopy (target source : Limits)
  | memoryInit (memory : Limits)
  | tableGet (element : ValueType) (table : Limits)
  | tableSet (element : ValueType) (table : Limits)
  | tableSize (table : Limits)
  | tableGrow (element : ValueType) (table : Limits)
  | tableFill (element : ValueType) (table : Limits)
  | tableCopy (target source : Limits)
  | tableInit (table : Limits)
  deriving DecidableEq

/-- The stack effect of a plain instruction. -/
def Plain.effect : Plain → Effect
  | nop => .skip "nop"
  | atomicFence => .skip "atomic.fence"
  | dataDrop _ => .skip "data.drop"
  | elemDrop _ => .skip "elem.drop"
  | constant type => .producing "const" type
  | localGet type => .producing "local.get" type
  | localSet type => .exchanging "local.set" [type] []
  | localTee type => .exchanging "local.tee" [type] [type]
  | globalGet type => .producing "global.get" type
  | globalSet type => .exchanging "global.set" [type] []
  | refFunc type => .producing "ref.func" (.ref type false)
  | refNull type => .producing "ref.null" type.asNullable
  | call params results => .exchanging "call" params results
  | callIndirect params results table => ⟨"call_indirect", [[table.indexType], params], results⟩
  | numeric op => .exchanging op.name op.paramTypes op.resultTypes
  | access op memory => .exchanging op.name (op.accessTypes memory) op.resultTypes
  | memorySize memory => .producing "memory.size" memory.indexType
  | memoryGrow memory => .exchanging "memory.grow" [memory.indexType] [memory.indexType]
  | memoryFill memory =>
    .exchanging "memory.fill" [memory.indexType, .i32, memory.indexType] []
  | memoryCopy target source =>
    .exchanging "memory.copy"
      [target.indexType, source.indexType, Limits.lengthType target source] []
  | memoryInit memory => .exchanging "memory.init" [memory.indexType, .i32, .i32] []
  | tableGet element table => .exchanging "table.get" [table.indexType] [element]
  | tableSet element table => .exchanging "table.set" [table.indexType, element] []
  | tableSize table => .producing "table.size" table.indexType
  | tableGrow element table =>
    .exchanging "table.grow" [element, table.indexType] [table.indexType]
  | tableFill element table =>
    .exchanging "table.fill" [table.indexType, element, table.indexType] []
  | tableCopy target source =>
    .exchanging "table.copy"
      [target.indexType, source.indexType, Limits.lengthType target source] []
  | tableInit table => .exchanging "table.init" [table.indexType, .i32, .i32] []

end WasmTyping
