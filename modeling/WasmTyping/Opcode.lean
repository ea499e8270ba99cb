import WasmTyping.ValueType

/-!
# Opcode descriptors

The typing of an instruction with a fixed operand list and at most one result.
Memory accesses also have a natural size, and vector opcodes a number of lanes.
-/

set_option autoImplicit false

namespace WasmTyping

structure Opcode where
  name : String
  /-- Operand types, deepest first. -/
  params : List NumType
  result : Option NumType
  /-- Natural access size in bytes, zero without a memory access. -/
  memorySize : Nat
  /-- Number of lanes an immediate may select, zero without lanes. -/
  laneCount : Nat
  /-- Whether the access is atomic. -/
  isAtomic : Bool
  deriving DecidableEq

namespace Opcode

def arity (op : Opcode) : Nat :=
  op.params.length

/-- Whether vectors or lanes are involved. -/
def isSimd (op : Opcode) : Bool :=
  0 < op.laneCount || op.params.contains .v128 || op.result == some .v128

/-- Whether an alignment of `2 ^ exponent` bytes is allowed. An alignment is a
32-bit number of bytes; an atomic access needs its natural alignment, any other
access at most that. -/
def isValidAlignment (op : Opcode) (exponent : Nat) : Bool :=
  exponent < 32 &&
    if op.isAtomic then Nat.pow 2 exponent == op.memorySize
    else Nat.pow 2 exponent ≤ op.memorySize

/-! ## Families -/

/-- Opcodes that only compute. -/
def numeric (names : List String) (params : List NumType) (result : NumType) : List Opcode :=
  names.map fun name => ⟨name, params, some result, 0, 0, false⟩

/-- Vector opcodes of a shape with the given number of lanes. -/
def lanewise (lanes : Nat) (names : List String) (params : List NumType) (result : NumType) :
    List Opcode :=
  names.map fun name => ⟨name, params, some result, 0, lanes, false⟩

/-- Plain memory accesses: the address comes before the operands. -/
def access (size : Nat) (names : List String) (operands : List NumType)
    (result : Option NumType) : List Opcode :=
  names.map fun name => ⟨name, .i32 :: operands, result, size, 0, false⟩

/-- Atomic memory accesses. -/
def atomicAccess (size : Nat) (names : List String) (operands : List NumType)
    (result : Option NumType) : List Opcode :=
  names.map fun name => ⟨name, .i32 :: operands, result, size, 0, true⟩

/-- Accesses to one lane of a vector of sixteen bytes. -/
def laneAccess (size : Nat) (names : List String) (result : Option NumType) : List Opcode :=
  names.map fun name => ⟨name, [.i32, .v128], result, size, 16 / size, false⟩

end Opcode

end WasmTyping
