import WasmTyping.ValueType

/-!
# Limits, tables and globals
-/

set_option autoImplicit false

namespace WasmTyping

/-- Size bounds of a memory or a table. -/
structure Limits where
  initial : Nat
  maximum : Option Nat
  shared : Bool
  is64 : Bool
  deriving DecidableEq

namespace Limits

/-- Bounds of a memory or table addressed by `i32`, without a maximum. -/
def starting (initial : Nat) : Limits := ⟨initial, none, false, false⟩

/-- Bounds of a memory or table addressed by `i64`, without a maximum. -/
def starting64 (initial : Nat) : Limits := ⟨initial, none, false, true⟩

/-- The type of addresses, indices and sizes. -/
def indexType (limits : Limits) : ValueType :=
  if limits.is64 then .i64 else .i32

/-- The type of a length that must fit both ends of a copy. -/
def lengthType (target source : Limits) : ValueType :=
  if target.is64 && source.is64 then .i64 else .i32

end Limits

structure TableType where
  element : ValueType
  limits : Limits
  deriving DecidableEq

structure GlobalType where
  type : ValueType
  isMutable : Bool
  deriving DecidableEq

end WasmTyping
