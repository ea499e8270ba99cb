import WasmTyping.ValueType

/-!
# Function types and block types
-/

set_option autoImplicit false

namespace WasmTyping

/-- Parameters and results, both deepest first. -/
structure FuncType where
  params : List ValueType
  results : List ValueType
  deriving DecidableEq

namespace FuncType

/-- The type of a function without parameters and results. -/
def empty : FuncType := ⟨[], []⟩

def text (type : FuncType) : String :=
  ValueType.fullText type.params ++ " -> " ++ ValueType.fullText type.results

end FuncType

/-- The type written on a structured instruction: nothing, one result, or the
index of a function type. -/
inductive BlockType where
  | empty
  | value (type : ValueType)
  | index (index : Nat)
  deriving DecidableEq

end WasmTyping
