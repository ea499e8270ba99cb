/-!
# Value types

Types of the values an instruction consumes and produces, their order, and the
text used for them in diagnostics.
-/

set_option autoImplicit false

namespace WasmTyping

/-- Number and vector types: the only types that opcode descriptors mention. -/
inductive NumType where
  | i32
  | i64
  | f32
  | f64
  | v128
  deriving DecidableEq, Ord

namespace NumType

def text : NumType → String
  | i32 => "i32"
  | i64 => "i64"
  | f32 => "f32"
  | f64 => "f64"
  | v128 => "v128"

end NumType

/-- A value type. `any` stands for an unknown value on the stack of unreachable
code; it is never written in a program. The order is by constructor, then by
fields from left to right. -/
inductive ValueType where
  | num (type : NumType)
  | funcref (nullable : Bool)
  | externref (nullable : Bool)
  | exnref
  | ref (index : Nat) (nullable : Bool)
  | any
  deriving DecidableEq, Ord

namespace ValueType

@[match_pattern] abbrev i32 : ValueType := num .i32
@[match_pattern] abbrev i64 : ValueType := num .i64
@[match_pattern] abbrev f32 : ValueType := num .f32
@[match_pattern] abbrev f64 : ValueType := num .f64
@[match_pattern] abbrev v128 : ValueType := num .v128

def isReference : ValueType → Bool
  | funcref _ | externref _ | exnref | ref _ _ => true
  | num _ | any => false

/-- Whether the type is written with a null marker. `exnref` carries none. -/
def isNullable : ValueType → Bool
  | funcref nullable | externref nullable | ref _ nullable => nullable
  | num _ | exnref | any => false

/-- Set the null marker of a type that has one. -/
def withNullable (nullable : Bool) : ValueType → ValueType
  | funcref _ => funcref nullable
  | externref _ => externref nullable
  | ref index _ => ref index nullable
  | type => type

def asNullable (type : ValueType) : ValueType :=
  type.withNullable true

def asNonNull (type : ValueType) : ValueType :=
  type.withNullable false

def text : ValueType → String
  | num type => type.text
  | funcref true => "funcref"
  | funcref false => "(ref func)"
  | externref true => "externref"
  | externref false => "(ref extern)"
  | exnref => "exnref"
  | ref index true => "(ref null " ++ toString index ++ ")"
  | ref index false => "(ref " ++ toString index ++ ")"
  | any => "any"

/-- A bracketed list, deepest entry first. An ellipsis in front says that
deeper entries were left out. -/
def listText (types : List ValueType) (truncated : Bool) : String :=
  "[" ++ (if truncated then "... " else "") ++ ", ".intercalate (types.map text) ++ "]"

/-- A list that is shown in full. -/
def fullText (types : List ValueType) : String :=
  listText types false

/-- Ascending order; equal types keep their relative position. -/
def sort (types : List ValueType) : List ValueType :=
  types.mergeSort fun left right => (compare left right).isLE

end ValueType

end WasmTyping
