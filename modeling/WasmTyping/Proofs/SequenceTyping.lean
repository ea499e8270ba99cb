import WasmTyping.Body.Action

/-!
# Structured code and its typing

A sequence is code as a tree: a region holds the sequences of its arms instead of being
bracketed by `else` and `end`. The typing judgement assigns a tree a stack before and a
stack after it. It knows no label limits and no unreachable regions; code that cannot be
executed may be given any stack that makes the rest fit.
-/

set_option autoImplicit false

namespace WasmTyping

/-- Instructions whose stack effect is one signature. -/
inductive Simple where
  | nop
  | i32Const (bits : BitVec 32)
  | i64Const (bits : BitVec 64)
  | f32Const (bits : BitVec 32)
  | f64Const (bits : BitVec 64)
  | v128Const (bits : BitVec 128)
  | localGet (index : Nat)
  | localSet (index : Nat)
  | localTee (index : Nat)
  | globalGet (index : Nat)
  | call (function : Nat)
  | select (type : ValueType)
  | numeric (kind : NumericClass) (op : Opcode)
  deriving DecidableEq

namespace Simple

def instruction : Simple → Instruction
  | nop => .nop
  | i32Const bits => .i32Const bits
  | i64Const bits => .i64Const bits
  | f32Const bits => .f32Const bits
  | f64Const bits => .f64Const bits
  | v128Const bits => .v128Const bits
  | localGet index => .localGet index
  | localSet index => .localSet index
  | localTee index => .localTee index
  | globalGet index => .globalGet index
  | call function => .call function
  | select type => .select (some type)
  | numeric kind op => .numeric kind op

/-- The signature of an instruction, where its immediates name something and the
features admit it. -/
def signature (scope : Scope) : Simple → Option FuncType
  | nop => some .empty
  | i32Const _ => some ⟨[], [.i32]⟩
  | i64Const _ => some ⟨[], [.i64]⟩
  | f32Const _ => some ⟨[], [.f32]⟩
  | f64Const _ => some ⟨[], [.f64]⟩
  | v128Const _ => if scope.features.simd then some ⟨[], [.v128]⟩ else none
  | localGet index => scope.locals[index]?.map fun type => ⟨[], [type]⟩
  | localSet index => scope.locals[index]?.map fun type => ⟨[type], []⟩
  | localTee index => scope.locals[index]?.map fun type => ⟨[type], [type]⟩
  | globalGet index => scope.module.globals[index]?.map fun global => ⟨[], [global.type]⟩
  | call function => scope.module.functions[function]?.bind scope.module.types.get?
  | select type =>
    if scope.features.referenceTypes then some ⟨[type, type, .i32], [type]⟩ else none
  | numeric _ op =>
    if op.isSimd = true → scope.features.simd = true then
      some ⟨op.paramTypes, op.resultTypes⟩
    else none

end Simple

/-- Block parameters and more than one result need multiple values. -/
def FuncType.isSingleValued (type : FuncType) : Bool :=
  type.params.isEmpty && type.results.length ≤ 1

/-- The signature a block type stands for, where the features admit it. -/
def Scope.blockType? (scope : Scope) : BlockType → Option FuncType
  | .empty => some .empty
  | .value type => some ⟨[], [type]⟩
  | .index index =>
    (scope.module.types.get? index).filter fun type =>
      type.isSingleValued || scope.features.multiValue

/-- A structured sequence of instructions. -/
inductive Sequence where
  | empty
  | append (first second : Sequence)
  | simple (instruction : Simple)
  | unreachable
  | drop
  | br (depth : Nat)
  | brIf (depth : Nat)
  | brTable (targets : List Nat) (fallback : Nat)
  | returnValues
  | block (type : BlockType) (body : Sequence)
  | loop (type : BlockType) (body : Sequence)
  | ifThen (type : BlockType) (arm : Sequence)
  | ifElse (type : BlockType) (arm other : Sequence)
  deriving DecidableEq

/-- The instructions in the order they are written. -/
def Sequence.flatten : Sequence → List Instruction
  | empty => []
  | append first second => first.flatten ++ second.flatten
  | simple instruction => [instruction.instruction]
  | unreachable => [.unreachable]
  | drop => [.drop]
  | br depth => [.br depth]
  | brIf depth => [.brIf depth]
  | brTable targets fallback => [.brTable targets fallback]
  | returnValues => [.returnValues]
  | block type body => .enter .block type :: body.flatten ++ [.endBlock]
  | loop type body => .enter .loop type :: body.flatten ++ [.endBlock]
  | ifThen type arm => .enter .ifThen type :: arm.flatten ++ [.endBlock]
  | ifElse type arm other =>
    .enter .ifThen type :: arm.flatten ++ .elseArm :: other.flatten ++ [.endBlock]

/-- `Typed scope labels sequence before after`: with the given branch types of the
enclosing labels, innermost first, the sequence takes one stack to the other. -/
inductive Typed (scope : Scope) :
    List (List ValueType) → Sequence → List ValueType → List ValueType → Prop where
  | empty (labels : List (List ValueType)) (stack : List ValueType) :
      Typed scope labels .empty stack stack
  | append {labels : List (List ValueType)} {first second : Sequence}
      {before between after : List ValueType}
      (left : Typed scope labels first before between)
      (right : Typed scope labels second between after) :
      Typed scope labels (.append first second) before after
  | simple {labels : List (List ValueType)} {instruction : Simple} {signature : FuncType}
      {below operands : List ValueType}
      (found : instruction.signature scope = some signature)
      (fits : scope.module.types.allCompatible operands signature.params = true) :
      Typed scope labels (.simple instruction) (below ++ operands) (below ++ signature.results)
  | unreachable (labels : List (List ValueType)) (before after : List ValueType) :
      Typed scope labels .unreachable before after
  | drop (labels : List (List ValueType)) (below : List ValueType) (operand : ValueType) :
      Typed scope labels .drop (below ++ [operand]) below
  | br {labels : List (List ValueType)} {depth : Nat} {carried below operands : List ValueType}
      (found : labels[depth]? = some carried)
      (fits : scope.module.types.allCompatible operands carried = true)
      (after : List ValueType) :
      Typed scope labels (.br depth) (below ++ operands) after
  | brIf {labels : List (List ValueType)} {depth : Nat}
      {carried below operands : List ValueType} {condition : ValueType}
      (found : labels[depth]? = some carried)
      (taken : scope.module.types.compatible condition .i32 = true)
      (fits : scope.module.types.allCompatible operands carried = true) :
      Typed scope labels (.brIf depth) (below ++ operands ++ [condition]) (below ++ carried)
  | brTable {labels : List (List ValueType)} {targets : List Nat} {fallback : Nat}
      {below operands : List ValueType} {selector : ValueType}
      (taken : scope.module.types.compatible selector .i32 = true)
      (fits : ∀ depth ∈ targets ++ [fallback], ∃ carried, labels[depth]? = some carried ∧
        scope.module.types.allCompatible operands carried = true)
      (agree : scope.features.referenceTypes = true ∨
        ∀ depth ∈ targets, labels[depth]? = labels[fallback]?)
      (after : List ValueType) :
      Typed scope labels (.brTable targets fallback) (below ++ operands ++ [selector]) after
  | returnValues {labels : List (List ValueType)} {carried below operands : List ValueType}
      (found : labels.getLast? = some carried)
      (fits : scope.module.types.allCompatible operands carried = true)
      (after : List ValueType) :
      Typed scope labels .returnValues (below ++ operands) after
  | block {labels : List (List ValueType)} {type : BlockType} {body : Sequence}
      {signature : FuncType} {below operands left : List ValueType}
      (found : scope.blockType? type = some signature)
      (fits : scope.module.types.allCompatible operands signature.params = true)
      (inside : Typed scope (signature.results :: labels) body signature.params left)
      (ends : scope.module.types.allCompatible left signature.results = true) :
      Typed scope labels (.block type body) (below ++ operands) (below ++ signature.results)
  | loop {labels : List (List ValueType)} {type : BlockType} {body : Sequence}
      {signature : FuncType} {below operands left : List ValueType}
      (found : scope.blockType? type = some signature)
      (fits : scope.module.types.allCompatible operands signature.params = true)
      (inside : Typed scope (signature.params :: labels) body signature.params left)
      (ends : scope.module.types.allCompatible left signature.results = true) :
      Typed scope labels (.loop type body) (below ++ operands) (below ++ signature.results)
  | ifThen {labels : List (List ValueType)} {type : BlockType} {arm : Sequence}
      {signature : FuncType} {below operands left : List ValueType} {condition : ValueType}
      (found : scope.blockType? type = some signature)
      (taken : scope.module.types.compatible condition .i32 = true)
      (fits : scope.module.types.allCompatible operands signature.params = true)
      (inside : Typed scope (signature.results :: labels) arm signature.params left)
      (ends : scope.module.types.allCompatible left signature.results = true)
      (passed : scope.module.types.allCompatible signature.params signature.results = true) :
      Typed scope labels (.ifThen type arm) (below ++ operands ++ [condition])
        (below ++ signature.results)
  | ifElse {labels : List (List ValueType)} {type : BlockType} {arm other : Sequence}
      {signature : FuncType} {below operands left right : List ValueType} {condition : ValueType}
      (found : scope.blockType? type = some signature)
      (taken : scope.module.types.compatible condition .i32 = true)
      (fits : scope.module.types.allCompatible operands signature.params = true)
      (inside : Typed scope (signature.results :: labels) arm signature.params left)
      (ends : scope.module.types.allCompatible left signature.results = true)
      (otherInside : Typed scope (signature.results :: labels) other signature.params right)
      (otherEnds : scope.module.types.allCompatible right signature.results = true) :
      Typed scope labels (.ifElse type arm other) (below ++ operands ++ [condition])
        (below ++ signature.results)

end WasmTyping
