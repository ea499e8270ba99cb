import WasmTyping.Checker.Operation
import WasmTyping.Module

/-!
# Instructions as actions

An instruction of a body amounts to a list of actions: it may be refused for one
of its immediates, and it takes steps of the checker. Which actions these are
depends on the module, the features and the locals, and of the checker only on
whether the outermost region is the open one.
-/

set_option autoImplicit false

namespace WasmTyping

inductive Action where
  | refuse (complaint : Complaint)
  | perform (operation : Operation)
  deriving DecidableEq

def Action.run : Action → Check Unit
  | refuse complaint => .complain complaint
  | perform operation => operation.run

def Action.runAll (actions : List Action) : Check Unit :=
  .all (actions.map Action.run)

/-- What a body can refer to. The locals begin with the parameters. -/
structure Scope where
  module : Module
  features : Features
  locals : List ValueType
  kind : BodyKind
  deriving DecidableEq

namespace Scope

/-! ## Refusals -/

/-- Refuse unless a condition holds, and go on in any case. -/
def demand (holds : Bool) (complaint : Complaint) : List Action :=
  if holds then [] else [.refuse complaint]

def requiring (scope : Scope) (feature : Feature) (name : String) (rest : List Action) :
    List Action :=
  if scope.features.enabled feature then rest
  else [.refuse ⟨.featureDisabled name feature, .featureDisabled⟩]

/-- Go on only with what an index names. -/
def resolving {α : Type} (found : Except IndexSpace α) (index : Nat) (rest : α → List Action) :
    List Action :=
  match found with
  | .ok value => rest value
  | .error space => [.refuse (.invalidIndex space index)]

def requiringSimdFor (scope : Scope) (op : Opcode) (rest : List Action) : List Action :=
  if op.isSimd then scope.requiring .simd op.name rest else rest

def local? (scope : Scope) (index : Nat) : Except IndexSpace ValueType :=
  Module.lookup .localVariable scope.locals[index]?

def dataSegmentRefusal (scope : Scope) (index : Nat) : List Action :=
  match scope.module.checkDataSegment index with
  | .ok _ => []
  | .error .dataCountRequired => [.refuse ⟨.dataCountRequired, .dataCountRequired⟩]
  | .error _ => [.refuse (.invalidIndex .dataSegment index)]

/-- Block parameters and more than one result need multiple values enabled. -/
def arityRefusal (scope : Scope) (name : String) (signature : FuncType) : List Action :=
  if signature.params.isEmpty && signature.results.length ≤ 1 then []
  else scope.requiring .multiValue name []

/-- The signature of a block type and what is to be refused about it. A type that
does not resolve still opens a region, with an empty signature. -/
def blockSignature (scope : Scope) (name : String) (type : BlockType) :
    FuncType × List Action :=
  match scope.module.blockSignature type, type with
  | .ok signature, _ => (signature, scope.arityRefusal name signature)
  | .error space, .index index => (.empty, [.refuse (.invalidIndex space index)])
  -- Only an index can fail to name a signature.
  | .error _, _ => (.empty, [])

/-- Go on with the limits of the memory an access uses, after its alignment is
checked. -/
def accessing (scope : Scope) (op : Opcode) (arg : MemArg) (operation : Limits → Operation) :
    List Action :=
  resolving (scope.module.memory arg.memory) arg.memory fun limits =>
    demand (op.isValidAlignment arg.align)
      ⟨.alignment op.isAtomic op.memorySize, .invalidAlignment⟩ ++
    [.perform (operation limits)]

def funcrefRefusal (scope : Scope) (name : String) (table : TableType) : List Action :=
  demand (scope.module.types.compatible table.element (.funcref true))
    ⟨.tableNotFuncref name, .tableNotFuncref⟩

def elementRefusal (scope : Scope) (name : String) (actual expected : ValueType) :
    List Action :=
  demand (scope.module.types.compatible actual expected)
    ⟨.elementMismatch name expected actual, .elementMismatch⟩

/-! ## Structured instructions -/

/-- The actions for the clauses of a `try_table`. A clause whose tag does not
resolve is refused and not checked further. -/
def clauseActions (scope : Scope) (clause : CatchClause) : List Action :=
  let check (values : List ValueType) : List Action :=
    let carried := if clause.carriesRef then values ++ [.exnref] else values
    [.perform (.tryTableCatch carried clause.depth)]
  match clause.tag with
  | none => check []
  | some tag => resolving (scope.module.tagParams tag) tag check

def enterActions (scope : Scope) (opening : Opening) (type : BlockType) : List Action :=
  let (signature, refusals) := scope.blockSignature opening.name type
  refusals ++ [.perform (.enter opening signature.params signature.results)]

def tryTableActions (scope : Scope) (type : BlockType) (clauses : List CatchClause) :
    List Action :=
  let (signature, refusals) := scope.blockSignature "try_table" type
  refusals ++ [.perform (.beginTryTable signature.params)] ++
    clauses.flatMap scope.clauseActions ++
    [.perform (.finishTryTable signature.params signature.results)]

/-- A `catch` whose tag does not resolve still begins an arm, without values. -/
def catchActions (scope : Scope) (tag : Nat) : List Action :=
  match scope.module.tagParams tag with
  | .ok values => [.perform (.catchArm values)]
  | .error space =>
    [.refuse (.invalidIndex space tag), .perform (.catchArm [])]

/-- The `end` of the outermost region ends the body. -/
def endActions (scope : Scope) (depth : Nat) : List Action :=
  if depth = 1 then
    match scope.kind with
    | .function _ => [.perform .endFunction]
    | .initExpr _ => [.perform .endInitExpr]
  else [.perform .endBlock]

/-! ## All instructions -/

/-- The actions of an instruction at a label depth, wherever it stands. -/
def instructionActions (scope : Scope) (depth : Nat) (instruction : Instruction) :
    List Action :=
  let name := instruction.name
  let module := scope.module
  match instruction with
  | .unreachable => [.perform .unreachable]
  | .nop => [.perform (.plain .nop)]
  | .enter opening type =>
    if opening = .tryBlock then
      scope.requiring .exceptions name (scope.enterActions opening type)
    else scope.enterActions opening type
  | .elseArm => [.perform .elseArm]
  | .endBlock => scope.endActions depth
  | .catchTag tag => scope.requiring .exceptions name (scope.catchActions tag)
  | .catchAll => scope.requiring .exceptions name [.perform (.catchArm [])]
  | .delegate target => scope.requiring .exceptions name [.perform (.delegate target)]
  | .rethrow target => scope.requiring .exceptions name [.perform (.rethrow target)]
  | .throwTag tag =>
    scope.requiring .exceptions name <|
      resolving (module.tagParams tag) tag fun values => [.perform (.throwTag values)]
  | .throwRef => scope.requiring .exceptions name [.perform .throwRef]
  | .tryTable type clauses =>
    scope.requiring .exceptions name (scope.tryTableActions type clauses)
  | .br target => [.perform (.br target)]
  | .brIf target => [.perform (.brIf target)]
  | .brTable targets fallback =>
    [.perform .beginBrTable] ++
      (targets ++ [fallback]).map (fun target => .perform (.brTableTarget target)) ++
      [.perform .endBrTable]
  | .brOnNull target =>
    scope.requiring .functionReferences name [.perform (.brOnNull target)]
  | .brOnNonNull target =>
    scope.requiring .functionReferences name [.perform (.brOnNonNull target)]
  | .returnValues => [.perform .returnValues]
  | .call function =>
    resolving (module.functionType function) function fun type =>
      [.perform (.plain (.call type.params type.results))]
  | .callIndirect index typeIndex =>
    resolving (module.table index) index fun table =>
      resolving (module.typeAt typeIndex) typeIndex fun type =>
        scope.funcrefRefusal name table ++
          [.perform (.plain (.callIndirect type.params type.results table.limits))]
  | .callRef typeIndex =>
    scope.requiring .functionReferences name [.perform (.callRef typeIndex)]
  | .returnCall function =>
    scope.requiring .tailCall name <|
      resolving (module.functionType function) function fun type =>
        [.perform (.returnCall type.params type.results)]
  | .returnCallIndirect index typeIndex =>
    scope.requiring .tailCall name <|
      resolving (module.table index) index fun table =>
        resolving (module.typeAt typeIndex) typeIndex fun type =>
          scope.funcrefRefusal name table ++
            [.perform (.returnCallIndirect type.params type.results table.limits)]
  | .returnCallRef typeIndex =>
    scope.requiring .tailCall name <|
      scope.requiring .functionReferences name [.perform (.returnCallRef typeIndex)]
  | .drop => [.perform .drop]
  | .select none => [.perform (.select none)]
  | .select (some type) =>
    scope.requiring .referenceTypes name [.perform (.select (some type))]
  | .localGet index =>
    resolving (scope.local? index) index fun type => [.perform (.plain (.localGet type))]
  | .localSet index =>
    resolving (scope.local? index) index fun type => [.perform (.plain (.localSet type))]
  | .localTee index =>
    resolving (scope.local? index) index fun type => [.perform (.plain (.localTee type))]
  | .globalGet index =>
    resolving (module.global index) index fun global =>
      [.perform (.plain (.globalGet global.type))]
  | .globalSet index =>
    resolving (module.global index) index fun global =>
      demand global.isMutable ⟨.immutableGlobal index, .immutableGlobal⟩ ++
        [.perform (.plain (.globalSet global.type))]
  | .tableGet index =>
    scope.requiring .referenceTypes name <|
      resolving (module.table index) index fun table =>
        [.perform (.plain (.tableGet table.element table.limits))]
  | .tableSet index =>
    scope.requiring .referenceTypes name <|
      resolving (module.table index) index fun table =>
        [.perform (.plain (.tableSet table.element table.limits))]
  | .tableSize index =>
    scope.requiring .referenceTypes name <|
      resolving (module.table index) index fun table =>
        [.perform (.plain (.tableSize table.limits))]
  | .tableGrow index =>
    scope.requiring .referenceTypes name <|
      resolving (module.table index) index fun table =>
        [.perform (.plain (.tableGrow table.element table.limits))]
  | .tableFill index =>
    scope.requiring .referenceTypes name <|
      resolving (module.table index) index fun table =>
        [.perform (.plain (.tableFill table.element table.limits))]
  | .tableCopy targetIndex sourceIndex =>
    resolving (module.table targetIndex) targetIndex fun target =>
      resolving (module.table sourceIndex) sourceIndex fun source =>
        scope.elementRefusal name source.element target.element ++
          [.perform (.plain (.tableCopy target.limits source.limits))]
  | .tableInit index segment =>
    resolving (module.table index) index fun table =>
      resolving (module.elementType segment) segment fun element =>
        scope.elementRefusal name element table.element ++
          [.perform (.plain (.tableInit table.limits))]
  | .elemDrop segment =>
    resolving (module.elementType segment) segment fun _ =>
      [.perform (.plain (.elemDrop segment))]
  | .memorySize index =>
    resolving (module.memory index) index fun limits => [.perform (.plain (.memorySize limits))]
  | .memoryGrow index =>
    resolving (module.memory index) index fun limits => [.perform (.plain (.memoryGrow limits))]
  | .memoryFill index =>
    resolving (module.memory index) index fun limits => [.perform (.plain (.memoryFill limits))]
  | .memoryCopy targetIndex sourceIndex =>
    resolving (module.memory targetIndex) targetIndex fun target =>
      resolving (module.memory sourceIndex) sourceIndex fun source =>
        [.perform (.plain (.memoryCopy target source))]
  | .memoryInit index segment =>
    resolving (module.memory index) index fun limits =>
      scope.dataSegmentRefusal segment ++ [.perform (.plain (.memoryInit limits))]
  | .dataDrop segment =>
    match scope.dataSegmentRefusal segment with
    | [] => [.perform (.plain (.dataDrop segment))]
    | refusals => refusals
  | .i32Const _ => [.perform (.plain (.constant .i32))]
  | .i64Const _ => [.perform (.plain (.constant .i64))]
  | .f32Const _ => [.perform (.plain (.constant .f32))]
  | .f64Const _ => [.perform (.plain (.constant .f64))]
  | .v128Const _ => scope.requiring .simd name [.perform (.plain (.constant .v128))]
  | .numeric _ op => scope.requiringSimdFor op [.perform (.plain (.numeric op))]
  | .access kind op arg =>
    let actions := scope.accessing op arg fun limits => .plain (.access op limits)
    if kind.isAtomic then scope.requiring .threads name actions
    else scope.requiringSimdFor op actions
  | .atomicFence => scope.requiring .threads name [.perform (.plain .atomicFence)]
  | .lane op index => scope.requiring .simd name [.perform (.lane op index.toNat)]
  | .shuffle op lanes =>
    scope.requiring .simd name [.perform (.shuffle op (lanes.toList.map UInt8.toNat))]
  | .laneAccess _ op arg index =>
    scope.requiring .simd name <|
      scope.accessing op arg fun limits => .laneAccess op limits index.toNat
  | .refNull type => scope.requiring .referenceTypes name [.perform (.plain (.refNull type))]
  | .refIsNull => scope.requiring .referenceTypes name [.perform .refIsNull]
  | .refFunc function =>
    scope.requiring .referenceTypes name <|
      resolving (module.functionTypeIndex function) function fun index =>
        [.perform (.plain (.refFunc index))]
  | .refAsNonNull => scope.requiring .functionReferences name [.perform .refAsNonNull]

/-! ## Constant expressions -/

/-- Integer arithmetic that constant expressions may hold as an extension. -/
def constantArithmetic : List String :=
  ["i32.add", "i32.sub", "i32.mul", "i64.add", "i64.sub", "i64.mul"]

/-- Whether an instruction may stand in a constant expression, its global apart. -/
def isConstant (scope : Scope) : Instruction → Bool
  | .i32Const _ | .i64Const _ | .f32Const _ | .f64Const _ | .v128Const _ => true
  | .refNull _ | .refFunc _ | .globalGet _ | .endBlock => true
  | .numeric .binary op =>
    scope.features.extendedConst && constantArithmetic.contains op.name
  | _ => false

def readsMutableGlobal (scope : Scope) : Instruction → Bool
  | .globalGet index =>
    match scope.module.global index with
    | .ok global => global.isMutable
    | .error _ => false
  | _ => false

/-- The actions of an instruction of the body. A constant expression refuses all
but constant instructions and does not check them further. -/
def actions (scope : Scope) (depth : Nat) (instruction : Instruction) : List Action :=
  match scope.kind with
  | .function _ => scope.instructionActions depth instruction
  | .initExpr _ =>
    if scope.readsMutableGlobal instruction then [.refuse ⟨.mutableGlobal, .mutableGlobal⟩]
    else if scope.isConstant instruction then scope.instructionActions depth instruction
    else [.refuse ⟨.notConstant instruction.name, .notConstant⟩]

end Scope

end WasmTyping
