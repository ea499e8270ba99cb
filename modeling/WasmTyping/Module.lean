import WasmTyping.Fault
import WasmTyping.Limits
import WasmTyping.Registry

/-!
# Module declarations

What the bodies of a module can refer to, each kind of declaration in an index
space of its own. A lookup outside its space fails with that space.
-/

set_option autoImplicit false

namespace WasmTyping

structure Module where
  types : Registry
  /-- The type index of each function. -/
  functions : List Nat
  tables : List TableType
  memories : List Limits
  globals : List GlobalType
  /-- The type index of each exception tag. -/
  tags : List Nat
  elements : List ValueType
  /-- The number of data segments, when the module announces it. -/
  dataCount : Option Nat
  deriving DecidableEq

namespace Module

def ofTypes (types : Registry) : Module := ⟨types, [], [], [], [], [], [], none⟩

def empty : Module := ofTypes .empty

/-! ## Declarations -/

def addType (module : Module) (type : FuncType) : Nat × Module :=
  ((module.types.push type).1, { module with types := (module.types.push type).2 })

def addFunction (module : Module) (type : Nat) : Nat × Module :=
  (module.functions.length, { module with functions := module.functions ++ [type] })

def addTable (module : Module) (table : TableType) : Nat × Module :=
  (module.tables.length, { module with tables := module.tables ++ [table] })

def addMemory (module : Module) (limits : Limits) : Nat × Module :=
  (module.memories.length, { module with memories := module.memories ++ [limits] })

def addGlobal (module : Module) (global : GlobalType) : Nat × Module :=
  (module.globals.length, { module with globals := module.globals ++ [global] })

def addTag (module : Module) (type : Nat) : Nat × Module :=
  (module.tags.length, { module with tags := module.tags ++ [type] })

def addElement (module : Module) (type : ValueType) : Nat × Module :=
  (module.elements.length, { module with elements := module.elements ++ [type] })

def setDataCount (module : Module) (count : Nat) : Module :=
  { module with dataCount := some count }

/-! ## Lookups -/

/-- The entry an index names, or the index space it does not belong to. -/
def lookup {α : Type} (space : IndexSpace) (entry : Option α) : Except IndexSpace α :=
  match entry with
  | some value => .ok value
  | none => .error space

def typeAt (module : Module) (index : Nat) : Except IndexSpace FuncType :=
  lookup .type (module.types.get? index)

def functionTypeIndex (module : Module) (index : Nat) : Except IndexSpace Nat :=
  lookup .function module.functions[index]?

def functionType (module : Module) (index : Nat) : Except IndexSpace FuncType := do
  module.typeAt (← module.functionTypeIndex index)

def table (module : Module) (index : Nat) : Except IndexSpace TableType :=
  lookup .table module.tables[index]?

def memory (module : Module) (index : Nat) : Except IndexSpace Limits :=
  lookup .memory module.memories[index]?

def global (module : Module) (index : Nat) : Except IndexSpace GlobalType :=
  lookup .global module.globals[index]?

/-- The values an exception with the tag carries. -/
def tagParams (module : Module) (index : Nat) : Except IndexSpace (List ValueType) := do
  let type ← module.typeAt (← lookup .tag module.tags[index]?)
  return type.params

def elementType (module : Module) (index : Nat) : Except IndexSpace ValueType :=
  lookup .elemSegment module.elements[index]?

/-- Data segments can be named only where their number is announced. -/
def checkDataSegment (module : Module) (index : Nat) : Verdict :=
  match module.dataCount with
  | none => .error .dataCountRequired
  | some count => if index < count then .ok () else .error (.invalidIndex .dataSegment)

/-- The signature of a block type. -/
def blockSignature (module : Module) : BlockType → Except IndexSpace FuncType
  | .empty => .ok .empty
  | .value type => .ok ⟨[], [type]⟩
  | .index index => module.typeAt index

end Module

end WasmTyping
