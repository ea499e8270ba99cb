import WasmTyping.Error
import WasmTyping.Label

/-!
# Faults

Why a check fails. Each fault stands for one error; of several faults of one
instruction the first decides the verdict.
-/

set_option autoImplicit false

namespace WasmTyping

/-- The index spaces of a module and of a body. -/
inductive IndexSpace where
  | localVariable
  | global
  | function
  | table
  | memory
  | tag
  | type
  | dataSegment
  | elemSegment
  deriving DecidableEq

namespace IndexSpace

def name : IndexSpace → String
  | localVariable => "local"
  | global => "global"
  | function => "function"
  | table => "table"
  | memory => "memory"
  | tag => "tag"
  | type => "type"
  | dataSegment => "data segment"
  | elemSegment => "elem segment"

def code : IndexSpace → Code
  | localVariable => .invalidLocalIndex
  | global => .invalidGlobalIndex
  | function => .invalidFunctionIndex
  | table => .invalidTableIndex
  | memory => .invalidMemoryIndex
  | tag => .invalidTagIndex
  | type => .invalidTypeIndex
  | dataSegment => .invalidDataSegmentIndex
  | elemSegment => .invalidElemSegmentIndex

end IndexSpace

inductive Fault where
  | noOpenLabel
  | stackUnderflow
  | typeMismatch
  | referenceMismatch
  | sequenceMismatch
  | untypedSelect
  | depthOutOfRange
  | labelKind (rule : LabelRule)
  | stackNotEmpty
  | returnResults
  | laneOutOfRange
  | shuffleLaneOutOfRange
  | operandNotReference
  | targetWithoutReference
  | rethrowTarget
  | catchValues
  | tableTargets
  | invalidIndex (space : IndexSpace)
  | dataCountRequired
  | featureDisabled
  | invalidAlignment
  | tableNotFuncref
  | elementMismatch
  | mutableGlobal
  | notConstant
  | immutableGlobal
  | afterEnd
  | missingEnd
  deriving DecidableEq

namespace Fault

def error : Fault → Error
  | noOpenLabel => .named .core .invalidState "instruction outside of any open label"
  | stackUnderflow => .named .validation .stackUnderflow "value stack underflow"
  | typeMismatch => .typeMismatch "type mismatch"
  | referenceMismatch => .referenceTypeMismatch "reference types are incompatible"
  | sequenceMismatch => .typeMismatch "type sequences differ"
  | untypedSelect => .typeMismatch "untyped select requires numeric or vector operands"
  | depthOutOfRange => .invalidDepth "branch depth exceeds the label stack"
  | labelKind rule => .labelKindMismatch rule.text
  | stackNotEmpty => .stackNotEmpty "values remain at the end of a block"
  | returnResults => .returnSignature "tail call results differ from the function results"
  | laneOutOfRange => .laneIndex "lane index out of range"
  | shuffleLaneOutOfRange => .laneIndex "shuffle lane index out of range"
  | operandNotReference => .expectedReference "operand is not a reference"
  | targetWithoutReference => .expectedReference "branch target carries no reference"
  | rethrowTarget => .invalidRethrow "rethrow target is not a catch block"
  | catchValues => .catchSignature "catch clause values differ from the target label"
  | tableTargets => .brTableInconsistent "br_table targets carry different values"
  | invalidIndex space => .invalidIndex space.code.number ("invalid " ++ space.name ++ " index")
  | dataCountRequired => .validation "data count section required"
  | featureDisabled => .featureDisabled "instruction requires a disabled feature"
  | invalidAlignment => .named .validation .invalidAlignment "invalid alignment"
  | tableNotFuncref => .typeMismatch "indirect call through a non-funcref table"
  | elementMismatch => .referenceTypeMismatch "element types are incompatible"
  | mutableGlobal => .nonConstant "mutable global in constant expression"
  | notConstant => .nonConstant "instruction not valid in a constant expression"
  | immutableGlobal => .invalidIndex Code.immutableGlobal.number "immutable global"
  | afterEnd => .malformedBody "instruction after the final end"
  | missingEnd => .malformedBody "missing final end"

def message (fault : Fault) : String :=
  fault.error.message

end Fault

/-- The outcome of a check that yields no value. -/
abbrev Verdict := Except Fault Unit

/-- The first fault of two verdicts. -/
def Verdict.and : Verdict → Verdict → Verdict
  | .ok _, second => second
  | .error fault, _ => .error fault

/-- Forget the value of a successful check. -/
def Verdict.of {α : Type} : Except Fault α → Verdict
  | .ok _ => .ok ()
  | .error fault => .error fault

end WasmTyping
