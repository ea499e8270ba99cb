/-!
# Errors

An error has a category, a numeric code and a fixed summary. The codes of each
family of errors are named once, and the constructors below pair each code with
its category.
-/

set_option autoImplicit false

namespace WasmTyping

/-- Broad classes of errors, ordered by number. -/
inductive Category where
  | core
  | validation
  | type
  | unknown
  | parse
  | notSupported
  deriving DecidableEq

namespace Category

def number : Category → Nat
  | core => 1
  | validation => 5
  | type => 6
  | unknown => 9
  | parse => 10
  | notSupported => 15

def name : Category → String
  | core => "Core"
  | validation => "Validation"
  | type => "Type"
  | unknown => "Unknown"
  | parse => "Parse"
  | notSupported => "NotSupported"

instance : Ord Category where
  compare left right := compare left.number right.number

end Category

/-- The named error codes. -/
inductive Code where
  | invalidState
  | validationError
  | stackUnderflow
  | stackNotEmpty
  | invalidBranchDepth
  | invalidRethrowTarget
  | brTableInconsistent
  | laneIndexOutOfRange
  | labelKindMismatch
  | returnSignatureMismatch
  | catchSignatureMismatch
  | invalidLocalIndex
  | invalidGlobalIndex
  | invalidFunctionIndex
  | invalidTableIndex
  | invalidMemoryIndex
  | invalidTagIndex
  | invalidTypeIndex
  | invalidDataSegmentIndex
  | invalidElemSegmentIndex
  | immutableGlobal
  | nonConstantExpression
  | featureDisabled
  | malformedBody
  | invalidAlignment
  | typeMismatch
  | referenceTypeMismatch
  | expectedReference
  deriving DecidableEq

namespace Code

def number : Code → UInt16
  | invalidState => 1000
  | validationError => 5000
  | stackUnderflow => 5001
  | stackNotEmpty => 5002
  | invalidBranchDepth => 5003
  | invalidRethrowTarget => 5004
  | brTableInconsistent => 5005
  | laneIndexOutOfRange => 5006
  | labelKindMismatch => 5007
  | returnSignatureMismatch => 5008
  | catchSignatureMismatch => 5009
  | invalidLocalIndex => 5100
  | invalidGlobalIndex => 5101
  | invalidFunctionIndex => 5102
  | invalidTableIndex => 5103
  | invalidMemoryIndex => 5104
  | invalidTagIndex => 5105
  | invalidTypeIndex => 5106
  | invalidDataSegmentIndex => 5107
  | invalidElemSegmentIndex => 5108
  | immutableGlobal => 5109
  | nonConstantExpression => 5110
  | featureDisabled => 5111
  | malformedBody => 5112
  | invalidAlignment => 5113
  | typeMismatch => 6001
  | referenceTypeMismatch => 6002
  | expectedReference => 6003

/-- The published name of a code. -/
def symbol : Code → String
  | invalidState => "INVALID_STATE"
  | validationError => "VALIDATION_ERROR"
  | stackUnderflow => "STACK_UNDERFLOW"
  | stackNotEmpty => "STACK_NOT_EMPTY"
  | invalidBranchDepth => "INVALID_BRANCH_DEPTH"
  | invalidRethrowTarget => "INVALID_RETHROW_TARGET"
  | brTableInconsistent => "BR_TABLE_INCONSISTENT"
  | laneIndexOutOfRange => "LANE_INDEX_OUT_OF_RANGE"
  | labelKindMismatch => "LABEL_KIND_MISMATCH"
  | returnSignatureMismatch => "RETURN_SIGNATURE_MISMATCH"
  | catchSignatureMismatch => "CATCH_SIGNATURE_MISMATCH"
  | invalidLocalIndex => "INVALID_LOCAL_INDEX"
  | invalidGlobalIndex => "INVALID_GLOBAL_INDEX"
  | invalidFunctionIndex => "INVALID_FUNCTION_INDEX"
  | invalidTableIndex => "INVALID_TABLE_INDEX"
  | invalidMemoryIndex => "INVALID_MEMORY_INDEX"
  | invalidTagIndex => "INVALID_TAG_INDEX"
  | invalidTypeIndex => "INVALID_TYPE_INDEX"
  | invalidDataSegmentIndex => "INVALID_DATA_SEGMENT_INDEX"
  | invalidElemSegmentIndex => "INVALID_ELEM_SEGMENT_INDEX"
  | immutableGlobal => "IMMUTABLE_GLOBAL"
  | nonConstantExpression => "NON_CONSTANT_EXPRESSION"
  | featureDisabled => "FEATURE_DISABLED"
  | malformedBody => "MALFORMED_BODY"
  | invalidAlignment => "INVALID_ALIGNMENT"
  | typeMismatch => "TYPE_MISMATCH"
  | referenceTypeMismatch => "REFERENCE_TYPE_MISMATCH"
  | expectedReference => "EXPECTED_REFERENCE"

def all : List Code :=
  [invalidState, validationError, stackUnderflow, stackNotEmpty, invalidBranchDepth,
    invalidRethrowTarget, brTableInconsistent, laneIndexOutOfRange, labelKindMismatch,
    returnSignatureMismatch, catchSignatureMismatch, invalidLocalIndex, invalidGlobalIndex,
    invalidFunctionIndex, invalidTableIndex, invalidMemoryIndex, invalidTagIndex,
    invalidTypeIndex, invalidDataSegmentIndex, invalidElemSegmentIndex, immutableGlobal,
    nonConstantExpression, featureDisabled, malformedBody, invalidAlignment, typeMismatch,
    referenceTypeMismatch, expectedReference]

end Code

structure Error where
  category : Category
  code : UInt16
  message : String
  deriving DecidableEq

namespace Error

/-- An error with a named code. -/
def named (category : Category) (code : Code) (message : String) : Error :=
  ⟨category, code.number, message⟩

def validation (message : String) : Error := named .validation .validationError message
def typeMismatch (message : String) : Error := named .type .typeMismatch message
def referenceTypeMismatch (message : String) : Error := named .type .referenceTypeMismatch message
def expectedReference (message : String) : Error := named .type .expectedReference message
def stackNotEmpty (message : String) : Error := named .validation .stackNotEmpty message
def invalidDepth (message : String) : Error := named .validation .invalidBranchDepth message
def invalidRethrow (message : String) : Error := named .validation .invalidRethrowTarget message
def labelKindMismatch (message : String) : Error := named .validation .labelKindMismatch message
def brTableInconsistent (message : String) : Error := named .validation .brTableInconsistent message
def laneIndex (message : String) : Error := named .validation .laneIndexOutOfRange message
def returnSignature (message : String) : Error := named .validation .returnSignatureMismatch message
def catchSignature (message : String) : Error := named .validation .catchSignatureMismatch message
def nonConstant (message : String) : Error := named .validation .nonConstantExpression message
def featureDisabled (message : String) : Error := named .notSupported .featureDisabled message
def malformedBody (message : String) : Error := named .parse .malformedBody message

/-- An index outside its index space; each space has a code of its own. -/
def invalidIndex (code : UInt16) (message : String) : Error := ⟨.validation, code, message⟩

def isValidation (error : Error) : Bool := error.category = .validation
def isType (error : Error) : Bool := error.category = .type
def isCore (error : Error) : Bool := error.category = .core
def isNotSupported (error : Error) : Bool := error.category = .notSupported

/-- The code in upper-case hexadecimal, at least four digits wide. -/
def codeText (code : UInt16) : String :=
  let digits := (Nat.toDigits 16 code.toNat).map Char.toUpper
  String.ofList (List.replicate (4 - digits.length) '0' ++ digits)

def text (error : Error) : String :=
  "[" ++ error.category.name ++ "][E" ++ codeText error.code ++ "] " ++ error.message

end Error

end WasmTyping
