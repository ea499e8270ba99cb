/-!
# Features and validation settings

A feature is an optional extension of the instruction set. Settings choose the
features a validator accepts and when it stops reporting.
-/

set_option autoImplicit false

namespace WasmTyping

inductive Feature where
  | multiValue
  | referenceTypes
  | exceptions
  | tailCall
  | functionReferences
  | simd
  | threads
  | extendedConst
  deriving DecidableEq

namespace Feature

def name : Feature → String
  | multiValue => "multi_value"
  | referenceTypes => "reference_types"
  | exceptions => "exceptions"
  | tailCall => "tail_call"
  | functionReferences => "function_references"
  | simd => "simd"
  | threads => "threads"
  | extendedConst => "extended_const"

def all : List Feature :=
  [multiValue, referenceTypes, exceptions, tailCall, functionReferences, simd, threads,
    extendedConst]

end Feature

/-- A set of enabled features. -/
structure Features where
  multiValue : Bool
  referenceTypes : Bool
  exceptions : Bool
  tailCall : Bool
  functionReferences : Bool
  simd : Bool
  threads : Bool
  extendedConst : Bool
  deriving DecidableEq

namespace Features

def enabled (features : Features) : Feature → Bool
  | .multiValue => features.multiValue
  | .referenceTypes => features.referenceTypes
  | .exceptions => features.exceptions
  | .tailCall => features.tailCall
  | .functionReferences => features.functionReferences
  | .simd => features.simd
  | .threads => features.threads
  | .extendedConst => features.extendedConst

/-- Switch one feature on or off. -/
def set (features : Features) (feature : Feature) (value : Bool) : Features :=
  match feature with
  | .multiValue => { features with multiValue := value }
  | .referenceTypes => { features with referenceTypes := value }
  | .exceptions => { features with exceptions := value }
  | .tailCall => { features with tailCall := value }
  | .functionReferences => { features with functionReferences := value }
  | .simd => { features with simd := value }
  | .threads => { features with threads := value }
  | .extendedConst => { features with extendedConst := value }

/-- Multiple values, reference types and vectors. -/
def standard : Features := ⟨true, true, false, false, false, true, false, false⟩

def all : Features := ⟨true, true, true, true, true, true, true, true⟩

/-- The first version of the instruction set, without any extension. -/
def mvp : Features := ⟨false, false, false, false, false, false, false, false⟩

end Features

structure Config where
  features : Features
  /-- Stop at the first instruction that fails. -/
  failFast : Bool
  /-- Stop once this many diagnostics have been delivered. -/
  maxDiagnostics : Nat
  deriving DecidableEq

namespace Config

def standard : Config := ⟨.standard, false, 100⟩

/-- One diagnostic, then stop. -/
def strict : Config := { standard with failFast := true, maxDiagnostics := 1 }

/-- As many diagnostics as a 64-bit counter can number. -/
def collectAll : Config := { standard with maxDiagnostics := 18446744073709551615 }

end Config

end WasmTyping
