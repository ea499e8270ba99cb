import WasmTyping.Body.Validation

/-!
# Dumps

One-line renderings of a whole checker and of a validator, field by field.
-/

set_option autoImplicit false

namespace WasmTyping

namespace Dump

/-- A named record. An open record ends in dots for the fields left out. -/
def record (name : String) (fields : List (String × String)) (isOpen : Bool) : String :=
  name ++ " \x7b " ++
    ", ".intercalate (fields.map (fun field => field.1 ++ ": " ++ field.2) ++
      if isOpen then [".."] else []) ++
    " \x7d"

def list (items : List String) : String :=
  "[" ++ ", ".intercalate items ++ "]"

def numType : NumType → String
  | .i32 => "I32"
  | .i64 => "I64"
  | .f32 => "F32"
  | .f64 => "F64"
  | .v128 => "V128"

def valueType : ValueType → String
  | .num type => numType type
  | .funcref nullable => record "FuncRef" [("nullable", toString nullable)] false
  | .externref nullable => record "ExternRef" [("nullable", toString nullable)] false
  | .exnref => "ExnRef"
  | .ref index nullable =>
    record "Ref" [("index", toString index), ("nullable", toString nullable)] false
  | .any => "Any"

def valueTypes (types : List ValueType) : String :=
  list (types.map valueType)

def labelKind : LabelKind → String
  | .function => "Func"
  | .initExpr => "InitExpr"
  | .block => "Block"
  | .loop => "Loop"
  | .ifThen => "If"
  | .elseArm => "Else"
  | .tryBlock => "Try"
  | .catchArm => "Catch"
  | .tryTable => "TryTable"

def label (label : Label) : String :=
  record "Label"
    [("kind", labelKind label.kind),
      ("params", valueTypes label.params),
      ("results", valueTypes label.results),
      ("limit", toString label.limit),
      ("unreachable", toString label.unreachable)] false

def features (features : Features) : String :=
  record "Features"
    (Feature.all.map fun feature => (feature.name, toString (features.enabled feature))) false

def config (config : Config) : String :=
  record "ValidationConfig"
    [("features", features config.features),
      ("fail_fast", toString config.failFast),
      ("max_diagnostics", toString config.maxDiagnostics)] false

def checker (env : Environment) (state : State) : String :=
  let tableTypes := match state.tableTypes with
    | none => "None"
    | some types => "Some(" ++ valueTypes types ++ ")"
  record "TypeChecker"
    [("features", features env.features),
      ("type_stack", valueTypes state.operands),
      ("labels", list (state.labels.reverse.map label)),
      ("br_table_sig", tableTypes)] true

def validator (validator : Validator) : String :=
  record "FunctionValidator"
    [("config", config validator.config),
      ("diagnostics", toString validator.diagnostics)] true

end Dump

end WasmTyping
