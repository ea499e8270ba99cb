import WasmTyping.Fault
import WasmTyping.Features
import WasmTyping.FuncType

/-!
# Diagnostics and events

What a check says about a failure, and what it logs while it runs. Both are kept
as data; their wording is fixed here.
-/

set_option autoImplicit false

namespace WasmTyping

/-- Where operands were compared with a signature. -/
inductive Place where
  | inside
  | atEnd
  deriving DecidableEq

def Place.text : Place → String
  | inside => "in"
  | atEnd => "at end of"

/-- The two things that are validated as a whole. -/
inductive BodyKind where
  | function (results : List ValueType)
  | initExpr (type : ValueType)
  deriving DecidableEq

def BodyKind.text : BodyKind → String
  | function _ => "function body"
  | initExpr _ => "initializer expression"

inductive Diagnostic where
  | noOpenBlock
  | depthOutOfRange (depth greatest : Nat)
  | labelKind (rule : LabelRule)
  | mismatch (place : Place) (construct : String) (expected actual : List ValueType)
      (truncated : Bool)
  | expectedReference (construct : String) (actual : Option ValueType)
  | returnResults (expected actual : List ValueType)
  | laneOutOfRange (count lane : Nat)
  | rethrowOutsideCatch
  | rethrowTarget (depth : Nat) (candidates : List Nat)
  | catchValues (expected actual : List ValueType)
  | tableTargets (expected actual : List ValueType)
  | nonNullOperand (expected actual : ValueType)
  | nonNullTarget
  | invalidIndex (space : IndexSpace) (index : Nat)
  | dataCountRequired
  | featureDisabled (name : String) (feature : Feature)
  | alignment (exact : Bool) (natural : Nat)
  | mutableGlobal
  | notConstant (name : String)
  | tableNotFuncref (name : String)
  | elementMismatch (name : String) (expected actual : ValueType)
  | immutableGlobal (index : Nat)
  | afterEnd (name : String) (body : BodyKind)
  | missingEnd (body : BodyKind)
  | unexplained (fault : Fault)
  deriving DecidableEq

open ValueType (fullText listText) in
/-- The wording of a diagnostic. -/
def Diagnostic.text : Diagnostic → String
  | noOpenBlock => "no open control block"
  | depthOutOfRange depth greatest =>
    "invalid depth: " ++ toString depth ++ " (max " ++ toString greatest ++ ")"
  | labelKind rule => rule.text
  | mismatch place construct expected actual truncated =>
    "type mismatch " ++ place.text ++ " " ++ construct ++ ", expected " ++ fullText expected ++
      " but got " ++ listText actual truncated
  | expectedReference construct actual =>
    "type mismatch in " ++ construct ++ ", expected a reference but got " ++
      fullText actual.toList
  | returnResults expected actual =>
    "return signatures have inconsistent types: expected " ++ fullText expected ++ ", got " ++
      fullText actual
  | laneOutOfRange count lane =>
    "lane index must be less than " ++ toString count ++ " (got " ++ toString lane ++ ")"
  | rethrowOutsideCatch => "rethrow not in try catch block"
  | rethrowTarget depth candidates =>
    "invalid rethrow depth: " ++ toString depth ++ " (catches: " ++
      ", ".intercalate (candidates.map toString) ++ ")"
  | catchValues expected actual =>
    "catch signature doesn't match target: expected " ++ fullText expected ++ ", got " ++
      fullText actual
  | tableTargets expected actual =>
    "br_table labels have inconsistent types: expected " ++ fullText expected ++ ", got " ++
      fullText actual
  | nonNullOperand expected actual =>
    "type mismatch in br_on_non_null, expected " ++ fullText [expected] ++ " but got " ++
      fullText [actual]
  | nonNullTarget => "br_on_non_null target must accept a reference"
  | invalidIndex space index => (Fault.invalidIndex space).message ++ ": " ++ toString index
  | dataCountRequired => Fault.dataCountRequired.message
  | featureDisabled name feature =>
    name ++ " not allowed: " ++ feature.name ++ " feature is disabled"
  | alignment true natural =>
    "alignment must be equal to natural alignment (" ++ toString natural ++ ")"
  | alignment false natural =>
    "alignment must not be larger than natural alignment (" ++ toString natural ++ ")"
  | mutableGlobal =>
    "invalid initializer: initializer expression cannot reference a mutable global"
  | notConstant name =>
    "invalid initializer: instruction not valid in initializer expression: " ++ name
  | tableNotFuncref name =>
    "type mismatch: " ++ name ++ " must reference table of funcref type"
  | elementMismatch name expected actual =>
    "type mismatch in " ++ name ++ ", expected element type " ++ expected.text ++ " but got " ++
      actual.text
  | immutableGlobal index => "can't global.set on immutable global: " ++ toString index
  | afterEnd name body => "unexpected " ++ name ++ " after the end of the " ++ body.text
  | missingEnd body => body.text ++ " must end with an end instruction"
  | unexplained fault => fault.message

/-- What is wrong, in words and as a fault. -/
structure Complaint where
  diagnostic : Diagnostic
  fault : Fault
  deriving DecidableEq

/-- An index that names nothing in its space. -/
def Complaint.invalidIndex (space : IndexSpace) (index : Nat) : Complaint :=
  ⟨.invalidIndex space index, .invalidIndex space⟩

inductive LogLevel where
  | trace
  | debug
  deriving DecidableEq

def LogLevel.name : LogLevel → String
  | trace => "TRACE"
  | debug => "DEBUG"

/-- What happens while a body is checked, in order. -/
inductive Event where
  | reported (diagnostic : Diagnostic)
  | opened (kind : LabelKind) (params results : List ValueType) (height : Nat)
  | closed (kind : LabelKind)
  | unreachable (kind : LabelKind)
  | functionBegun (index : Nat) (type : FuncType)
  | functionDone (index diagnostics : Nat)
  | initExprBegun (type : ValueType)
  deriving DecidableEq

namespace Event

/-- Only the life of labels is logged at the finer level. -/
def level : Event → LogLevel
  | opened _ _ _ _ | closed _ | unreachable _ => .trace
  | reported _ | functionBegun _ _ | functionDone _ _ | initExprBegun _ => .debug

def text : Event → String
  | reported diagnostic => diagnostic.text
  | opened kind params results height =>
    "push " ++ kind.text ++ " label " ++ FuncType.text ⟨params, results⟩ ++ " at height " ++
      toString height
  | closed kind => "pop " ++ kind.text ++ " label"
  | unreachable kind => kind.text ++ " label becomes unreachable"
  | functionBegun index type =>
    "validating function " ++ toString index ++ " with type " ++ type.text
  | functionDone index diagnostics =>
    "function " ++ toString index ++ ": " ++ toString diagnostics ++ " diagnostics so far"
  | initExprBegun type => "validating initializer expression of type " ++ type.text

def diagnostic? : Event → Option Diagnostic
  | reported diagnostic => some diagnostic
  | _ => none

end Event

end WasmTyping
