import WasmTyping.ValueType

/-!
# Labels

A label stands for one open region. It records the signature of the region and
the height of the operand stack below it; code inside the region never reaches
deeper than that height.
-/

set_option autoImplicit false

namespace WasmTyping

inductive LabelKind where
  | function
  | initExpr
  | block
  | loop
  | ifThen
  | elseArm
  | tryBlock
  | catchArm
  | tryTable
  deriving DecidableEq

/-- How diagnostics name the region. -/
def LabelKind.text : LabelKind → String
  | function => "function"
  | initExpr => "initializer expression"
  | block => "block"
  | loop => "loop"
  | ifThen => "if"
  | elseArm => "if false branch"
  | tryBlock => "try"
  | catchArm => "try catch"
  | tryTable => "try table"

structure Label where
  kind : LabelKind
  params : List ValueType
  results : List ValueType
  /-- Height of the operand stack when the region was entered. -/
  limit : Nat
  /-- Whether the rest of the region cannot be executed. -/
  unreachable : Bool
  deriving DecidableEq

/-- The values a branch to the label carries. A loop is entered again, any other
region is left. -/
def Label.branchTypes (label : Label) : List ValueType :=
  if label.kind = .loop then label.params else label.results

/-- Which kind of region an instruction that ends or continues one needs. -/
inductive LabelRule where
  | functionEnd
  | initExprEnd
  | elseAfterIf
  | catchAfterTry
  | delegateAfterTry
  deriving DecidableEq

namespace LabelRule

def allows : LabelRule → LabelKind → Bool
  | functionEnd, kind => kind = .function
  | initExprEnd, kind => kind = .initExpr
  | elseAfterIf, kind => kind = .ifThen
  | catchAfterTry, kind => kind = .tryBlock || kind = .catchArm
  | delegateAfterTry, kind => kind = .tryBlock

def text : LabelRule → String
  | functionEnd => "function body ends inside an open block"
  | initExprEnd => "initializer expression ends inside an open block"
  | elseAfterIf => "else must follow an if block"
  | catchAfterTry => "catch must follow a try or catch block"
  | delegateAfterTry => "delegate must follow a try block"

end LabelRule

end WasmTyping
