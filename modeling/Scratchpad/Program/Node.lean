import Scratchpad.Name
import Scratchpad.Program.Annotation
import Scratchpad.Program.Operator

/-! Expression and statement nodes. A node refers to its children by their index in the arena
that holds them.
-/

namespace Scratchpad

/-- A byte range of the submitted text. -/
structure Span where
  start : Nat
  stop : Nat
deriving DecidableEq, Inhabited

namespace Span

/-- The span of a node that no text stands for. -/
def dummy : Span := ⟨0, 0⟩

def isDummy (span : Span) : Bool := span.start == 0 && span.stop == 0

def display (span : Span) : String := toString span.start ++ ".." ++ toString span.stop

end Span

/-- A literal. Floating-point literals are kept as their encoding, so that equal literals are
exactly the identical ones.
-/
inductive Literal (ν : Type) where
  | null
  | bool (value : Bool)
  | int (value : Int32)
  | long (value : Int64)
  | float (bits : UInt32)
  | double (bits : UInt64)
  | char (value : Char)
  | str (text : ν)
deriving DecidableEq, Inhabited

structure ExprId where
  index : Nat
deriving DecidableEq, Inhabited

structure StmtId where
  index : Nat
deriving DecidableEq, Inhabited

/-- How an array allocation gets its elements. -/
inductive ArrayInit where
  | elements (items : List ExprId)
  | dimension (size : ExprId)
deriving DecidableEq, Inhabited

inductive Allocation where
  | array (component : ResolvedType Name) (init : ArrayInit)
  | object (className : Name) (args : List ExprId)
deriving DecidableEq, Inhabited

inductive LambdaBody where
  | expr (id : ExprId)
  | block (id : StmtId)
deriving DecidableEq, Inhabited

inductive ExprKind where
  | literal (value : Literal Name)
  | ident (name : Name)
  /-- A call on the ambient receiver, or on the segment before it in a chain. -/
  | call (name : Name) (args : List ExprId)
  | binary (op : BinaryOp) (left right : ExprId)
  | unary (op : UnaryOp) (operand : ExprId)
  | ternary (cond thenExpr elseExpr : ExprId)
  | assign (op : AssignOp) (target value : ExprId)
  | index (array index : ExprId)
  /-- Segments from left to right, each with the value before it as receiver. -/
  | chain (segments : List ExprId)
  | alloc (allocation : Allocation)
  /-- The target interface is the type of the node. -/
  | lambda (params : List Name) (body : LambdaBody)
  /-- The type of the node, used as a value. -/
  | typeRef
deriving DecidableEq, Inhabited

/-- An expression with what the resolver found out about it. -/
structure Expr where
  kind : ExprKind
  span : Span := .dummy
  decl? : Option (Declaration Name) := none
  type? : Option (ResolvedType Name) := none
deriving DecidableEq, Inhabited

/-- Statement forms that are recognised but never run. -/
inductive UnsupportedStmt where
  | assertion
  | switch
  | tryCatch
  | throwing
  | labeled
  | continueLoop
  | classDecl
  | constructorCall
deriving DecidableEq, Inhabited

namespace UnsupportedStmt

def all : List UnsupportedStmt :=
  [
    .assertion, .switch, .tryCatch, .throwing, .labeled, .continueLoop, .classDecl,
    .constructorCall
  ]

/-- The form's name in messages. -/
def display : UnsupportedStmt → String
  | .assertion => "assert"
  | .switch => "switch"
  | .tryCatch => "try"
  | .throwing => "throw"
  | .labeled => "labeled statement"
  | .continueLoop => "continue"
  | .classDecl => "class declaration"
  | .constructorCall => "constructor call"

end UnsupportedStmt

/-- One name of a variable declaration and its initial value, if it has one. -/
structure Declarator where
  name : Name
  init? : Option ExprId
deriving DecidableEq, Inhabited

inductive StmtKind where
  | block (body : List StmtId)
  | expr (id : ExprId)
  | ifElse (cond : ExprId) (thenBranch : StmtId) (elseBranch? : Option StmtId)
  | whileLoop (cond : ExprId) (body : StmtId)
  | doWhile (body : StmtId) (cond : ExprId)
  /-- A missing condition always holds. -/
  | forLoop (init : List StmtId) (cond? : Option ExprId) (update : List ExprId) (body : StmtId)
  | forEach (var : Name) (type : ResolvedType Name) (iterable : ExprId) (body : StmtId)
  | varDecl (type : ResolvedType Name) (declarators : List Declarator)
  | returns (value? : Option ExprId)
  | breakLoop
  | synchronized (lock : ExprId) (body : StmtId)
  | unsupported (form : UnsupportedStmt)
deriving DecidableEq, Inhabited

structure Stmt where
  kind : StmtKind
  span : Span := .dummy
deriving DecidableEq, Inhabited

end Scratchpad
