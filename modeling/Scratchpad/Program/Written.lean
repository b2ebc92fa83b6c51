import Scratchpad.Program.Builder

/-! Programs as they are written: trees that mention names by their text. Building one adds its
nodes to an arena, the children of a node before the node itself.
-/

namespace Scratchpad

namespace Written

mutual

inductive Expr where
  | literal (value : Literal String)
  | ident (name : String)
  | this
  /-- An identifier that refers to a class. -/
  | classIdent (name className : String)
  /-- An identifier that refers to a package. -/
  | packageIdent (name package : String)
  | call (args : List Expr) (name : String)
  | binary (op : BinaryOp) (left right : Expr)
  | unary (op : UnaryOp) (operand : Expr)
  | ternary (cond thenExpr elseExpr : Expr)
  | assign (op : AssignOp) (target value : Expr)
  | index (array index : Expr)
  | chain (segments : List Expr)
  | newArray (items : List Expr) (component : ResolvedType String)
  | newSized (size : Expr) (component : ResolvedType String)
  | newObject (args : List Expr) (className : String)
  | lambda (body : Body) (params : List String) (target? : Option String)
  | typeRef
  /-- An expression with what the resolver says about it, which wins over what its form says. -/
  | noted (expr : Expr) (span? : Option Span) (type? : Option (ResolvedType String))
    (decl? : Option (Declaration String))

/-- The body of a lambda. -/
inductive Body where
  | expr (expr : Expr)
  | block (stmt : Stmt)

inductive Declarator where
  | mk (name : String) (init? : Option Expr)

inductive Stmt where
  | block (body : List Stmt)
  | expr (expr : Expr)
  | ifElse (cond : Expr) (thenBranch : Stmt) (elseBranch? : Option Stmt)
  | whileLoop (cond : Expr) (body : Stmt)
  | doWhile (body : Stmt) (cond : Expr)
  | forLoop (init : List Stmt) (cond? : Option Expr) (update : List Expr) (body : Stmt)
  | forEach (iterable : Expr) (body : Stmt) (type : ResolvedType String) (var : String)
  | varDecl (declarators : List Declarator) (type : ResolvedType String)
  | returns (value? : Option Expr)
  | breakLoop
  | synchronized (lock : Expr) (body : Stmt)
  | unsupported (form : UnsupportedStmt)
  | placed (stmt : Stmt) (span : Span)

end

instance : Inhabited Expr := ⟨.this⟩

instance : Inhabited Stmt := ⟨.breakLoop⟩

mutual

/-- Builds an expression. -/
def Expr.build : Expr → Build ExprId
  | .literal value => Build.literal value
  | .ident name => Build.ident name
  | .this => Build.expr { kind := .ident Name.this }
  | .classIdent name className => Build.classIdent name className
  | .packageIdent name package => Build.packageIdent name package
  | .call args name => do
    let args ← buildExprs args
    Build.call name args
  | .binary op left right => do
    let left ← left.build
    let right ← right.build
    Build.expr { kind := .binary op left right }
  | .unary op operand => do
    let operand ← operand.build
    Build.expr { kind := .unary op operand }
  | .ternary cond thenExpr elseExpr => do
    let cond ← cond.build
    let thenExpr ← thenExpr.build
    let elseExpr ← elseExpr.build
    Build.expr { kind := .ternary cond thenExpr elseExpr }
  | .assign op target value => do
    let target ← target.build
    let value ← value.build
    Build.expr { kind := .assign op target value }
  | .index array index => do
    let array ← array.build
    let index ← index.build
    Build.expr { kind := .index array index }
  | .chain segments => do
    let segments ← buildExprs segments
    Build.expr { kind := .chain segments }
  | .newArray items component => do
    let items ← buildExprs items
    Build.newArray component (.elements items)
  | .newSized size component => do
    let size ← size.build
    Build.newArray component (.dimension size)
  | .newObject args className => do
    let args ← buildExprs args
    Build.newObject className args
  | .lambda body params target? => do
    let body ← body.build
    Build.lambda params body target?
  | .typeRef => Build.expr { kind := .typeRef }
  | .noted expr span? type? decl? => do
    let id ← expr.build
    span?.forM (Build.place id)
    type?.forM fun type => do Build.typed id (← Build.type type)
    decl?.forM fun decl => do Build.annotate id (← Build.declaration decl)
    pure id

/-- Builds the body of a lambda. -/
def Body.build : Body → Build LambdaBody
  | .expr expr => .expr <$> expr.build
  | .block stmt => .block <$> stmt.build

/-- Builds the initial value of a declarator. -/
def Declarator.build : Declarator → Build (String × Option ExprId)
  | .mk name init? => do
    let init? ← buildExpr? init?
    pure (name, init?)

/-- Builds a statement. -/
def Stmt.build : Stmt → Build StmtId
  | .block body => do
    let body ← buildStmts body
    Build.stmt { kind := .block body }
  | .expr expr => do
    let expr ← expr.build
    Build.stmt { kind := .expr expr }
  | .ifElse cond thenBranch elseBranch? => do
    let cond ← cond.build
    let thenBranch ← thenBranch.build
    let elseBranch? ← buildStmt? elseBranch?
    Build.stmt { kind := .ifElse cond thenBranch elseBranch? }
  | .whileLoop cond body => do
    let cond ← cond.build
    let body ← body.build
    Build.stmt { kind := .whileLoop cond body }
  | .doWhile body cond => do
    let body ← body.build
    let cond ← cond.build
    Build.stmt { kind := .doWhile body cond }
  | .forLoop init cond? update body => do
    let init ← buildStmts init
    let cond? ← buildExpr? cond?
    let update ← buildExprs update
    let body ← body.build
    Build.stmt { kind := .forLoop init cond? update body }
  | .forEach iterable body type var => do
    let iterable ← iterable.build
    let body ← body.build
    Build.forEach type var iterable body
  | .varDecl declarators type => do
    let declarators ← buildDeclarators declarators
    Build.varDecl type declarators
  | .returns value? => do
    let value? ← buildExpr? value?
    Build.stmt { kind := .returns value? }
  | .breakLoop => Build.stmt { kind := .breakLoop }
  | .synchronized lock body => do
    let lock ← lock.build
    let body ← body.build
    Build.stmt { kind := .synchronized lock body }
  | .unsupported form => Build.stmt { kind := .unsupported form }
  | .placed stmt span => do
    let id ← stmt.build
    Build.placeStmt id span
    pure id

/-- Builds expressions in order. -/
def buildExprs : List Expr → Build (List ExprId)
  | [] => pure []
  | expr :: rest => do
    let id ← expr.build
    let ids ← buildExprs rest
    pure (id :: ids)

/-- Builds an expression that may be missing. -/
def buildExpr? : Option Expr → Build (Option ExprId)
  | none => pure none
  | some expr => some <$> expr.build

/-- Builds statements in order. -/
def buildStmts : List Stmt → Build (List StmtId)
  | [] => pure []
  | stmt :: rest => do
    let id ← stmt.build
    let ids ← buildStmts rest
    pure (id :: ids)

/-- Builds a statement that may be missing. -/
def buildStmt? : Option Stmt → Build (Option StmtId)
  | none => pure none
  | some stmt => some <$> stmt.build

/-- Builds the initial values of declarators in order. -/
def buildDeclarators : List Declarator → Build (List (String × Option ExprId))
  | [] => pure []
  | declarator :: rest => do
    let built ← declarator.build
    let later ← buildDeclarators rest
    pure (built :: later)

end

/-- A statement with the resolver's findings in it. -/
structure Submission where
  stmt : Stmt
  errors : List SemanticError := []

/-- Builds a submission as a unit, in an arena of its own over given names. -/
def buildUnit (names : Interner) (statements : List Submission) : SourceUnit × Interner :=
  let build : Build (List SourceStatement) := statements.mapM fun statement => do
    let root ← statement.stmt.build
    pure { root, errors := statement.errors }
  let (statements, builder) := build.run { names }
  ({ arena := builder.arena, statements }, builder.names)

end Written

end Scratchpad
