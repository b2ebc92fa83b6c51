import Scratchpad.Program.Arena

/-! Building an arena node by node. Every call adds one node, or annotates one that is there, and
gives its index; the texts that it mentions are interned on the way.
-/

namespace Scratchpad

structure Builder where
  arena : Arena := {}
  names : Interner := {}
deriving Inhabited

/-- A step of building. -/
abbrev Build (α : Type) : Type := StateM Builder α

namespace Build

/-- The name of a text. -/
def name (text : String) : Build Name := do
  let builder ← get
  let (name, names) := builder.names.intern text
  set { builder with names }
  pure name

/-- A type over interned names. -/
def type : ResolvedType String → Build (ResolvedType Name)
  | .void => pure .void
  | .null => pure .null
  | .primitive type => pure (.primitive type)
  | .classType className => .classType <$> name className
  | .array component => .array <$> type component

/-- A declaration over interned names: the types that it mentions come first. -/
def declaration : Declaration String → Build (Declaration Name)
  | .method decl => do
    let params ← decl.params.mapM type
    let returns ← type decl.returns
    let declaring ← name decl.declaring
    let name ← name decl.name
    pure (.method { declaring, name, params, returns, isStatic := decl.isStatic })
  | .constructor decl => do
    let params ← decl.params.mapM type
    let declaring ← name decl.declaring
    pure (.constructor { declaring, params })
  | .field decl => do
    let type ← type decl.type
    let declaring ← name decl.declaring
    let name ← name decl.name
    pure (.field { declaring, name, type, isStatic := decl.isStatic })
  | .variable decl => do
    let type ← type decl.type
    let name ← name decl.name
    pure (.variable { name, type })
  | .classDecl className => .classDecl <$> name className
  | .package package => .package <$> name package

-----------------------------------------------------------------------------------------
-- Nodes and their annotations
-----------------------------------------------------------------------------------------

/-- Adds an expression. -/
def expr (node : Expr) : Build ExprId := do
  let builder ← get
  let (id, arena) := builder.arena.addExpr node
  set { builder with arena }
  pure id

/-- Adds a statement. -/
def stmt (node : Stmt) : Build StmtId := do
  let builder ← get
  let (id, arena) := builder.arena.addStmt node
  set { builder with arena }
  pure id

def updateExpr (id : ExprId) (change : Expr → Expr) : Build Unit :=
  modify fun builder => { builder with arena := builder.arena.updateExpr id change }

/-- Says what an expression refers to. -/
def annotate (id : ExprId) (decl : Declaration Name) : Build Unit :=
  updateExpr id fun node => { node with decl? := some decl }

/-- Says what type an expression has. -/
def typed (id : ExprId) (type : ResolvedType Name) : Build Unit :=
  updateExpr id fun node => { node with type? := some type }

/-- Says where an expression stands in the text. -/
def place (id : ExprId) (span : Span) : Build Unit :=
  updateExpr id fun node => { node with span }

/-- Says where a statement stands in the text. -/
def placeStmt (id : StmtId) (span : Span) : Build Unit :=
  modify fun builder =>
    { builder with arena := builder.arena.updateStmt id fun node => { node with span } }

/-- Adds an expression of a kind, and its type. -/
def exprOfType (kind : ExprKind) (type : ResolvedType Name) : Build ExprId := do
  let id ← expr { kind }
  typed id type
  pure id

-----------------------------------------------------------------------------------------
-- Expressions that mention texts
-----------------------------------------------------------------------------------------

def literal : Literal String → Build ExprId
  | .null => expr { kind := .literal .null }
  | .bool value => expr { kind := .literal (.bool value) }
  | .int value => expr { kind := .literal (.int value) }
  | .long value => expr { kind := .literal (.long value) }
  | .float bits => expr { kind := .literal (.float bits) }
  | .double bits => expr { kind := .literal (.double bits) }
  | .char value => expr { kind := .literal (.char value) }
  | .str text => do
    let text ← name text
    expr { kind := .literal (.str text) }

def ident (text : String) : Build ExprId := do
  let name ← name text
  expr { kind := .ident name }

/-- An identifier that refers to a class. -/
def classIdent (text className : String) : Build ExprId := do
  let id ← ident text
  let className ← name className
  annotate id (.classDecl className)
  pure id

/-- An identifier that refers to a package. -/
def packageIdent (text package : String) : Build ExprId := do
  let id ← ident text
  let package ← name package
  annotate id (.package package)
  pure id

def call (text : String) (args : List ExprId) : Build ExprId := do
  let name ← name text
  expr { kind := .call name args }

/-- An array allocation, whose type is an array of its component. -/
def newArray (component : ResolvedType String) (init : ArrayInit) : Build ExprId := do
  let component ← type component
  exprOfType (.alloc (.array component init)) (.array component)

/-- An object allocation, whose type is its class. -/
def newObject (className : String) (args : List ExprId) : Build ExprId := do
  let className ← name className
  exprOfType (.alloc (.object className args)) (.classType className)

/-- A lambda; its target interface, if there is one, becomes its type. -/
def lambda (params : List String) (body : LambdaBody) (target? : Option String)
    : Build ExprId := do
  let params ← params.mapM name
  let id ← expr { kind := .lambda params body }
  match target? with
  | some target =>
    let target ← name target
    typed id (.classType target)
  | none => pure ()
  pure id

-----------------------------------------------------------------------------------------
-- Statements that mention texts
-----------------------------------------------------------------------------------------

def forEach (varType : ResolvedType String) (var : String) (iterable : ExprId) (body : StmtId)
    : Build StmtId := do
  let type ← type varType
  let var ← name var
  stmt { kind := .forEach var type iterable body }

/-- A variable declaration, with the initial values already built. -/
def varDecl (varType : ResolvedType String) (declarators : List (String × Option ExprId))
    : Build StmtId := do
  let type ← type varType
  let declarators ← declarators.mapM fun declarator => do
    let name ← name declarator.1
    pure { name, init? := declarator.2 }
  stmt { kind := .varDecl type declarators }

end Build

end Scratchpad
