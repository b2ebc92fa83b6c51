import Scratchpad.Json
import Scratchpad.Program.Arena

/-! The JSON form of units. Indices and names are plain numbers, a variant is tagged with its
name, and a missing annotation is null.
-/

namespace Scratchpad

/-- The value of an enumeration with a given tag. -/
def ofTag? {α : Type} (all : List α) (tag : α → String) : Json → Option α
  | .string text => all.find? fun value => tag value == text
  | _ => none

-----------------------------------------------------------------------------------------
-- Enumerations
-----------------------------------------------------------------------------------------

def BinaryOp.tag : BinaryOp → String
  | .add => "Add"
  | .sub => "Sub"
  | .mul => "Mul"
  | .div => "Div"
  | .rem => "Rem"
  | .eq => "Eq"
  | .notEq => "NotEq"
  | .lt => "Lt"
  | .ltEq => "LtEq"
  | .gt => "Gt"
  | .gtEq => "GtEq"
  | .and => "And"
  | .or => "Or"
  | .bitAnd => "BitAnd"
  | .bitOr => "BitOr"
  | .bitXor => "BitXor"
  | .shl => "Shl"
  | .shr => "Shr"
  | .ushr => "UShr"

instance : JsonForm BinaryOp where
  toJson op := .string op.tag
  ofJson? := ofTag? BinaryOp.all BinaryOp.tag

def UnaryOp.tag : UnaryOp → String
  | .neg => "Neg"
  | .plus => "Plus"
  | .not => "Not"
  | .bitNot => "BitNot"
  | .preInc => "PreInc"
  | .preDec => "PreDec"
  | .postInc => "PostInc"
  | .postDec => "PostDec"

instance : JsonForm UnaryOp where
  toJson op := .string op.tag
  ofJson? := ofTag? UnaryOp.all UnaryOp.tag

def AssignOp.tag : AssignOp → String
  | .assign => "Assign"
  | .add => "Add"
  | .sub => "Sub"
  | .mul => "Mul"
  | .div => "Div"
  | .rem => "Rem"

instance : JsonForm AssignOp where
  toJson op := .string op.tag
  ofJson? := ofTag? AssignOp.all AssignOp.tag

def PrimitiveType.tag : PrimitiveType → String
  | .boolean => "Boolean"
  | .byte => "Byte"
  | .short => "Short"
  | .char => "Char"
  | .int => "Int"
  | .long => "Long"
  | .float => "Float"
  | .double => "Double"

instance : JsonForm PrimitiveType where
  toJson type := .string type.tag
  ofJson? := ofTag? PrimitiveType.all PrimitiveType.tag

def UnsupportedStmt.tag : UnsupportedStmt → String
  | .assertion => "Assert"
  | .switch => "Switch"
  | .tryCatch => "Try"
  | .throwing => "Throw"
  | .labeled => "Labeled"
  | .continueLoop => "Continue"
  | .classDecl => "ClassDecl"
  | .constructorCall => "ConstructorCall"

instance : JsonForm UnsupportedStmt where
  toJson form := .string form.tag
  ofJson? := ofTag? UnsupportedStmt.all UnsupportedStmt.tag

-----------------------------------------------------------------------------------------
-- Names, indices and spans
-----------------------------------------------------------------------------------------

instance : JsonForm Name where
  toJson name := toJson name.index
  ofJson? json := (ofJson? json).map Name.mk

instance : JsonForm ExprId where
  toJson id := toJson id.index
  ofJson? json := (ofJson? json).map ExprId.mk

instance : JsonForm StmtId where
  toJson id := toJson id.index
  ofJson? json := (ofJson? json).map StmtId.mk

instance : JsonForm Span where
  toJson span := .object [("start", toJson span.start), ("end", toJson span.stop)]
  ofJson? json := do
    let start ← json.read? "start"
    let stop ← json.read? "end"
    pure { start, stop }

-----------------------------------------------------------------------------------------
-- Types and declarations
-----------------------------------------------------------------------------------------

/-- A class or a package is an object with its name. -/
def named (name : Name) : Json := .object [("name", toJson name)]

def named? (json : Json) : Option Name := json.read? "name"

/-- The JSON form of a type. -/
def ResolvedType.encode : ResolvedType Name → Json
  | .void => .string "Void"
  | .null => .string "Null"
  | .primitive type => Json.tagged "Primitive" type
  | .classType name => Json.tagged "Class" (named name)
  | .array component => Json.tagged "Array" component.encode

/-- Reads a type. -/
def ResolvedType.decode? : Json → Option (ResolvedType Name)
  | .string "Void" => some .void
  | .string "Null" => some .null
  | .object [("Primitive", contents)] => (ofJson? contents).map .primitive
  | .object [("Class", contents)] => (named? contents).map .classType
  | .object [("Array", contents)] => (ResolvedType.decode? contents).map .array
  | _ => none

instance : JsonForm (ResolvedType Name) where
  toJson := ResolvedType.encode
  ofJson? := ResolvedType.decode?

instance : JsonForm (MethodDecl Name) where
  toJson decl :=
    .object
      [
        ("declaring", named decl.declaring),
        ("name", toJson decl.name),
        ("params", toJson decl.params),
        ("ret", toJson decl.returns),
        ("is_static", toJson decl.isStatic)
      ]
  ofJson? json := do
    let declaring ← (json.field? "declaring").bind named?
    let name ← json.read? "name"
    let params ← json.read? "params"
    let returns ← json.read? "ret"
    let isStatic ← json.read? "is_static"
    pure { declaring, name, params, returns, isStatic }

instance : JsonForm (ConstructorDecl Name) where
  toJson decl :=
    .object [("declaring", named decl.declaring), ("params", toJson decl.params)]
  ofJson? json := do
    let declaring ← (json.field? "declaring").bind named?
    let params ← json.read? "params"
    pure { declaring, params }

instance : JsonForm (FieldDecl Name) where
  toJson decl :=
    .object
      [
        ("declaring", named decl.declaring),
        ("name", toJson decl.name),
        ("ty", toJson decl.type),
        ("is_static", toJson decl.isStatic)
      ]
  ofJson? json := do
    let declaring ← (json.field? "declaring").bind named?
    let name ← json.read? "name"
    let type ← json.read? "ty"
    let isStatic ← json.read? "is_static"
    pure { declaring, name, type, isStatic }

instance : JsonForm (VariableDecl Name) where
  toJson decl := .object [("name", toJson decl.name), ("ty", toJson decl.type)]
  ofJson? json := do
    let name ← json.read? "name"
    let type ← json.read? "ty"
    pure { name, type }

instance : JsonForm (Declaration Name) where
  toJson
    | .method decl => Json.tagged "Method" decl
    | .constructor decl => Json.tagged "Constructor" decl
    | .field decl => Json.tagged "Field" decl
    | .variable decl => Json.tagged "Variable" decl
    | .classDecl name => Json.tagged "Class" (named name)
    | .package name => Json.tagged "Package" (named name)
  ofJson? json := do
    match ← json.variant? with
    | ("Method", contents) => (ofJson? contents).map .method
    | ("Constructor", contents) => (ofJson? contents).map .constructor
    | ("Field", contents) => (ofJson? contents).map .field
    | ("Variable", contents) => (ofJson? contents).map .variable
    | ("Class", contents) => (named? contents).map .classDecl
    | ("Package", contents) => (named? contents).map .package
    | _ => none

-----------------------------------------------------------------------------------------
-- Expressions
-----------------------------------------------------------------------------------------

instance : JsonForm (Literal Name) where
  toJson
    | .null => .string "Null"
    | .bool value => Json.tagged "Bool" value
    | .int value => Json.tagged "Int" value
    | .long value => Json.tagged "Long" value
    | .float bits => Json.tagged "Float" bits
    | .double bits => Json.tagged "Double" bits
    | .char value => Json.tagged "Char" value
    | .str text => Json.tagged "Str" text
  ofJson? json := do
    match ← json.variant? with
    | ("Null", _) => some .null
    | ("Bool", contents) => (ofJson? contents).map .bool
    | ("Int", contents) => (ofJson? contents).map .int
    | ("Long", contents) => (ofJson? contents).map .long
    | ("Float", contents) => (ofJson? contents).map .float
    | ("Double", contents) => (ofJson? contents).map .double
    | ("Char", contents) => (ofJson? contents).map .char
    | ("Str", contents) => (ofJson? contents).map .str
    | _ => none

instance : JsonForm ArrayInit where
  toJson
    | .elements items => Json.tagged "Elements" items
    | .dimension size => Json.tagged "Dimension" size
  ofJson? json := do
    match ← json.variant? with
    | ("Elements", contents) => (ofJson? contents).map .elements
    | ("Dimension", contents) => (ofJson? contents).map .dimension
    | _ => none

instance : JsonForm Allocation where
  toJson
    | .array component init =>
      Json.tagged "Array" (Json.object [("component", toJson component), ("init", toJson init)])
    | .object className args =>
      Json.tagged "Object" (Json.object [("class", named className), ("args", toJson args)])
  ofJson? json := do
    match ← json.variant? with
    | ("Array", contents) =>
      let component ← contents.read? "component"
      let init ← contents.read? "init"
      pure (.array component init)
    | ("Object", contents) =>
      let className ← (contents.field? "class").bind named?
      let args ← contents.read? "args"
      pure (.object className args)
    | _ => none

instance : JsonForm LambdaBody where
  toJson
    | .expr id => Json.tagged "Expr" id
    | .block id => Json.tagged "Block" id
  ofJson? json := do
    match ← json.variant? with
    | ("Expr", contents) => (ofJson? contents).map .expr
    | ("Block", contents) => (ofJson? contents).map .block
    | _ => none

instance : JsonForm ExprKind where
  toJson
    | .literal value => Json.tagged "Literal" value
    | .ident name => Json.tagged "Ident" name
    | .call name args =>
      Json.tagged "MethodCall" (Json.object [("name", toJson name), ("args", toJson args)])
    | .binary op left right =>
      Json.tagged "Binary"
        (Json.object [("op", toJson op), ("left", toJson left), ("right", toJson right)])
    | .unary op operand =>
      Json.tagged "Unary" (Json.object [("op", toJson op), ("operand", toJson operand)])
    | .ternary cond thenExpr elseExpr =>
      Json.tagged "Ternary"
        (Json.object
          [
            ("cond", toJson cond),
            ("then_expr", toJson thenExpr),
            ("else_expr", toJson elseExpr)
          ])
    | .assign op target value =>
      Json.tagged "Assign"
        (Json.object [("op", toJson op), ("target", toJson target), ("value", toJson value)])
    | .index array index =>
      Json.tagged "Index" (Json.object [("array", toJson array), ("index", toJson index)])
    | .chain segments => Json.tagged "Chain" segments
    | .alloc allocation => Json.tagged "Alloc" allocation
    | .lambda params body =>
      Json.tagged "Lambda" (Json.object [("params", toJson params), ("body", toJson body)])
    | .typeRef => .string "TypeRef"
  ofJson? json := do
    match ← json.variant? with
    | ("Literal", contents) => (ofJson? contents).map .literal
    | ("Ident", contents) => (ofJson? contents).map .ident
    | ("MethodCall", contents) =>
      let name ← contents.read? "name"
      let args ← contents.read? "args"
      pure (.call name args)
    | ("Binary", contents) =>
      let op ← contents.read? "op"
      let left ← contents.read? "left"
      let right ← contents.read? "right"
      pure (.binary op left right)
    | ("Unary", contents) =>
      let op ← contents.read? "op"
      let operand ← contents.read? "operand"
      pure (.unary op operand)
    | ("Ternary", contents) =>
      let cond ← contents.read? "cond"
      let thenExpr ← contents.read? "then_expr"
      let elseExpr ← contents.read? "else_expr"
      pure (.ternary cond thenExpr elseExpr)
    | ("Assign", contents) =>
      let op ← contents.read? "op"
      let target ← contents.read? "target"
      let value ← contents.read? "value"
      pure (.assign op target value)
    | ("Index", contents) =>
      let array ← contents.read? "array"
      let index ← contents.read? "index"
      pure (.index array index)
    | ("Chain", contents) => (ofJson? contents).map .chain
    | ("Alloc", contents) => (ofJson? contents).map .alloc
    | ("Lambda", contents) =>
      let params ← contents.read? "params"
      let body ← contents.read? "body"
      pure (.lambda params body)
    | ("TypeRef", _) => some .typeRef
    | _ => none

instance : JsonForm Expr where
  toJson expr :=
    .object
      [
        ("kind", toJson expr.kind),
        ("span", toJson expr.span),
        ("decl", toJson expr.decl?),
        ("ty", toJson expr.type?)
      ]
  ofJson? json := do
    let kind ← json.read? "kind"
    let span ← json.read? "span"
    let decl? ← json.read? "decl"
    let type? ← json.read? "ty"
    pure { kind, span, decl?, type? }

-----------------------------------------------------------------------------------------
-- Statements and units
-----------------------------------------------------------------------------------------

instance : JsonForm Declarator where
  toJson declarator :=
    .object [("name", toJson declarator.name), ("init", toJson declarator.init?)]
  ofJson? json := do
    let name ← json.read? "name"
    let init? ← json.read? "init"
    pure { name, init? }

instance : JsonForm StmtKind where
  toJson
    | .block body => Json.tagged "Block" body
    | .expr id => Json.tagged "Expr" id
    | .ifElse cond thenBranch elseBranch? =>
      Json.tagged "If"
        (Json.object
          [
            ("cond", toJson cond),
            ("then_branch", toJson thenBranch),
            ("else_branch", toJson elseBranch?)
          ])
    | .whileLoop cond body =>
      Json.tagged "While" (Json.object [("cond", toJson cond), ("body", toJson body)])
    | .doWhile body cond =>
      Json.tagged "DoWhile" (Json.object [("body", toJson body), ("cond", toJson cond)])
    | .forLoop init cond? update body =>
      Json.tagged "For"
        (Json.object
          [
            ("init", toJson init),
            ("cond", toJson cond?),
            ("update", toJson update),
            ("body", toJson body)
          ])
    | .forEach var type iterable body =>
      Json.tagged "ForEach"
        (Json.object
          [
            ("var", toJson var),
            ("ty", toJson type),
            ("iterable", toJson iterable),
            ("body", toJson body)
          ])
    | .varDecl type declarators =>
      Json.tagged "VarDecl"
        (Json.object [("ty", toJson type), ("declarators", toJson declarators)])
    | .returns value? => Json.tagged "Return" value?
    | .breakLoop => .string "Break"
    | .synchronized lock body =>
      Json.tagged "Synchronized" (Json.object [("lock", toJson lock), ("body", toJson body)])
    | .unsupported form => Json.tagged "Unsupported" form
  ofJson? json := do
    match ← json.variant? with
    | ("Block", contents) => (ofJson? contents).map .block
    | ("Expr", contents) => (ofJson? contents).map .expr
    | ("If", contents) =>
      let cond ← contents.read? "cond"
      let thenBranch ← contents.read? "then_branch"
      let elseBranch? ← contents.read? "else_branch"
      pure (.ifElse cond thenBranch elseBranch?)
    | ("While", contents) =>
      let cond ← contents.read? "cond"
      let body ← contents.read? "body"
      pure (.whileLoop cond body)
    | ("DoWhile", contents) =>
      let body ← contents.read? "body"
      let cond ← contents.read? "cond"
      pure (.doWhile body cond)
    | ("For", contents) =>
      let init ← contents.read? "init"
      let cond? ← contents.read? "cond"
      let update ← contents.read? "update"
      let body ← contents.read? "body"
      pure (.forLoop init cond? update body)
    | ("ForEach", contents) =>
      let var ← contents.read? "var"
      let type ← contents.read? "ty"
      let iterable ← contents.read? "iterable"
      let body ← contents.read? "body"
      pure (.forEach var type iterable body)
    | ("VarDecl", contents) =>
      let type ← contents.read? "ty"
      let declarators ← contents.read? "declarators"
      pure (.varDecl type declarators)
    | ("Return", contents) => (ofJson? contents).map .returns
    | ("Break", _) => some .breakLoop
    | ("Synchronized", contents) =>
      let lock ← contents.read? "lock"
      let body ← contents.read? "body"
      pure (.synchronized lock body)
    | ("Unsupported", contents) => (ofJson? contents).map .unsupported
    | _ => none

instance : JsonForm Stmt where
  toJson stmt := .object [("kind", toJson stmt.kind), ("span", toJson stmt.span)]
  ofJson? json := do
    let kind ← json.read? "kind"
    let span ← json.read? "span"
    pure { kind, span }

instance : JsonForm Arena where
  toJson arena :=
    .object [("exprs", toJson arena.exprs.toList), ("stmts", toJson arena.stmts.toList)]
  ofJson? json := do
    let exprs : List Expr ← json.read? "exprs"
    let stmts : List Stmt ← json.read? "stmts"
    pure { exprs := exprs.toArray, stmts := stmts.toArray }

instance : JsonForm SemanticError where
  toJson error := .object [("message", toJson error.message), ("span", toJson error.span)]
  ofJson? json := do
    let message ← json.read? "message"
    let span ← json.read? "span"
    pure { message, span }

instance : JsonForm SourceStatement where
  toJson statement :=
    .object [("root", toJson statement.root), ("errors", toJson statement.errors)]
  ofJson? json := do
    let root ← json.read? "root"
    let errors ← json.read? "errors"
    pure { root, errors }

instance : JsonForm SourceUnit where
  toJson unit :=
    .object [("arena", toJson unit.arena), ("statements", toJson unit.statements)]
  ofJson? json := do
    let arena ← json.read? "arena"
    let statements ← json.read? "statements"
    pure { arena, statements }

end Scratchpad
