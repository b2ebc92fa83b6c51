import Scratchpad.Eval.Lambda
import Scratchpad.Operation
import Scratchpad.Text.Case

/-! Evaluation of one expression node. Every definition here takes the evaluation of other nodes
as the parameter `again`, so none of them is recursive through the program.
-/

namespace Scratchpad

-----------------------------------------------------------------------------------------
-- Identifiers
-----------------------------------------------------------------------------------------

/-- The `length` of an array. -/
def arrayLength? (heap : Heap) (name : Name) : Value → Option Value
  | .array ref =>
    if name = Name.length then some (.int (Numeric.ofCount (heap.array ref).elements.size))
    else none
  | _ => none

/-- What an identifier stands for without asking the host: the receiver itself, the length of an
array, or a local variable. An explicit receiver hides the local variables.
-/
def directValue? (heap : Heap) (context : Context) (name : Name) (receiver : Option Value)
    : Option Value :=
  let target := receiver.getD context.this
  if name = Name.this then some target
  else
    match arrayLength? heap name target with
    | some length => some length
    | none => if receiver.isNone then context.vars.lookup name else none

namespace Machine

variable {ω : Type} (m : Machine ω)

/-- The static field that a declaration names. -/
def declaredField (name : String) (decl? : Option (Declaration Name))
    : Eval ω (Option Value) := do
  match decl? with
  | some (.field field) =>
    if field.isStatic then
      let state ← get
      match m.host.resolveClass state.world (m.names.text field.declaring) with
      | some className => m.callHost (m.host.staticField className name)
      | none => pure none
    else pure none
  | _ => pure none

/-- A field of the receiver. -/
def receiverField (name : String) (target : Value) : Eval ω (Option Value) :=
  match target with
  | .object ref => m.callHost (m.host.field ref name)
  | .classRef className => m.callHost (m.host.staticField className name)
  | _ => pure none

/-- A field, static by declaration before one of the receiver. -/
def readField (name : String) (target : Value) (decl? : Option (Declaration Name))
    : Eval ω (Option Value) := do
  match ← m.declaredField name decl? with
  | some value => pure (some value)
  | none => m.receiverField name target

/-- What an identifier stands for when it is neither known directly nor a field. -/
def declaredValue (text : String) (target : Value) (explicit : Bool)
    (decl? : Option (Declaration Name))
    : Eval ω Value :=
  match decl? with
  | some (.classDecl className) => Value.classRef <$> m.resolveClass className
  | some (.package package) => pure (.package (m.names.text package))
  | _ =>
    if explicit && target.isNull then Eval.fail (.nullReceiver text)
    else Eval.fail (.unresolvedReference text)

/-- The value of an identifier. -/
def identifier (name : Name) (decl? : Option (Declaration Name)) (receiver : Option Value)
    : Eval ω Value := do
  let state ← get
  match directValue? state.heap state.context name receiver with
  | some value => pure value
  | none =>
    let target := receiver.getD state.context.this
    let text := m.names.text name
    match ← m.readField text target decl? with
    | some value => pure value
    | none => m.declaredValue text target receiver.isSome decl?

end Machine

-----------------------------------------------------------------------------------------
-- Calls
-----------------------------------------------------------------------------------------

/-- What is left of a text after a given beginning. -/
def textAfter? (beginning text : String) : Option String :=
  if beginning.toList.isPrefixOf text.toList then
    some (String.ofList (text.toList.drop beginning.length))
  else none

/-- A method that reads or writes a property, with the property's name. -/
inductive Accessor where
  | getter (property : String)
  | setter (property : String)
deriving DecidableEq

namespace Accessor

/-- The accessor that a method name spells: `get`, `is` or `set` and then a name. -/
def ofMethod? (method : String) : Option Accessor :=
  let named? (beginning : String) : Option String :=
    (textAfter? beginning method).filter (!·.isEmpty)
  match named? "get", named? "is", named? "set" with
  | some name, _, _ => some (.getter (decapitalize name))
  | none, some name, _ => some (.getter (decapitalize name))
  | none, none, some name => some (.setter (decapitalize name))
  | none, none, none => none

end Accessor

namespace Machine

variable {ω : Type} (m : Machine ω) (again : Job → Eval ω Value) (arena : Arena)

/-- A method that the receiver does not have. -/
def methodNotFound {α : Type} (method : String) (target : Value) : Eval ω α := do
  let scene ← m.scene
  Eval.fail (.methodNotFound method (scene.typeName target))

def readProperty (ref : ObjectRef) (method property : String) : Eval ω Value := do
  match ← m.callHost (m.host.getProperty ref property) with
  | some value => pure value
  | none => m.methodNotFound method (.object ref)

def writeProperty (ref : ObjectRef) (method property : String) (value : Value)
    : Eval ω Value := do
  match ← m.callHost (m.host.setProperty ref property value) with
  | true => pure .void
  | false => m.methodNotFound method (.object ref)

/-- A call without a declaration, which can only be an accessor of an object with
properties.
-/
def callAccessor (method : String) (target : Value) (args : List ExprId) : Eval ω Value := do
  let state ← get
  match target with
  | .object ref =>
    if m.host.hasProperties state.world ref then
      match Accessor.ofMethod? method, args with
      | some (.getter property), [] => m.readProperty ref method property
      | some (.setter property), [arg] =>
        let value ← ambient again arena arg
        m.writeProperty ref method property value
      | _, _ => m.methodNotFound method target
    else m.methodNotFound method target
  | _ => m.methodNotFound method target

/-- A call that the resolver bound to a method of the host. -/
def callDeclared (method : MethodDecl Name) (target : Value) (args : List ExprId)
    : Eval ω Value := do
  if target.isNull && !method.isStatic then
    Eval.fail (.nullReceiver (m.names.text method.name))
  else
    let values ← arguments again arena args
    m.invokeHost (m.host.invokeMethod (method.map m.names.text) target values)

/-- A call: of a lambda by its method, of a declared method, or of an accessor. -/
def callMethod (name : Name) (args : List ExprId) (decl? : Option (Declaration Name))
    (receiver : Option Value)
    : Eval ω Value := do
  let state ← get
  let target := receiver.getD state.context.this
  let text := m.names.text name
  match state.heap.callable? text target with
  | some closure =>
    let values ← arguments again arena args
    m.invoke again closure values
  | none =>
    match decl? with
    | some (.method method) => m.callDeclared again arena method target args
    | _ =>
      if target.isNull then Eval.fail (.nullReceiver text)
      else m.callAccessor again arena text target args

-----------------------------------------------------------------------------------------
-- Operators
-----------------------------------------------------------------------------------------

/-- A conjunction or disjunction, whose right side runs only if the left one leaves the result
open.
-/
def shortCircuit (stopAt : Bool) (left right : ExprId) : Eval ω Value := do
  let first ← m.requireBool (← ambient again arena left) "operand"
  if first = stopAt then pure (.bool first)
  else
    let second ← m.requireBool (← ambient again arena right) "operand"
    pure (.bool second)

def binary (op : BinaryOp) (left right : ExprId) : Eval ω Value :=
  match op with
  | .and => m.shortCircuit again arena false left right
  | .or => m.shortCircuit again arena true left right
  | _ => do
    let first ← ambient again arena left
    let second ← ambient again arena right
    let scene ← m.scene
    Eval.ofExcept (scene.binary op first second)

/-- The variable that an assignment or a step writes to; `this` is none. -/
def assignable? (expr : Expr) : Option Name :=
  match expr.kind with
  | .ident name => if name = Name.this then none else some name
  | _ => none

/-- Steps a variable and yields its old or its new value. -/
def stepVariable (op : UnaryOp) (name : Name) : Eval ω Value := do
  let state ← get
  match state.context.vars.lookup name with
  | none => Eval.fail (.unresolvedReference (m.names.text name))
  | some old =>
    let new ← Eval.ofExcept ((m.sceneOf state).step (op == .preInc || op == .postInc) old)
    Eval.modifyVars (·.assign name new)
    pure (if op == .postInc || op == .postDec then old else new)

def unary (op : UnaryOp) (operand : ExprId) : Eval ω Value :=
  if op.isStep then
    match arena.expr? operand with
    | none => throw .danglingNode
    | some expr =>
      match assignable? expr with
      | some name => m.stepVariable op name
      | none => Eval.fail (.invalidOperator op.symbol "a non-variable operand")
  else do
    let value ← ambient again arena operand
    let scene ← m.scene
    Eval.ofExcept (scene.unary op value)

def ternary (cond thenExpr elseExpr : ExprId) : Eval ω Value := do
  if ← m.requireBool (← ambient again arena cond) "condition" then ambient again arena thenExpr
  else ambient again arena elseExpr

-----------------------------------------------------------------------------------------
-- Assignment and indexing
-----------------------------------------------------------------------------------------

/-- The value that an assignment stores in a variable. A plain one converts to the type of the
target, if that is known.
-/
def variableValue (op : AssignOp) (name : Name) (type? : Option (ResolvedType Name))
    (operand : Value)
    : Eval ω Value := do
  let state ← get
  match op.binary?, type? with
  | some op, _ =>
    match state.context.vars.lookup name with
    | some current => Eval.ofExcept ((m.sceneOf state).combine op current operand)
    | none => Eval.fail (.unresolvedReference (m.names.text name))
  | none, some type => m.coerceToType operand type
  | none, none => pure operand

def assignVariable (op : AssignOp) (name : Name) (type? : Option (ResolvedType Name))
    (operand : Value)
    : Eval ω Value := do
  let value ← m.variableValue op name type? operand
  Eval.modifyVars (·.assign name value)
  pure value

/-- An array and an index into it, from their values. -/
def elementPlace (array index : Value) : Eval ω (ArrayRef × Int32) := do
  let scene ← m.scene
  let ref ← Eval.ofExcept (scene.toArray array)
  let position ← Eval.ofExcept (scene.toIndex index)
  pure (ref, position)

/-- An index outside an array. -/
def outOfBounds {α : Type} (ref : ArrayRef) (index : Int32) : Eval ω α := do
  let state ← get
  Eval.fail (.indexOutOfBounds index (state.heap.array ref).elements.size)

def loadElement (ref : ArrayRef) (index : Int32) : Eval ω Value := do
  let state ← get
  match (state.heap.array ref).get? index with
  | some value => pure value
  | none => outOfBounds ref index

def storeElement (ref : ArrayRef) (index : Int32) (value : Value) : Eval ω Unit := do
  let state ← get
  match state.heap.store? ref index value with
  | some heap => set { state with heap }
  | none => outOfBounds ref index

/-- The value that an assignment stores in an element. A plain one converts to the component of
the array.
-/
def elementValue (op : AssignOp) (ref : ArrayRef) (index : Int32) (operand : Value)
    : Eval ω Value := do
  match op.binary? with
  | some op =>
    let current ← loadElement ref index
    let scene ← m.scene
    Eval.ofExcept (scene.combine op current operand)
  | none =>
    let state ← get
    match (state.heap.array ref).component.primitive? with
    | some type => m.coerce operand type
    | none => pure operand

def assignElement (op : AssignOp) (array index : ExprId) (operand : Value) : Eval ω Value := do
  let array ← ambient again arena array
  let index ← ambient again arena index
  let (ref, index) ← m.elementPlace array index
  let value ← m.elementValue op ref index operand
  storeElement ref index value
  pure value

/-- An assignment: the operand first, then the parts of the target. -/
def assign (op : AssignOp) (target value : ExprId) : Eval ω Value := do
  let operand ← ambient again arena value
  match arena.expr? target with
  | none => throw .danglingNode
  | some expr =>
    match assignable? expr, expr.kind with
    | some name, _ => m.assignVariable op name expr.type? operand
    | none, .index array index => m.assignElement again arena op array index operand
    | none, _ => Eval.fail (.notImplemented "assignment to this target")

/-- An element; the array is looked for on the receiver, the index is not. -/
def indexing (array index : ExprId) (receiver : Option Value) : Eval ω Value := do
  let array ← again (.eval arena array receiver)
  let index ← ambient again arena index
  let (ref, index) ← m.elementPlace array index
  loadElement ref index

-----------------------------------------------------------------------------------------
-- Chains
-----------------------------------------------------------------------------------------

/-- The later segments of a chain, each on the value before it. -/
def chainFrom (current : Value) : List ExprId → Eval ω Value
  | [] => pure current
  | segment :: rest => do
    let next ← again (.eval arena segment (some current))
    chainFrom next rest

/-- A chain; its first segment is on the receiver of the chain itself. -/
def chain (receiver : Option Value) : List ExprId → Eval ω Value
  | [] => pure .void
  | segment :: rest => do
    let first ← again (.eval arena segment receiver)
    chainFrom again arena first rest

-----------------------------------------------------------------------------------------
-- Allocation and types
-----------------------------------------------------------------------------------------

/-- Adds an array to the heap. -/
def allocate (object : ArrayObject) : Eval ω Value := do
  let state ← get
  let (ref, heap) := state.heap.addArray object
  set { state with heap }
  pure (.array ref)

/-- The number of elements of a sized array. -/
def arraySize (value : Value) : Eval ω Nat := do
  let scene ← m.scene
  let size ← Eval.ofExcept (scene.toIndex value)
  if size < 0 then Eval.fail (.negativeArraySize size) else pure size.toNatClampNeg

def newArray (component : ResolvedType Name) (init : ArrayInit) : Eval ω Value := do
  let type := Component.ofType (component.map m.names.text)
  match init with
  | .elements items =>
    let values ← items.mapM fun item => do
      let value ← ambient again arena item
      m.coerceToType value component
    allocate { component := type, elements := values.toArray }
  | .dimension size =>
    let value ← ambient again arena size
    let length ← m.arraySize value
    allocate (.ofLength type length)

/-- A new object: by the declared constructor, or without arguments by its class. -/
def newObject (className : Name) (args : List ExprId) (decl? : Option (Declaration Name))
    : Eval ω Value := do
  match decl?, args with
  | some (.constructor constructor), _ =>
    let values ← arguments again arena args
    m.invokeHost (m.host.invokeConstructor (constructor.map m.names.text) values)
  | _, _ :: _ => Eval.fail (.unresolvedReference ("constructor " ++ m.names.text className))
  | _, [] =>
    let name ← m.resolveClass className
    m.invokeHost (m.host.newInstance name)

/-- A type used as a value, which must be a class. -/
def typeValue (type? : Option (ResolvedType Name)) (decl? : Option (Declaration Name))
    : Eval ω Value :=
  match type?, decl? with
  | some (.classType name), _ => Value.classRef <$> m.resolveClass name
  | _, some (.classDecl name) => Value.classRef <$> m.resolveClass name
  | some type, _ =>
    Eval.fail (.notImplemented ("class literal for " ++ (type.map m.names.text).display))
  | none, _ => Eval.fail (.unresolvedReference "type")

def literal : Literal Name → Value
  | .null => .null
  | .bool value => .bool value
  | .int value => .int value
  | .long value => .long value
  | .float bits => .float (Float32.ofBits bits)
  | .double bits => .double (Float.ofBits bits)
  | .char value => .char value
  | .str text => .str (m.names.text text)

/-- Evaluates one expression node on a receiver. -/
def evalExpr (expr : Expr) (receiver : Option Value) : Eval ω Value :=
  match expr.kind with
  | .literal value => pure (m.literal value)
  | .ident name => m.identifier name expr.decl? receiver
  | .call name args => m.callMethod again arena name args expr.decl? receiver
  | .binary op left right => m.binary again arena op left right
  | .unary op operand => m.unary again arena op operand
  | .ternary cond thenExpr elseExpr => m.ternary again arena cond thenExpr elseExpr
  | .assign op target value => m.assign again arena op target value
  | .index array index => m.indexing again arena array index receiver
  | .chain segments => chain again arena receiver segments
  | .alloc (.array component init) => m.newArray again arena component init
  | .alloc (.object className args) => m.newObject again arena className args expr.decl?
  | .lambda params body => m.createLambda arena params body expr.type?
  | .typeRef => m.typeValue expr.type? expr.decl?

end Machine

end Scratchpad
