import Scratchpad.Eval.Expression
import Scratchpad.Proofs.Eval.Coupling
import Scratchpad.Proofs.Program.Nesting

/-! Evaluating one expression node keeps two runs coupled if the actions that change the state do,
the jobs it starts do, and the lambdas it invokes do.
-/

namespace Scratchpad

/-- The actions that a host offers. -/
inductive Host.Offers {ω : Type} (host : Host ω) : {α : Type} → HostAction ω α → Prop
  | field (ref name) : host.Offers (host.field ref name)
  | getProperty (ref name) : host.Offers (host.getProperty ref name)
  | setProperty (ref name value) : host.Offers (host.setProperty ref name value)
  | iterate (ref) : host.Offers (host.iterate ref)
  | newInstance (name) : host.Offers (host.newInstance name)
  | staticField (className name) : host.Offers (host.staticField className name)
  | invokeMethod (decl target args) : host.Offers (host.invokeMethod decl target args)
  | invokeConstructor (decl args) : host.Offers (host.invokeConstructor decl args)

/-- The operators by which an expression assigns to elements of arrays. -/
def Arena.elementOps (arena : Arena) : ExprKind → List AssignOp
  | .assign op target _ =>
    match (arena.expr? target).map Expr.kind with
    | some (.index _ _) => [op]
    | _ => []
  | _ => []

namespace Coupling

variable {ω α : Type} {c : Coupling ω} {m m' : Machine ω} {again again' : Job → Eval ω Value}
  {arena : Arena} {ids : List NodeId} {stores : AssignOp → Prop}

-----------------------------------------------------------------------------------------
-- What a node relies on
-----------------------------------------------------------------------------------------

/-- The actions by which expressions change the state are coupled. What is stored in an array is
taken together with how it was computed, and only by the given operators.
-/
structure Effects (c : Coupling ω) (m m' : Machine ω) (stores : AssignOp → Prop := fun _ => True)
    : Prop extends c.Observes m m' where
  callHost
    : ∀ {α : Type} {action : HostAction ω α}, m.host.Offers action
      → c.Couples (m.callHost action) (m'.callHost action)
  assign
    : ∀ name value,
        c.Couples (Eval.modifyVars (·.assign name value))
          (Eval.modifyVars (·.assign name value))
  writeElement
    : ∀ op, stores op
      → ∀ ref index operand,
          c.Couples
            (do
              let value ← m.elementValue op ref index operand
              Machine.storeElement ref index value
              pure value)
            (do
              let value ← m'.elementValue op ref index operand
              Machine.storeElement ref index value
              pure value)
  newArray
    : ∀ {again again' : Job → Eval ω Value} {arena : Arena} (component init),
        (∀ id ∈ init.items, c.Couples (ambient again arena id) (ambient again' arena id))
        → c.Couples (m.newArray again arena component init)
            (m'.newArray again' arena component init)

/-- The jobs on the given nodes are coupled. -/
structure Children (c : Coupling ω) (again again' : Job → Eval ω Value) (arena : Arena)
    (ids : List NodeId)
    : Prop where
  eval
    : ∀ {id}, .expr id ∈ ids
      → ∀ receiver, c.Couples (again (.eval arena id receiver)) (again' (.eval arena id receiver))
  exec : ∀ {id}, .stmt id ∈ ids → c.Couples (again (.exec arena id)) (again' (.exec arena id))

/-- What an expression reaches beyond its children is coupled: the parts of a target that is
assigned to, the lambdas of the heap, and the creation of a lambda.
-/
structure Reach (c : Coupling ω) (m m' : Machine ω) (again again' : Job → Eval ω Value)
    (arena : Arena) (ids : List NodeId)
    : Prop where
  target
    : ∀ {id node}, .expr id ∈ ids
      → arena.expr? id = some node
      → c.Children again again' arena node.kind.evaluated
  known : ∀ {id}, .expr id ∈ ids → arena.expr? id = none → ∀ state, c.Allowed state .danglingNode
  invoke
    : ∀ {s t closure}, c.Related s t
      → closure ∈ s.heap.closures
      → ∀ args, c.Couples (m.invoke again closure args) (m'.invoke again' closure args)
  createLambda
    : ∀ params body type?, body.node ∈ ids
      → c.Couples (m.createLambda arena params body type?)
          (m'.createLambda arena params body type?)

/-- Fewer nodes rely on fewer jobs. -/
theorem Children.subset {fewer : List NodeId} (children : c.Children again again' arena ids)
    (included : fewer ⊆ ids)
    : c.Children again again' arena fewer :=
  ⟨fun member => children.eval (included member), fun member => children.exec (included member)⟩

/-- A child without a receiver is coupled. -/
theorem Children.ambient {id : ExprId} (children : c.Children again again' arena ids)
    (member : .expr id ∈ ids)
    : c.Couples (ambient again arena id) (ambient again' arena id) :=
  children.eval member none

/-- Arguments are coupled one after the other. -/
theorem Children.arguments {args : List ExprId}
    (children : c.Children again again' arena (args.map .expr))
    : c.Couples (arguments again arena args) (arguments again' arena args) :=
  .mapM fun _ member => children.ambient (List.mem_map_of_mem member)

/-- A lambda that can be called is one of the heap.
Witness: the interface is looked up at the closure that the reference finds.
-/
theorem callable?_mem {heap : Heap} {method : String} {value : Value} {closure : Closure}
    (found : heap.callable? method value = some closure)
    : closure ∈ heap.closures := by
  cases value with
  | lambda ref =>
      obtain ⟨found, _⟩ := Option.filter_eq_some_iff.mp found
      exact Array.mem_of_getElem? found
  | _ => simp [Heap.callable?] at found

-----------------------------------------------------------------------------------------
-- Reading and storing elements
-----------------------------------------------------------------------------------------

namespace Shares

variable (shares : c.Shares m m')

include shares

/-- An index out of bounds is reported alike, since the lengths agree. -/
theorem outOfBounds (ref : ArrayRef) (index : Int32)
    : c.Couples (Machine.outOfBounds ref index : Eval ω α)
        (Machine.outOfBounds ref index) := by
  refine .read fun s t related => ?_
  rw [shares.heap related]
  exact shares.fail rfl

/-- An element is loaded alike, since the arrays agree. -/
theorem loadElement (ref : ArrayRef) (index : Int32)
    : c.Couples (Machine.loadElement ref index) (Machine.loadElement ref index) := by
  refine .read fun s t related => ?_
  rw [shares.heap related]
  split
  · exact .pure _
  · exact shares.outOfBounds ref index

/-- What an assignment would store is computed alike: from the current element if it is compound,
else by converting to the component.
-/
theorem elementValue (op : AssignOp) (ref : ArrayRef) (index : Int32) (operand : Value)
    : c.Couples (m.elementValue op ref index operand)
        (m'.elementValue op ref index operand) := by
  unfold Machine.elementValue
  split
  · refine (shares.loadElement ref index).bind fun current => ?_
    exact shares.scene.bind fun scene => shares.ofExcept (scene.ordinary_combine _ _ _)
  · refine .read fun s t related => ?_
    rw [shares.heap related]
    split
    · exact shares.coerce _ _
    · exact .pure _

/-- Where any value may be stored, the computed one may be. -/
theorem writeElement
    (store
      : ∀ ref index value,
          c.Couples (Machine.storeElement ref index value)
            (Machine.storeElement ref index value))
    (op : AssignOp) (ref : ArrayRef) (index : Int32) (operand : Value)
    : c.Couples
        (do
          let value ← m.elementValue op ref index operand
          Machine.storeElement ref index value
          pure value)
        (do
          let value ← m'.elementValue op ref index operand
          Machine.storeElement ref index value
          pure value) :=
  (shares.elementValue op ref index operand).bind fun value =>
    (store ref index value).bind fun _ => .pure value

/-- A size is checked alike. -/
theorem arraySize (value : Value) : c.Couples (m.arraySize value) (m'.arraySize value) := by
  refine shares.scene.bind fun scene => ?_
  refine (shares.ofExcept (scene.ordinary_toIndex _)).bind fun size => ?_
  split
  · exact shares.fail rfl
  · exact .pure _

/-- Where any array may be allocated, one with computed elements may be.
Witness: elements are evaluated and converted one by one, or the sizes are checked, and then the
array is allocated.
-/
theorem newArray
    (allocate
      : ∀ object, c.Couples (Machine.allocate object) (Machine.allocate object))
    (component : ResolvedType Name) (init : ArrayInit)
    (items
      : ∀ id ∈ init.items, c.Couples (ambient again arena id) (ambient again' arena id))
    : c.Couples (m.newArray again arena component init)
        (m'.newArray again' arena component init) := by
  unfold Machine.newArray
  rw [shares.names]
  cases init with
  | elements ids =>
      refine (Couples.mapM fun id member => ?_).bind fun values => allocate _
      exact (items id member).bind fun value => shares.coerceToType value component
  | dimension size =>
      refine (items size (by simp [ArrayInit.items])).bind fun value => ?_
      exact (shares.arraySize value).bind fun _ => allocate _

end Shares

namespace Effects

variable (effects : c.Effects m m' stores)

include effects

/-- A call of the host that may throw is coupled; an exception becomes a failure in both runs. -/
theorem invokeHost {action : HostAction ω (Except HostException α)}
    (offered : m.host.Offers action)
    : c.Couples (m.invokeHost action) (m'.invokeHost action) := by
  refine (effects.callHost offered).bind fun answer => ?_
  cases answer with
  | ok value => exact .pure value
  | error exception => exact effects.fail rfl

-----------------------------------------------------------------------------------------
-- Identifiers
-----------------------------------------------------------------------------------------

/-- A declared static field is read alike, through the host. -/
theorem declaredField (name : String) (decl? : Option (Declaration Name))
    : c.Couples (m.declaredField name decl?) (m'.declaredField name decl?) := by
  unfold Machine.declaredField
  split
  · split
    · refine .read fun s t related => ?_
      rw [effects.host, effects.names, effects.world related]
      split
      · exact effects.callHost (.staticField _ _)
      · exact .pure none
    · exact .pure none
  · exact .pure none

/-- A field of a receiver is read alike, through the host or not at all. -/
theorem receiverField (name : String) (target : Value)
    : c.Couples (m.receiverField name target) (m'.receiverField name target) := by
  unfold Machine.receiverField
  rw [effects.host]
  split
  · exact effects.callHost (.field _ _)
  · exact effects.callHost (.staticField _ _)
  · exact .pure none

/-- A field is read alike: the declared one first, then that of the receiver. -/
theorem readField (name : String) (target : Value) (decl? : Option (Declaration Name))
    : c.Couples (m.readField name target decl?) (m'.readField name target decl?) := by
  refine (effects.declaredField name decl?).bind fun field => ?_
  cases field with
  | some value => exact .pure (some value)
  | none => exact effects.receiverField name target

/-- What a declaration stands for is found alike: a class, a package, or a failure. -/
theorem declaredValue (text : String) (target : Value) (explicit : Bool)
    (decl? : Option (Declaration Name))
    : c.Couples (m.declaredValue text target explicit decl?)
        (m'.declaredValue text target explicit decl?) := by
  unfold Machine.declaredValue
  rw [effects.names]
  split
  · exact (effects.resolveClass _).map _
  · exact .pure _
  · split
    · exact effects.fail rfl
    · exact effects.fail rfl

/-- An identifier reads the same in both runs, directly or through the host.
Witness: what can be read without the host looks at the heap, the receiver and one variable.
-/
theorem identifier (name : Name) (decl? : Option (Declaration Name)) (receiver : Option Value)
    : c.Couples (m.identifier name decl? receiver) (m'.identifier name decl? receiver) := by
  refine .read fun s t related => ?_
  have direct
      : directValue? t.heap t.context name receiver
        = directValue? s.heap s.context name receiver := by
    simp only [directValue?, effects.heap related, effects.this related, effects.lookup related]
  rw [direct, effects.names, effects.this related]
  cases directValue? s.heap s.context name receiver with
  | some value => exact .pure value
  | none =>
      refine (effects.readField _ _ decl?).bind fun field => ?_
      cases field with
      | some value => exact .pure value
      | none => exact effects.declaredValue _ _ _ decl?

-----------------------------------------------------------------------------------------
-- Calls
-----------------------------------------------------------------------------------------

/-- A missing method is reported alike. -/
theorem methodNotFound (method : String) (target : Value)
    : c.Couples (m.methodNotFound method target : Eval ω α)
        (m'.methodNotFound method target) :=
  effects.scene.bind fun _ => effects.fail rfl

/-- A property is read alike, or its absence reported. -/
theorem readProperty (ref : ObjectRef) (method property : String)
    : c.Couples (m.readProperty ref method property) (m'.readProperty ref method property) := by
  unfold Machine.readProperty
  rw [effects.host]
  refine (effects.callHost (.getProperty _ _)).bind fun answer => ?_
  cases answer with
  | some value => exact .pure value
  | none => exact effects.methodNotFound _ _

/-- A property is written alike, or its absence reported. -/
theorem writeProperty (ref : ObjectRef) (method property : String) (value : Value)
    : c.Couples (m.writeProperty ref method property value)
        (m'.writeProperty ref method property value) := by
  unfold Machine.writeProperty
  rw [effects.host]
  refine (effects.callHost (.setProperty _ _ _)).bind fun written => ?_
  cases written with
  | true => exact .pure _
  | false => exact effects.methodNotFound _ _

/-- An accessor is called alike, since both runs agree on whether the target has properties. -/
theorem callAccessor (method : String) (target : Value) {args : List ExprId}
    (children : c.Children again again' arena (args.map .expr))
    : c.Couples (m.callAccessor again arena method target args)
        (m'.callAccessor again' arena method target args) := by
  refine .read fun s t related => ?_
  rw [effects.host, effects.world related]
  split
  · split
    · split
      · exact effects.readProperty _ _ _
      · exact (children.ambient (by simp)).bind fun _ => effects.writeProperty _ _ _ _
      · exact effects.methodNotFound _ _
    · exact effects.methodNotFound _ _
  · exact effects.methodNotFound _ _

/-- A declared method is called alike: arguments first, then the host. -/
theorem callDeclared (method : MethodDecl Name) (target : Value) {args : List ExprId}
    (children : c.Children again again' arena (args.map .expr))
    : c.Couples (m.callDeclared again arena method target args)
        (m'.callDeclared again' arena method target args) := by
  unfold Machine.callDeclared
  rw [effects.names, effects.host]
  split
  · exact effects.fail rfl
  · exact children.arguments.bind fun _ => effects.invokeHost (.invokeMethod _ _ _)

/-- A call finds the same lambda in both runs, because they share the heap.
Witness: the lambda is one of the common heap and is called alike; failing that, the declared method
or the accessor is.
-/
theorem callMethod (name : Name) {args : List ExprId} (decl? : Option (Declaration Name))
    (receiver : Option Value) (children : c.Children again again' arena (args.map .expr))
    (reach : c.Reach m m' again again' arena (args.map .expr))
    : c.Couples (m.callMethod again arena name args decl? receiver)
        (m'.callMethod again' arena name args decl? receiver) := by
  refine .read fun s t related => ?_
  rw [effects.names, effects.heap related, effects.this related]
  dsimp only
  cases found
      : s.heap.callable? (m.names.text name) (receiver.getD s.context.this) with
  | some closure =>
      exact children.arguments.bind fun values =>
        reach.invoke related (callable?_mem found) values
  | none =>
      dsimp only
      split
      · exact effects.callDeclared _ _ children
      · split
        · exact effects.fail rfl
        · exact effects.callAccessor _ _ children

-----------------------------------------------------------------------------------------
-- Operators
-----------------------------------------------------------------------------------------

/-- A short-circuit operator is coupled; the first operand decides in both runs whether the second
is evaluated.
-/
theorem shortCircuit (stopAt : Bool) {left right : ExprId}
    (children : c.Children again again' arena [.expr left, .expr right])
    : c.Couples (m.shortCircuit again arena stopAt left right)
        (m'.shortCircuit again' arena stopAt left right) := by
  refine (children.ambient (by simp)).bind fun first => ?_
  refine (effects.requireBool _ _).bind fun first => ?_
  split
  · exact .pure _
  · refine (children.ambient (by simp)).bind fun second => ?_
    exact (effects.requireBool _ _).bind fun _ => .pure _

/-- A binary operator is coupled, by its operands from left to right. -/
theorem binary (op : BinaryOp) {left right : ExprId}
    (children : c.Children again again' arena [.expr left, .expr right])
    : c.Couples (m.binary again arena op left right)
        (m'.binary again' arena op left right) := by
  unfold Machine.binary
  split
  · exact effects.shortCircuit false children
  · exact effects.shortCircuit true children
  · refine (children.ambient (by simp)).bind fun first => ?_
    refine (children.ambient (by simp)).bind fun second => ?_
    exact effects.scene.bind fun scene => effects.ofExcept (scene.ordinary_binary _ _ _)

/-- A step reads and writes one variable, which both runs see alike.
Witness: the value is looked up alike, stepped alike, and assigned in both runs.
-/
theorem stepVariable (op : UnaryOp) (name : Name)
    : c.Couples (m.stepVariable op name) (m'.stepVariable op name) := by
  refine .read fun s t related => ?_
  rw [effects.lookup related, effects.names, effects.sceneOf related]
  split
  · exact effects.fail rfl
  · refine (effects.ofExcept (Scene.ordinary_step _ _ _)).bind fun new => ?_
    exact (effects.assign name new).bind fun _ => .pure _

/-- A unary operator is coupled: a step by its variable, any other by its operand. -/
theorem unary (op : UnaryOp) {operand : ExprId}
    (children : c.Children again again' arena [.expr operand])
    (reach : c.Reach m m' again again' arena [.expr operand])
    : c.Couples (m.unary again arena op operand) (m'.unary again' arena op operand) := by
  unfold Machine.unary
  split
  · split
    · next unknown => exact .throw (reach.known (by simp) unknown)
    · split
      · exact effects.stepVariable _ _
      · exact effects.fail rfl
  · refine (children.ambient (by simp)).bind fun value => ?_
    exact effects.scene.bind fun scene => effects.ofExcept (scene.ordinary_unary _ _)

/-- A conditional is coupled; the condition selects the same branch in both runs. -/
theorem ternary {cond thenExpr elseExpr : ExprId}
    (children
      : c.Children again again' arena [.expr cond, .expr thenExpr, .expr elseExpr])
    : c.Couples (m.ternary again arena cond thenExpr elseExpr)
        (m'.ternary again' arena cond thenExpr elseExpr) := by
  refine (children.ambient (by simp)).bind fun value => ?_
  refine (effects.requireBool _ _).bind fun holds => ?_
  split
  · exact children.ambient (by simp)
  · exact children.ambient (by simp)

-----------------------------------------------------------------------------------------
-- Assignment and indexing
-----------------------------------------------------------------------------------------

/-- What an assignment gives a variable is computed alike. -/
theorem variableValue (op : AssignOp) (name : Name) (type? : Option (ResolvedType Name))
    (operand : Value)
    : c.Couples (m.variableValue op name type? operand)
        (m'.variableValue op name type? operand) := by
  refine .read fun s t related => ?_
  rw [effects.lookup related, effects.names, effects.sceneOf related]
  split
  · split
    · exact effects.ofExcept (Scene.ordinary_combine _ _ _ _)
    · exact effects.fail rfl
  · exact effects.coerceToType _ _
  · exact .pure _

/-- An assignment to a variable is coupled: its value is computed alike and then written. -/
theorem assignVariable (op : AssignOp) (name : Name) (type? : Option (ResolvedType Name))
    (operand : Value)
    : c.Couples (m.assignVariable op name type? operand)
        (m'.assignVariable op name type? operand) := by
  refine (effects.variableValue op name type? operand).bind fun value => ?_
  exact (effects.assign name value).bind fun _ => .pure _

/-- An element is located alike. -/
theorem elementPlace (array index : Value)
    : c.Couples (m.elementPlace array index) (m'.elementPlace array index) := by
  refine effects.scene.bind fun scene => ?_
  refine (effects.ofExcept (scene.ordinary_toArray _)).bind fun ref => ?_
  exact (effects.ofExcept (scene.ordinary_toIndex _)).bind fun _ => .pure _

/-- An assignment to an element is coupled: the array, the index, and then the store. -/
theorem assignElement {op : AssignOp} (stored : stores op) {array index : ExprId}
    (operand : Value) (children : c.Children again again' arena [.expr array, .expr index])
    : c.Couples (m.assignElement again arena op array index operand)
        (m'.assignElement again' arena op array index operand) := by
  refine (children.ambient (by simp)).bind fun array => ?_
  refine (children.ambient (by simp)).bind fun index => ?_
  refine (effects.elementPlace _ _).bind fun place => ?_
  exact effects.writeElement op stored place.1 place.2 operand

/-- An assignment evaluates the value and, of the target, only the parts of an element.
Witness: by the kind of the target: a variable, an element, or nothing that can be assigned to.
-/
theorem assign_coupled (op : AssignOp) {target value : ExprId}
    (children : c.Children again again' arena [.expr target, .expr value])
    (reach : c.Reach m m' again again' arena [.expr target, .expr value])
    (stored : ∀ op' ∈ arena.elementOps (.assign op target value), stores op')
    : c.Couples (m.assign again arena op target value)
        (m'.assign again' arena op target value) := by
  refine (children.ambient (by simp)).bind fun operand => ?_
  split
  · next unknown => exact .throw (reach.known (by simp) unknown)
  · next node found =>
    have parts := reach.target (by simp) found
    split
    · exact effects.assignVariable _ _ _ _
    · next element =>
      rw [element] at parts
      exact effects.assignElement (stored op (by simp [Arena.elementOps, found, element])) _ parts
    · exact effects.fail rfl

/-- An indexing is coupled: the array, the index, and then the load. -/
theorem indexing {array index : ExprId} (receiver : Option Value)
    (children : c.Children again again' arena [.expr array, .expr index])
    : c.Couples (m.indexing again arena array index receiver)
        (m'.indexing again' arena array index receiver) := by
  refine (children.eval (by simp) receiver).bind fun array => ?_
  refine (children.ambient (by simp)).bind fun index => ?_
  refine (effects.elementPlace _ _).bind fun place => ?_
  exact effects.loadElement place.1 place.2

-----------------------------------------------------------------------------------------
-- Allocation and types
-----------------------------------------------------------------------------------------

/-- A new object is made alike, by its constructor or as a plain instance. -/
theorem newObject (className : Name) {args : List ExprId} (decl? : Option (Declaration Name))
    (children : c.Children again again' arena (args.map .expr))
    : c.Couples (m.newObject again arena className args decl?)
        (m'.newObject again' arena className args decl?) := by
  unfold Machine.newObject
  rw [effects.names, effects.host]
  split
  · exact children.arguments.bind fun _ => effects.invokeHost (.invokeConstructor _ _)
  · exact effects.fail rfl
  · exact (effects.resolveClass className).bind fun _ => effects.invokeHost (.newInstance _)

/-- What a type stands for is found alike. -/
theorem typeValue (type? : Option (ResolvedType Name)) (decl? : Option (Declaration Name))
    : c.Couples (m.typeValue type? decl?) (m'.typeValue type? decl?) := by
  unfold Machine.typeValue
  rw [effects.names]
  split
  · exact (effects.resolveClass _).map _
  · exact (effects.resolveClass _).map _
  · exact effects.fail rfl
  · exact effects.fail rfl

end Effects

-----------------------------------------------------------------------------------------
-- Chains and whole nodes
-----------------------------------------------------------------------------------------

/-- The later segments of a chain are coupled, by induction on them.
Witness: each segment is evaluated on the value of the one before it.
-/
theorem Children.chainFrom {segments : List ExprId} (current : Value)
    (children : c.Children again again' arena (segments.map .expr))
    : c.Couples (Machine.chainFrom again arena current segments)
        (Machine.chainFrom again' arena current segments) := by
  induction segments generalizing current with
  | nil => exact .pure current
  | cons segment rest ih =>
      refine (children.eval (by simp) (some current)).bind fun next => ih next ?_
      exact children.subset (List.subset_cons_self _ _)

/-- A chain is coupled: its first segment on the receiver, the others each on the value before. -/
theorem Children.chain {segments : List ExprId} (receiver : Option Value)
    (children : c.Children again again' arena (segments.map .expr))
    : c.Couples (Machine.chain again arena receiver segments)
        (Machine.chain again' arena receiver segments) := by
  cases segments with
  | nil => exact .pure _
  | cons segment rest =>
      refine (children.eval (by simp) receiver).bind fun first => ?_
      exact (children.subset (List.subset_cons_self _ _)).chainFrom first

/-- Evaluating an expression keeps two runs coupled.
Witness: by cases on the kind of the expression, each by the coupling of its operation.
-/
theorem Effects.evalExpr (effects : c.Effects m m' stores) {expr : Expr}
    (receiver : Option Value) (children : c.Children again again' arena expr.kind.evaluated)
    (reach : c.Reach m m' again again' arena expr.kind.children)
    (stored : ∀ op ∈ arena.elementOps expr.kind, stores op)
    : c.Couples (m.evalExpr again arena expr receiver)
        (m'.evalExpr again' arena expr receiver) := by
  obtain ⟨kind, span, decl?, type?⟩ := expr
  cases kind with
  | literal value =>
      simp only [Machine.evalExpr, Machine.literal, effects.names]
      exact .pure _
  | ident name => exact effects.identifier name decl? receiver
  | call name args => exact effects.callMethod name decl? receiver children reach
  | binary op left right => exact effects.binary op children
  | unary op operand => exact effects.unary op children reach
  | ternary cond thenExpr elseExpr => exact effects.ternary children
  | assign op target value => exact effects.assign_coupled op children reach stored
  | index array index => exact effects.indexing receiver children
  | chain segments => exact children.chain receiver
  | alloc allocation =>
      cases allocation with
      | array component init =>
          exact effects.newArray component init fun id member =>
            children.ambient (List.mem_map_of_mem member)
      | object className args => exact effects.newObject className decl? children
  | lambda params body => exact reach.createLambda params body type? (by simp [ExprKind.children])
  | typeRef => exact effects.typeValue type? decl?

end Coupling

end Scratchpad
