import Scratchpad.Proofs.Eval.Simulation

/-! Like expressions evaluate alike: each form of expression corresponds to itself as soon as the
jobs it starts do.
-/

namespace Scratchpad

/-- Types that read alike are both classes, of one text, or both none.
Witness: by the forms of both types; reading names changes no form.
-/
theorem classes_or_none {type type' : ResolvedType Name} {read read' : Name → String}
    (same : type'.map read' = type.map read)
    : (∃ name name', type = .classType name ∧ type' = .classType name' ∧ read' name' = read name)
      ∨ type.class? = none ∧ type'.class? = none := by
  cases type with
  | classType name =>
      cases type' with
      | classType name' => exact .inl ⟨name, name', rfl, rfl, ResolvedType.classType.inj same⟩
      | _ => cases same
  | _ =>
      cases type' with
      | classType name' => cases same
      | _ => exact .inr ⟨rfl, rfl⟩

namespace Machine

variable {ω : Type} {m : Machine ω} {type : ResolvedType Name}

/-- What is no class is refused as the target of a lambda, under the text of its type. -/
theorem lambdaTarget_of_class?_eq_none (other : type.class? = none)
    : m.lambdaTarget (some type)
      = .error (.notImplemented ("lambda targeting " ++ (type.map m.names.text).display)) := by
  cases type with
  | classType name => cases other
  | _ => rfl

/-- What is no class has a class literal only by its declaration. -/
theorem typeValue_of_class?_eq_none {decl? : Option (Declaration Name)}
    (other : type.class? = none)
    : m.typeValue (some type) decl?
      = match decl? with
        | some (.classDecl name) => Value.classRef <$> m.resolveClass name
        | _ =>
          Eval.fail
            (.notImplemented ("class literal for " ++ (type.map m.names.text).display)) := by
  cases type with
  | classType name => cases other
  | _ =>
      cases decl? with
      | none => rfl
      | some decl => cases decl <;> rfl

end Machine

namespace Correspondence

variable {ω ω' α : Type} {c : Correspondence ω ω'} {m : Machine ω} {m' : Machine ω'}
  {again : Job → Eval ω Value} {again' : Job → Eval ω' Value} {arena arena' : Arena}
  {name name' : Name} {decl? decl?' : Option (Declaration Name)}
  {type? type?' : Option (ResolvedType Name)}

/-- Like jobs simulate one another. -/
def Inside (c : Correspondence ω ω') (again : Job → Eval ω Value) (again' : Job → Eval ω' Value)
    : Prop :=
  ∀ {job job'}, c.Jobs job job' → c.Simulates (again job) (again' job')

/-- An expression without a receiver ends alike in alike arenas. -/
theorem Inside.ambient (inside : c.Inside again again') (alike : c.Arenas arena arena')
    (id : ExprId)
    : c.Simulates (ambient again arena id) (ambient again' arena' id) :=
  inside (.eval alike)

/-- Arguments end alike, one after the other. -/
theorem Inside.arguments (inside : c.Inside again again') (alike : c.Arenas arena arena')
    (ids : List ExprId)
    : c.Simulates (arguments again arena ids) (arguments again' arena' ids) :=
  .mapM fun id _ => inside.ambient alike id

-----------------------------------------------------------------------------------------
-- Changes of the state
-----------------------------------------------------------------------------------------

/-- Alike variables keep states related. -/
theorem Related.withVars {s : State ω} {t : State ω'} (related : c.Related s t)
    {vars vars' : Variables} (alike : c.Vars vars vars')
    : c.Related (s.withVars vars) (t.withVars vars') := by
  obtain ⟨⟨⟨this, _, pending, cancelled⟩, heap, printout⟩, world⟩ := related
  exact ⟨⟨⟨this, alike, pending, cancelled⟩, heap, printout⟩, world⟩

/-- Alike heaps keep states related. -/
theorem Related.withHeap {s : State ω} {t : State ω'} (related : c.Related s t)
    {heap heap' : Heap} (alike : c.Heaps heap heap')
    : c.Related { s with heap } { t with heap := heap' } :=
  ⟨⟨related.context, alike, related.printout⟩, related.world⟩

/-- What can be read without the host is read alike.
Witness: the length of an array is asked for under the reserved name, and variables are looked up
alike.
-/
theorem Related.directValue? {s : State ω} {t : State ω'} (related : c.Related s t)
    (faithful : c.Faithful) (same : c.Names name name') (receiver : Option Value)
    : directValue? t.heap t.context name' receiver
      = directValue? s.heap s.context name receiver := by
  have length (target : Value)
      : arrayLength? t.heap name' target = arrayLength? s.heap name target := by
    cases target with
    | array ref =>
        simp only [arrayLength?, faithful.eq_iff same faithful.length, related.heap.array]
    | _ => rfl
  simp only [Scratchpad.directValue?, faithful.eq_iff same faithful.this, related.context.this,
    length, faithful.lookup related.context.vars same]

/-- An array is allocated alike, at the same reference. -/
theorem Simulates.allocate (object : ArrayObject)
    : c.Simulates (Machine.allocate object : Eval ω Value) (Machine.allocate object) := by
  refine .read fun s t related => ?_
  intro _ _ _
  have ref : (t.heap.addArray object).1 = (s.heap.addArray object).1 := by
    simp only [Heap.addArray, related.heap.arrays]
  have arrays : (t.heap.addArray object).2.arrays = (s.heap.addArray object).2.arrays := by
    simp only [Heap.addArray, related.heap.arrays]
  exact .value (congrArg Value.array ref)
    (related.withHeap (related.heap.of_arrays arrays rfl rfl))

/-- A frame is left alike however the body ended.
Witness: it is done by popping alike variables and restoring the same receiver.
-/
theorem Simulates.leaving {first : Eval ω α} {second : Eval ω' α} (body : c.Simulates first second)
    (this : Value)
    : c.Simulates (first.andThen (Machine.leave this)) (second.andThen (Machine.leave this)) := by
  have left {s : State ω} {t : State ω'} (states : c.States s t)
      : c.States (Machine.leave this s) (Machine.leave this t) :=
    ⟨⟨rfl, states.context.vars.pop, rfl, states.context.cancelled⟩, states.heap, states.printout⟩
  intro s t related
  have outcome := body s t related
  rw [Eval.run_andThen, Eval.run_andThen]
  generalize first.run s = ended at outcome
  generalize second.run t = ended' at outcome
  cases outcome with
  | value same related => exact .value same ⟨left related.toStates, related.world⟩
  | stop stops states => exact .stop stops (left states)

namespace Machines

variable (machines : c.Machines m m')

include machines

/-- An assignment to alike names ends alike. -/
theorem assignVars (same : c.Names name name') (value : Value)
    : c.Simulates (Eval.modifyVars (·.assign name value) : Eval ω Unit)
        (Eval.modifyVars (·.assign name' value)) :=
  .change (fun _ => rfl) (fun _ => rfl) fun _ _ related =>
    related.withVars (machines.faithful.assign related.context.vars same value)

/-- A definition of alike names ends alike. -/
theorem defineVars (same : c.Names name name') (value : Value)
    : c.Simulates (Eval.modifyVars (·.define name value) : Eval ω Unit)
        (Eval.modifyVars (·.define name' value)) :=
  .change (fun _ => rfl) (fun _ => rfl) fun _ _ related =>
    related.withVars (machines.faithful.define related.context.vars same value)

-----------------------------------------------------------------------------------------
-- Identifiers
-----------------------------------------------------------------------------------------

/-- A declared static field is read alike, through the host. -/
theorem declaredField (text : String) (decls : Option.Rel c.Decls decl? decl?')
    : c.Simulates (m.declaredField text decl?) (m'.declaredField text decl?') := by
  cases decls with
  | none => exact .pure rfl
  | some declared =>
      cases machines.decl declared with
      | field declaring isStatic =>
          simp only [Machine.declaredField, isStatic]
          split
          · refine .read fun s t related => ?_
            rw [machines.host.resolveClass related.world, declaring]
            split
            · exact machines.callHost (machines.host.staticField _ _)
            · exact .pure rfl
          · exact .pure rfl
      | _ => exact .pure rfl

/-- A field of a receiver is read alike, through the host or not at all. -/
theorem receiverField (text : String) (target : Value)
    : c.Simulates (m.receiverField text target) (m'.receiverField text target) := by
  unfold Machine.receiverField
  split
  · exact machines.callHost (machines.host.field _ _)
  · exact machines.callHost (machines.host.staticField _ _)
  · exact .pure rfl

/-- A field is read alike: the declared one first, then that of the receiver. -/
theorem readField (text : String) (target : Value) (decls : Option.Rel c.Decls decl? decl?')
    : c.Simulates (m.readField text target decl?) (m'.readField text target decl?') := by
  refine (machines.declaredField text decls).bind fun field => ?_
  cases field with
  | some value => exact .pure rfl
  | none => exact machines.receiverField text target

/-- What corresponding declarations stand for is found alike: a class, a package, or a failure. -/
theorem declaredValue (text : String) (target : Value) (explicit : Bool)
    (decls : Option.Rel c.Decls decl? decl?')
    : c.Simulates (m.declaredValue text target explicit decl?)
        (m'.declaredValue text target explicit decl?') := by
  have unresolved
      : c.Simulates
          (if explicit && target.isNull then Eval.fail (.nullReceiver text)
            else Eval.fail (.unresolvedReference text) : Eval ω Value)
          (if explicit && target.isNull then Eval.fail (.nullReceiver text)
            else Eval.fail (.unresolvedReference text)) := by
    split
    · exact machines.fail _
    · exact machines.fail _
  cases decls with
  | none => exact unresolved
  | some declared =>
      cases machines.decl declared with
      | classDecl same => exact (machines.resolveClass same).map _
      | package same =>
          simp only [Machine.declaredValue, same]
          exact .pure rfl
      | _ => exact unresolved

/-- Alike identifiers are read alike, directly or through the host. -/
theorem identifier (same : c.Names name name') (decls : Option.Rel c.Decls decl? decl?')
    (receiver : Option Value)
    : c.Simulates (m.identifier name decl? receiver) (m'.identifier name' decl?' receiver) := by
  refine .read fun s t related => ?_
  rw [related.directValue? machines.faithful same, machines.text same, related.context.this]
  split
  · exact .pure rfl
  · refine (machines.readField _ _ decls).bind fun field => ?_
    cases field with
    | some value => exact .pure rfl
    | none => exact machines.declaredValue _ _ _ decls

-----------------------------------------------------------------------------------------
-- Lambdas
-----------------------------------------------------------------------------------------

/-- Arguments are bound to like parameters one after the other.
Witness: by induction on the parameters; each argument is converted alike and bound under alike
names.
-/
theorem bindArguments {scene scene' : Scene} (alike : scene.Alike scene')
    (primitive? : Option PrimitiveType) {frame frame' : Frame} (frames : c.Frames frame frame')
    {params params' : List Name} (same : List.Forall₂ c.Names params params') (args : List Value)
    : c.SimulatesBy c.Frames
        (Eval.ofExcept (Closure.bindArguments scene primitive? frame (params.zip args)))
        (Eval.ofExcept (Closure.bindArguments scene' primitive? frame' (params'.zip args))) := by
  induction same generalizing frame frame' args with
  | nil => exact .pure frames
  | cons named _ ih =>
      cases args with
      | nil => exact .pure frames
      | cons value rest =>
          have bound (value : Value) := ih (machines.faithful.insert frames named value) rest
          cases primitive? with
          | none => exact bound value
          | some type =>
              simp only [List.zip_cons_cons, Closure.bindArguments, alike.coerce]
              cases scene.coerce value type with
              | ok converted => exact bound converted
              | error cause => exact machines.fail cause

/-- A frame is entered alike, or refused under the same limit. -/
theorem enter {frame frame' : Frame} (frames : c.Frames frame frame') (this : Value)
    : c.Simulates (Machine.enter frame this : Eval ω Unit) (Machine.enter frame' this) := by
  refine .read fun s t related => ?_
  have pushed := related.context.vars.push? frames
  rw [related.context.vars.limit]
  generalize s.context.vars.push? frame = vars? at pushed ⊢
  generalize t.context.vars.push? frame' = vars?' at pushed ⊢
  cases pushed with
  | none => exact machines.fail _
  | some vars =>
      refine Simulates.change (fun _ => rfl) (fun _ => rfl) fun s t related => ?_
      exact ⟨⟨⟨rfl, vars, related.context.breakPending, related.context.cancelled⟩, related.heap,
        related.printout⟩, related.world⟩

/-- Alike closures are invoked alike.
Witness: arguments are bound alike, the body runs in alike frames, and the result is converted
alike.
-/
theorem invoke (inside : c.Inside again again') {closure closure' : Closure}
    (alike : c.Closures closure closure') (args : List Value)
    : c.Simulates (m.invoke again closure args) (m'.invoke again' closure' args) := by
  unfold Machine.invoke
  rw [alike.params.length_eq, alike.this, alike.target]
  split
  · refine .read fun s t related => ?_
    rw [related.context.this]
    simp only [Closure.frame, alike.shape]
    refine (machines.bindArguments (machines.alike related) _ alike.captured alike.params args).bind
      fun frame frame' frames => ?_
    refine (machines.enter frames closure.this).bind fun _ => ?_
    refine (Simulates.leaving (inside alike.job) _).bind fun value => ?_
    simp only [Machine.invocationResult, alike.shape]
    split
    · exact machines.coerce _ _
    · exact .pure rfl
  · exact machines.fail _

/-- Corresponding types are the same target of a lambda, or refused with the same text. -/
theorem lambdaTarget (types : Option.Rel c.Types type? type?')
    : m'.lambdaTarget type?' = m.lambdaTarget type? := by
  cases types with
  | none => rfl
  | @some type type' same =>
      have read := machines.type same
      rcases classes_or_none read with ⟨name, name', rfl, rfl, named⟩ | ⟨other, other'⟩
      · exact congrArg Except.ok named
      · rw [Machine.lambdaTarget_of_class?_eq_none other,
          Machine.lambdaTarget_of_class?_eq_none other', read]

/-- Lambdas are made alike.
Witness: target and shape are the same, the frames that they capture are alike, and so are the
closures.
-/
theorem createLambda (alike : c.Arenas arena arena') {params params' : List Name}
    (same : List.Forall₂ c.Names params params') (body : LambdaBody)
    (types : Option.Rel c.Types type? type?')
    : c.Simulates (m.createLambda arena params body type?)
        (m'.createLambda arena' params' body type?') := by
  refine (machines.ofExcept (machines.lambdaTarget types)).bind fun target => ?_
  have shapes : Machine.lambdaShape target params' = Machine.lambdaShape target params := by
    simp only [Machine.lambdaShape, same.length_eq]
  refine (machines.ofExcept shapes).bind fun shape => ?_
  refine .read fun s t related => ?_
  have closures
      : c.Closures
          {
            params, body, arena, shape, target
            captured := s.context.vars.capture
            this := s.context.this
          }
          {
            params := params', body, arena := arena', shape, target
            captured := t.context.vars.capture
            this := t.context.this
          } :=
    ⟨same, rfl, alike, related.context.vars.active, related.context.this, rfl, rfl⟩
  obtain ⟨ref, heaps⟩ := related.heap.addClosure closures
  intro _ _ _
  exact .value (congrArg Value.lambda ref) (related.withHeap heaps)

-----------------------------------------------------------------------------------------
-- Calls
-----------------------------------------------------------------------------------------

/-- A missing method is reported alike. -/
theorem methodNotFound (method : String) (target : Value)
    : c.Simulates (m.methodNotFound method target : Eval ω α)
        (m'.methodNotFound method target) := by
  refine machines.scene.bind fun scene scene' alike => ?_
  rw [alike.typeName]
  exact machines.fail _

/-- A property is read alike, or its absence reported. -/
theorem readProperty (ref : ObjectRef) (method property : String)
    : c.Simulates (m.readProperty ref method property)
        (m'.readProperty ref method property) := by
  refine (machines.callHost (machines.host.getProperty ref property)).bind fun answer => ?_
  cases answer with
  | some value => exact .pure rfl
  | none => exact machines.methodNotFound _ _

/-- A property is written alike, or its absence reported. -/
theorem writeProperty (ref : ObjectRef) (method property : String) (value : Value)
    : c.Simulates (m.writeProperty ref method property value)
        (m'.writeProperty ref method property value) := by
  refine (machines.callHost (machines.host.setProperty ref property value)).bind fun written => ?_
  cases written with
  | true => exact .pure rfl
  | false => exact machines.methodNotFound _ _

/-- An accessor is called alike, since corresponding worlds agree on which objects have properties.
-/
theorem callAccessor (inside : c.Inside again again') (alike : c.Arenas arena arena')
    (method : String) (target : Value) (args : List ExprId)
    : c.Simulates (m.callAccessor again arena method target args)
        (m'.callAccessor again' arena' method target args) := by
  refine .read fun s t related => ?_
  rw [machines.host.hasProperties related.world]
  split
  · split
    · split
      · exact machines.readProperty _ _ _
      · exact (inside.ambient alike _).bind fun _ => machines.writeProperty _ _ _ _
      · exact machines.methodNotFound _ _
    · exact machines.methodNotFound _ _
  · exact machines.methodNotFound _ _

/-- A declared method is called alike, since the host is told the same declaration. -/
theorem callDeclared (inside : c.Inside again again') (alike : c.Arenas arena arena')
    {method method' : MethodDecl Name}
    (same : method'.map m'.names.text = method.map m.names.text) (target : Value)
    (args : List ExprId)
    : c.Simulates (m.callDeclared again arena method target args)
        (m'.callDeclared again' arena' method' target args) := by
  have name : m'.names.text method'.name = m.names.text method.name :=
    congrArg MethodDecl.name same
  have isStatic : method'.isStatic = method.isStatic :=
    congrArg (fun method : MethodDecl String => method.isStatic) same
  simp only [Machine.callDeclared, name, isStatic, same]
  split
  · exact machines.fail _
  · exact (inside.arguments alike args).bind fun _ =>
      machines.invokeHost (machines.host.invokeMethod _ _ _)

/-- A method is found and called alike.
Witness: a lambda by the text of the name in alike heaps, a declared method by its declaration, and
an accessor by the text.
-/
theorem callMethod (inside : c.Inside again again') (alike : c.Arenas arena arena')
    (same : c.Names name name') (args : List ExprId) (decls : Option.Rel c.Decls decl? decl?')
    (receiver : Option Value)
    : c.Simulates (m.callMethod again arena name args decl? receiver)
        (m'.callMethod again' arena' name' args decl?' receiver) := by
  refine .read fun s t related => ?_
  rw [machines.text same, related.context.this]
  dsimp only
  have callable :=
    related.heap.callable? (m.names.text name) (receiver.getD s.context.this)
  generalize s.heap.callable? _ _ = closure? at callable ⊢
  generalize t.heap.callable? _ _ = closure?' at callable ⊢
  cases callable with
  | some closures =>
      exact (inside.arguments alike args).bind fun values => machines.invoke inside closures values
  | none =>
      have undeclared (target : Value)
          : c.Simulates
              (if target.isNull then Eval.fail (.nullReceiver (m.names.text name))
                else m.callAccessor again arena (m.names.text name) target args)
              (if target.isNull then Eval.fail (.nullReceiver (m.names.text name))
                else m'.callAccessor again' arena' (m.names.text name) target args) := by
        split
        · exact machines.fail _
        · exact machines.callAccessor inside alike _ _ _
      cases decls with
      | none => exact undeclared _
      | some declared =>
          cases machines.decl declared with
          | method same => exact machines.callDeclared inside alike same _ _
          | _ => exact undeclared _

-----------------------------------------------------------------------------------------
-- Operators
-----------------------------------------------------------------------------------------

/-- A short-circuit operator ends alike; the first operand decides for both whether the second is
evaluated.
-/
theorem shortCircuit (inside : c.Inside again again') (alike : c.Arenas arena arena')
    (stopAt : Bool) (left right : ExprId)
    : c.Simulates (m.shortCircuit again arena stopAt left right)
        (m'.shortCircuit again' arena' stopAt left right) := by
  refine (inside.ambient alike left).bind fun first => ?_
  refine (machines.requireBool first _).bind fun first => ?_
  split
  · exact .pure rfl
  · refine (inside.ambient alike right).bind fun second => ?_
    exact (machines.requireBool second _).bind fun _ => .pure rfl

/-- A binary operator ends alike, by its operands from left to right. -/
theorem binary (inside : c.Inside again again') (alike : c.Arenas arena arena') (op : BinaryOp)
    (left right : ExprId)
    : c.Simulates (m.binary again arena op left right)
        (m'.binary again' arena' op left right) := by
  unfold Machine.binary
  split
  · exact machines.shortCircuit inside alike false left right
  · exact machines.shortCircuit inside alike true left right
  · refine (inside.ambient alike left).bind fun first => ?_
    refine (inside.ambient alike right).bind fun second => ?_
    exact machines.scene.bind fun _ _ scenes => machines.ofExcept (scenes.binary op first second)

/-- A name is written to in both programs, or neither has one there.
Witness: by the forms of both expressions, which are the same.
-/
theorem assignable? {expr expr' : Expr} (alike : c.Exprs expr expr')
    : Option.Rel c.Names (Machine.assignable? expr) (Machine.assignable? expr') := by
  obtain ⟨kind, span, decl?, type?⟩ := expr
  obtain ⟨kind', span', decl?', type?'⟩ := expr'
  cases alike.kind with
  | ident same =>
      simp only [Machine.assignable?, machines.faithful.eq_iff same machines.faithful.this]
      split
      · exact .none
      · exact .some same
  | _ => exact .none

/-- A step of alike variables ends alike. -/
theorem stepVariable (op : UnaryOp) (same : c.Names name name')
    : c.Simulates (m.stepVariable op name) (m'.stepVariable op name') := by
  refine .read fun s t related => ?_
  rw [machines.faithful.lookup related.context.vars same, machines.text same]
  split
  · exact machines.fail _
  · refine (machines.ofExcept ((machines.alike related).step _ _)).bind fun new => ?_
    exact (machines.assignVars same new).bind fun _ => .pure rfl

/-- A unary operator ends alike: a step by its variable, any other by its operand. -/
theorem unary (inside : c.Inside again again') (alike : c.Arenas arena arena') (op : UnaryOp)
    (operand : ExprId)
    : c.Simulates (m.unary again arena op operand) (m'.unary again' arena' op operand) := by
  unfold Machine.unary
  split
  · have node := alike.expr? operand
    generalize arena.expr? operand = expr? at node ⊢
    generalize arena'.expr? operand = expr?' at node ⊢
    cases node with
    | none => exact machines.dangling
    | @some expr expr' exprs =>
        have target := machines.assignable? exprs
        dsimp only
        generalize Machine.assignable? expr = name? at target ⊢
        generalize Machine.assignable? expr' = name?' at target ⊢
        cases target with
        | none => exact machines.fail _
        | some same => exact machines.stepVariable op same
  · refine (inside.ambient alike operand).bind fun value => ?_
    exact machines.scene.bind fun _ _ scenes => machines.ofExcept (scenes.unary op value)

/-- A conditional ends alike; the condition selects the same branch. -/
theorem ternary (inside : c.Inside again again') (alike : c.Arenas arena arena')
    (cond thenExpr elseExpr : ExprId)
    : c.Simulates (m.ternary again arena cond thenExpr elseExpr)
        (m'.ternary again' arena' cond thenExpr elseExpr) := by
  refine (inside.ambient alike cond).bind fun value => ?_
  refine (machines.requireBool value _).bind fun holds => ?_
  split
  · exact inside.ambient alike thenExpr
  · exact inside.ambient alike elseExpr

-----------------------------------------------------------------------------------------
-- Assignment and indexing
-----------------------------------------------------------------------------------------

/-- What an assignment gives alike variables is computed alike. -/
theorem variableValue (op : AssignOp) (same : c.Names name name')
    (types : Option.Rel c.Types type? type?') (operand : Value)
    : c.Simulates (m.variableValue op name type? operand)
        (m'.variableValue op name' type?' operand) := by
  refine .read fun s t related => ?_
  rw [machines.faithful.lookup related.context.vars same, machines.text same]
  cases op.binary? with
  | some op =>
      dsimp only
      split
      · exact machines.ofExcept ((machines.alike related).combine _ _ _)
      · exact machines.fail _
  | none =>
      cases types with
      | none => exact .pure rfl
      | some typed => exact machines.coerceToType operand typed

/-- An assignment to alike variables ends alike. -/
theorem assignVariable (op : AssignOp) (same : c.Names name name')
    (types : Option.Rel c.Types type? type?') (operand : Value)
    : c.Simulates (m.assignVariable op name type? operand)
        (m'.assignVariable op name' type?' operand) := by
  refine (machines.variableValue op same types operand).bind fun value => ?_
  exact (machines.assignVars same value).bind fun _ => .pure rfl

/-- An element is located alike. -/
theorem elementPlace (array index : Value)
    : c.Simulates (m.elementPlace array index) (m'.elementPlace array index) := by
  refine machines.scene.bind fun scene scene' scenes => ?_
  refine (machines.ofExcept (scenes.toArray array)).bind fun ref => ?_
  exact (machines.ofExcept (scenes.toIndex index)).bind fun _ => .pure rfl

/-- An index out of bounds is reported alike. -/
theorem outOfBounds (ref : ArrayRef) (index : Int32)
    : c.Simulates (Machine.outOfBounds ref index : Eval ω α) (Machine.outOfBounds ref index) := by
  refine .read fun s t related => ?_
  rw [related.heap.array]
  exact machines.fail _

/-- An element is loaded alike. -/
theorem loadElement (ref : ArrayRef) (index : Int32)
    : c.Simulates (Machine.loadElement ref index : Eval ω Value)
        (Machine.loadElement ref index) := by
  refine .read fun s t related => ?_
  rw [related.heap.array]
  split
  · exact .pure rfl
  · exact machines.outOfBounds ref index

/-- An element is stored alike, or the index refused. -/
theorem storeElement (ref : ArrayRef) (index : Int32) (value : Value)
    : c.Simulates (Machine.storeElement ref index value : Eval ω Unit)
        (Machine.storeElement ref index value) := by
  refine .read fun s t related => ?_
  have stored := related.heap.store? ref index value
  generalize s.heap.store? ref index value = heap? at stored ⊢
  generalize t.heap.store? ref index value = heap?' at stored ⊢
  cases stored with
  | none => exact machines.outOfBounds ref index
  | some heaps => exact fun _ _ _ => .value rfl (related.withHeap heaps)

/-- What an assignment would store is computed alike. -/
theorem elementValue (op : AssignOp) (ref : ArrayRef) (index : Int32) (operand : Value)
    : c.Simulates (m.elementValue op ref index operand)
        (m'.elementValue op ref index operand) := by
  unfold Machine.elementValue
  split
  · refine (machines.loadElement ref index).bind fun current => ?_
    exact machines.scene.bind fun _ _ scenes =>
      machines.ofExcept (scenes.combine _ current operand)
  · refine .read fun s t related => ?_
    rw [related.heap.array]
    split
    · exact machines.coerce _ _
    · exact .pure rfl

/-- An assignment to an element ends alike: the array, the index, and then the store. -/
theorem assignElement (inside : c.Inside again again') (alike : c.Arenas arena arena')
    (op : AssignOp) (array index : ExprId) (operand : Value)
    : c.Simulates (m.assignElement again arena op array index operand)
        (m'.assignElement again' arena' op array index operand) := by
  refine (inside.ambient alike array).bind fun array => ?_
  refine (inside.ambient alike index).bind fun index => ?_
  refine (machines.elementPlace array index).bind fun place => ?_
  refine (machines.elementValue op place.1 place.2 operand).bind fun value => ?_
  exact (machines.storeElement place.1 place.2 value).bind fun _ => .pure rfl

/-- An assignment ends alike.
Witness: its targets are alike, so both are variables, both elements, or both nothing that can be
assigned to.
-/
theorem assign (inside : c.Inside again again') (alike : c.Arenas arena arena') (op : AssignOp)
    (target value : ExprId)
    : c.Simulates (m.assign again arena op target value)
        (m'.assign again' arena' op target value) := by
  refine (inside.ambient alike value).bind fun operand => ?_
  have node := alike.expr? target
  generalize arena.expr? target = expr? at node ⊢
  generalize arena'.expr? target = expr?' at node ⊢
  cases node with
  | none => exact machines.dangling
  | @some expr expr' exprs =>
      have assigned := machines.assignable? exprs
      have kinds := exprs.kind
      dsimp only
      generalize Machine.assignable? expr = name? at assigned ⊢
      generalize Machine.assignable? expr' = name?' at assigned ⊢
      cases assigned with
      | some same => exact machines.assignVariable op same exprs.type? operand
      | none =>
          generalize expr.kind = kind at kinds ⊢
          generalize expr'.kind = kind' at kinds ⊢
          cases kinds with
          | index => exact machines.assignElement inside alike op _ _ operand
          | _ => exact machines.fail _

/-- An indexing ends alike: the array, the index, and then the load. -/
theorem indexing (inside : c.Inside again again') (alike : c.Arenas arena arena')
    (array index : ExprId) (receiver : Option Value)
    : c.Simulates (m.indexing again arena array index receiver)
        (m'.indexing again' arena' array index receiver) := by
  refine Simulates.bind (inside (.eval alike)) fun array => ?_
  refine (inside.ambient alike index).bind fun index => ?_
  refine (machines.elementPlace array index).bind fun place => ?_
  exact machines.loadElement place.1 place.2

-----------------------------------------------------------------------------------------
-- Allocation and types
-----------------------------------------------------------------------------------------

/-- A size is checked alike. -/
theorem arraySize (value : Value) : c.Simulates (m.arraySize value) (m'.arraySize value) := by
  refine machines.scene.bind fun scene scene' scenes => ?_
  refine (machines.ofExcept (scenes.toIndex value)).bind fun size => ?_
  split
  · exact machines.fail _
  · exact .pure rfl

/-- A new array has the same component, and sizes or elements that end alike. -/
theorem newArray (inside : c.Inside again again') (alike : c.Arenas arena arena')
    {component component' : ResolvedType Name} (same : c.Types component component')
    (init : ArrayInit)
    : c.Simulates (m.newArray again arena component init)
        (m'.newArray again' arena' component' init) := by
  unfold Machine.newArray
  rw [machines.type same]
  cases init with
  | elements items =>
      refine Simulates.bind (.mapM fun item _ => ?_) fun values => Simulates.allocate _
      exact (inside.ambient alike item).bind fun value => machines.coerceToType value same
  | dimension size =>
      refine (inside.ambient alike size).bind fun value => ?_
      exact (machines.arraySize value).bind fun _ => Simulates.allocate _

/-- A new object is made alike.
Witness: corresponding constructors read alike, and a class without one is made under the same text.
-/
theorem newObject (inside : c.Inside again again') (alike : c.Arenas arena arena')
    (same : c.Names name name') (args : List ExprId) (decls : Option.Rel c.Decls decl? decl?')
    : c.Simulates (m.newObject again arena name args decl?)
        (m'.newObject again' arena' name' args decl?') := by
  have undeclared
      : c.Simulates
          (match args with
            | _ :: _ => Eval.fail (.unresolvedReference ("constructor " ++ m.names.text name))
            | [] => do
              let name ← m.resolveClass name
              m.invokeHost (m.host.newInstance name))
          (match args with
            | _ :: _ => Eval.fail (.unresolvedReference ("constructor " ++ m'.names.text name'))
            | [] => do
              let name ← m'.resolveClass name'
              m'.invokeHost (m'.host.newInstance name)) := by
    cases args with
    | cons arg rest =>
        simp only [machines.text same]
        exact machines.fail _
    | nil =>
        refine (machines.resolveClass (machines.text same)).bind fun className => ?_
        exact machines.invokeHost (machines.host.newInstance className)
  cases decls with
  | none => cases args <;> exact undeclared
  | some declared =>
      cases machines.decl declared with
      | constructor read =>
          simp only [Machine.newObject, read]
          exact (inside.arguments alike args).bind fun _ =>
            machines.invokeHost (machines.host.invokeConstructor _ _)
      | _ => cases args <;> exact undeclared

/-- What corresponding types stand for is found alike.
Witness: both are classes of one text, or both are refused with the same text.
-/
theorem typeValue (types : Option.Rel c.Types type? type?')
    (decls : Option.Rel c.Decls decl? decl?')
    : c.Simulates (m.typeValue type? decl?) (m'.typeValue type?' decl?') := by
  cases types with
  | none =>
      cases decls with
      | none => exact machines.fail _
      | some declared =>
          cases machines.decl declared with
          | classDecl same => exact (machines.resolveClass same).map _
          | _ => exact machines.fail _
  | @some type type' same =>
      have read := machines.type same
      rcases classes_or_none read with ⟨name, name', rfl, rfl, named⟩ | ⟨other, other'⟩
      · exact (machines.resolveClass named).map _
      · rw [Machine.typeValue_of_class?_eq_none other,
          Machine.typeValue_of_class?_eq_none other', read]
        cases decls with
        | none => exact machines.fail _
        | some declared =>
            cases machines.decl declared with
            | classDecl same => exact (machines.resolveClass same).map _
            | _ => exact machines.fail _

end Machines

-----------------------------------------------------------------------------------------
-- Whole nodes
-----------------------------------------------------------------------------------------

/-- The later segments of a chain end alike, by induction on them. -/
theorem Inside.chainFrom (inside : c.Inside again again') (alike : c.Arenas arena arena')
    (current : Value) (segments : List ExprId)
    : c.Simulates (Machine.chainFrom again arena current segments)
        (Machine.chainFrom again' arena' current segments) := by
  induction segments generalizing current with
  | nil => exact .pure rfl
  | cons segment rest ih => exact Simulates.bind (inside (.eval alike)) fun next => ih next

/-- A chain ends alike: its first segment on the receiver, the others each on the value before. -/
theorem Inside.chain (inside : c.Inside again again') (alike : c.Arenas arena arena')
    (receiver : Option Value) (segments : List ExprId)
    : c.Simulates (Machine.chain again arena receiver segments)
        (Machine.chain again' arena' receiver segments) := by
  cases segments with
  | nil => exact .pure rfl
  | cons segment rest =>
      exact Simulates.bind (inside (.eval alike)) fun first => inside.chainFrom alike first rest

/-- Like expressions in like arenas evaluate alike.
Witness: by the kind of the expressions, which is the same, each by its operation.
-/
theorem Machines.evalExpr (machines : c.Machines m m') (inside : c.Inside again again')
    (alike : c.Arenas arena arena') {expr expr' : Expr} (exprs : c.Exprs expr expr')
    (receiver : Option Value)
    : c.Simulates (m.evalExpr again arena expr receiver)
        (m'.evalExpr again' arena' expr' receiver) := by
  obtain ⟨kind, span, decl?, type?⟩ := expr
  obtain ⟨kind', span', decl?', type?'⟩ := expr'
  obtain ⟨kinds, _, decls, types⟩ := exprs
  cases kinds with
  | literal same =>
      simp only [Machine.evalExpr, machines.literal same]
      exact .pure rfl
  | ident same => exact machines.identifier same decls receiver
  | call same => exact machines.callMethod inside alike same _ decls receiver
  | binary => exact machines.binary inside alike _ _ _
  | unary => exact machines.unary inside alike _ _
  | ternary => exact machines.ternary inside alike _ _ _
  | assign => exact machines.assign inside alike _ _ _
  | index => exact machines.indexing inside alike _ _ receiver
  | chain => exact inside.chain alike receiver _
  | newArray same => exact machines.newArray inside alike same _
  | newObject same => exact machines.newObject inside alike same _ decls
  | lambda same => exact machines.createLambda alike same _ types
  | typeRef => exact machines.typeValue types decls

end Correspondence

end Scratchpad
