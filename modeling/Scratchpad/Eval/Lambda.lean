import Scratchpad.Eval.Machine

/-! Lambdas: their creation from a node and a target interface, and their invocation. -/

namespace Scratchpad

namespace Closure

/-- The bindings in which a body runs: what was captured, and each parameter bound to its
argument, converted to the interface's parameter type.
-/
def bindArguments (scene : Scene) (type? : Option PrimitiveType)
    : Frame → List (Name × Value) → Except Cause Frame
  | frame, [] => .ok frame
  | frame, (param, value) :: rest =>
    match type? with
    | some type =>
      match scene.coerce value type with
      | .ok converted => bindArguments scene type? (frame.insert param converted) rest
      | .error cause => .error cause
    | none => bindArguments scene type? (frame.insert param value) rest

/-- The frame of an invocation with as many arguments as parameters. -/
def frame (closure : Closure) (scene : Scene) (args : List Value) : Except Cause Frame :=
  bindArguments scene closure.shape.param? closure.captured (closure.params.zip args)

/-- The job that runs the body. -/
def job (closure : Closure) : Job :=
  match closure.body with
  | .expr id => .eval closure.arena id none
  | .block id => .exec closure.arena id

end Closure

namespace Machine

variable {ω : Type} (m : Machine ω)

/-- Enters the frame of a lambda, which also brings its receiver along. -/
def enter (frame : Frame) (this : Value) : Eval ω Unit := do
  let state ← get
  match state.context.vars.push? frame with
  | some vars => Eval.modifyContext fun context => { context with vars, this }
  | none => Eval.fail (.frameLimitExceeded state.context.vars.limit)

/-- Leaves the frame of a lambda. A `break` does not get out of it. -/
def leave (this : Value) (state : State ω) : State ω :=
  {
    state with
    context :=
      { state.context with vars := state.context.vars.pop, this, breakPending := false }
  }

/-- What an invocation makes of the value of the body. -/
def invocationResult (closure : Closure) (value : Value) : Eval ω Value :=
  match closure.shape.result? with
  | some type => m.coerce value type
  | none => pure .void

/-- Invokes a lambda. Its body runs in a frame of its own, which is left however the body
ends.
-/
def invoke (again : Job → Eval ω Value) (closure : Closure) (args : List Value)
    : Eval ω Value := do
  if args.length = closure.params.length then
    let state ← get
    let frame ← Eval.ofExcept (closure.frame (m.sceneOf state) args)
    enter frame closure.this
    let value ← (again closure.job).andThen (leave state.context.this)
    m.invocationResult closure value
  else
    Eval.fail
      (.typeMismatch
        (toString closure.params.length ++ " argument(s) for " ++ closure.target)
        (toString args.length))

/-- The interface that a lambda targets, by the type of its node. -/
def lambdaTarget (type? : Option (ResolvedType Name)) : Except Cause String :=
  match type? with
  | some (.classType name) => .ok (m.names.text name)
  | some type =>
    .error (.notImplemented ("lambda targeting " ++ (type.map m.names.text).display))
  | none => .error (.notImplemented "lambda without a target type")

/-- The shape of the target, which must be a supported interface that takes as many arguments
as there are parameters.
-/
def lambdaShape (target : String) (params : List Name) : Except Cause FunctionalShape :=
  match FunctionalShape.ofInterface? target with
  | none => .error (.notImplemented ("lambda targeting " ++ target))
  | some shape =>
    if params.length = shape.arity then .ok shape
    else
      .error
        (.typeMismatch (toString shape.arity ++ " parameter(s) for " ++ target)
          (toString params.length))

/-- Makes a lambda. It keeps the active frame as it is now, and the receiver. -/
def createLambda (arena : Arena) (params : List Name) (body : LambdaBody)
    (type? : Option (ResolvedType Name))
    : Eval ω Value := do
  let target ← Eval.ofExcept (m.lambdaTarget type?)
  let shape ← Eval.ofExcept (lambdaShape target params)
  let state ← get
  let closure : Closure :=
    {
      params, body, arena, shape, target
      captured := state.context.vars.capture
      this := state.context.this
    }
  let (ref, heap) := state.heap.addClosure closure
  set { state with heap }
  pure (.lambda ref)

end Machine

end Scratchpad
