import Scratchpad.Conversion
import Scratchpad.Eval.State
import Scratchpad.Name

/-! What stays fixed during an evaluation: the names, the host, the limits, and the observer of
printed lines. Evaluation reaches the host and the printout through here only.
-/

namespace Scratchpad

structure Machine (ω : Type) where
  names : Interner
  host : Host ω
  limits : Limits := {}
  /-- Sees the delivered lines, the latest first, after each one; may request cancellation. -/
  observer : List OutputLine → Bool := fun _ => false

/-- What is to be evaluated next, in which arena. An expression may have an explicit receiver;
without one it has the ambient receiver and sees the local variables.
-/
inductive Job where
  | eval (arena : Arena) (id : ExprId) (receiver : Option Value)
  | exec (arena : Arena) (id : StmtId)

namespace Machine

variable {ω α : Type} (m : Machine ω)

/-- The scene of a state. -/
def sceneOf (state : State ω) : Scene := m.host.scene state.heap state.world

/-- The current scene. -/
def scene : Eval ω Scene := do
  let state ← get
  pure (m.sceneOf state)

/-- Delivers one line. -/
def deliver (state : State ω) (line : OutputLine) : State ω :=
  let lines := line :: state.printout.lines
  {
    state with
    printout := { state.printout with lines }
    context :=
      { state.context with cancelled := state.context.cancelled || m.observer lines }
  }

/-- Prints a piece of text and delivers the lines that it completes. -/
def print (state : State ω) (stream : Stream) (text : String) : State ω :=
  let (lines, buffers) := state.printout.buffers.push stream text
  lines.foldl m.deliver { state with printout := { state.printout with buffers } }

/-- Delivers the unfinished lines. -/
def flush (state : State ω) : State ω :=
  state.printout.buffers.flush.foldl m.deliver
    { state with printout := { state.printout with buffers := {} } }

/-- Lets the host act. -/
def callHost (action : HostAction ω α) : Eval ω α := do
  let state ← get
  let response := action state.heap state.world
  set (response.written.foldl (fun later piece => m.print later piece.1 piece.2)
    { state with heap := response.heap, world := response.world })
  pure response.answer

/-- Lets the host act where it may throw. -/
def invokeHost (action : HostAction ω (Except HostException α)) : Eval ω α := do
  match ← m.callHost action with
  | .ok value => pure value
  | .error exception => Eval.fail (.host exception)

/-- The class that a name stands for, which the host must know. -/
def resolveClass (name : Name) : Eval ω String := do
  let state ← get
  match m.host.resolveClass state.world (m.names.text name) with
  | some className => pure className
  | none => Eval.fail (.unresolvedReference (m.names.text name))

/-- Converts a value to a primitive type. -/
def coerce (value : Value) (type : PrimitiveType) : Eval ω Value := do
  let scene ← m.scene
  Eval.ofExcept (scene.coerce value type)

/-- Converts a value to a declared type. -/
def coerceToType (value : Value) (type : ResolvedType Name) : Eval ω Value := do
  let scene ← m.scene
  Eval.ofExcept (scene.coerceToType value type)

/-- A value that must be a boolean. -/
def requireBool (value : Value) (role : String) : Eval ω Bool := do
  let scene ← m.scene
  Eval.ofExcept (scene.toBool value role)

end Machine

/-- Evaluates an expression on the ambient receiver. -/
def ambient {ω : Type} (again : Job → Eval ω Value) (arena : Arena) (id : ExprId) : Eval ω Value :=
  again (.eval arena id none)

/-- Evaluates arguments from left to right. -/
def arguments {ω : Type} (again : Job → Eval ω Value) (arena : Arena) (ids : List ExprId)
    : Eval ω (List Value) :=
  ids.mapM (ambient again arena)

end Scratchpad
