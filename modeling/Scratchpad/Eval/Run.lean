import Scratchpad.Eval.Statement

/-! Evaluation of whole programs. Fuel bounds how deep jobs nest; the fuel that is provided
suffices for every arena whose nodes refer to earlier ones, because a job nests inside another
either by a child node or by one of boundedly many lambda invocations.
-/

namespace Scratchpad

namespace Machine

variable {ω : Type} (m : Machine ω)

/-- Does one job, with the jobs inside it done by `again`. -/
def perform (again : Job → Eval ω Value) : Job → Eval ω Value
  | .eval arena id receiver =>
    match arena.expr? id with
    | none => throw .danglingNode
    | some expr => Eval.atSpan expr.span (m.evalExpr again arena expr receiver)
  | .exec arena id =>
    match arena.stmt? id with
    | none => throw .danglingNode
    | some stmt => Eval.atSpan stmt.span (m.execStmt again arena stmt)

/-- Does a job whose nesting is at most the fuel. -/
def run : Nat → Job → Eval ω Value
  | 0, _ => throw .outOfFuel
  | fuel + 1, job => m.perform (run fuel) job

/-- The size of the largest arena that a job on the given one can reach. -/
def largestArena (arena : Arena) (heap : Heap) : Nat :=
  heap.closures.foldl (fun size closure => max size closure.arena.size) arena.size

/-- Fuel for any job on an arena: every frame may nest as deep as an arena has nodes. -/
def fuelFor (arena : Arena) (state : State ω) : Nat :=
  (state.context.vars.limit + 1) * (largestArena arena state.heap + 1)

/-- Evaluates an expression on the ambient receiver. -/
def eval (arena : Arena) (id : ExprId) : Eval ω Value := do
  let state ← get
  m.run (fuelFor arena state) (.eval arena id none)

/-- Executes a statement. -/
def exec (arena : Arena) (id : StmtId) : Eval ω Value := do
  let state ← get
  m.run (fuelFor arena state) (.exec arena id)

/-- Invokes a lambda from outside. -/
def apply (closure : Closure) (args : List Value) : Eval ω Value := do
  let state ← get
  m.invoke (m.run (fuelFor closure.arena state)) closure args

end Machine

end Scratchpad
