import Scratchpad.Eval.Expression

/-! Execution of one statement node. Every statement yields a value: a block the one of its last
statement, a loop none, a declaration what it bound.
-/

namespace Scratchpad

/-- Runs the passes of a loop. A pass takes what the loop carries along and gives what the next
one carries; it gives nothing when the loop is over. After each pass that goes on, `left` more may
be run; the limit is checked before cancellation.
-/
def iterate {ω ι : Type} (limit : Nat) (pass : ι → Eval ω (Option ι)) : Nat → ι → Eval ω Unit
  | left, carried => do
    match ← pass carried with
    | none => pure ()
    | some next =>
      match left with
      | 0 => Eval.fail (.loopLimitExceeded limit)
      | left + 1 =>
        Eval.checkCancelled
        iterate limit pass left next

namespace Machine

variable {ω : Type} (m : Machine ω) (again : Job → Eval ω Value) (arena : Arena)

/-- A loop of the program. Under a limit of zero it still runs one pass. -/
def loop {ι : Type} (pass : ι → Eval ω (Option ι)) (start : ι) : Eval ω Value := do
  iterate m.limits.iterations pass (m.limits.iterations - 1) start
  pure .void

/-- Whether the condition of a loop holds; a missing one always does. -/
def condition (cond? : Option ExprId) : Eval ω Bool :=
  match cond? with
  | some cond => do m.requireBool (← ambient again arena cond) "loop condition"
  | none => pure true

/-- Runs the body of a loop and then, unless it ended with a `break`, the given action. -/
def bodyThen {ι : Type} (body : StmtId) (next : Eval ω ι) : Eval ω (Option ι) := do
  let _ ← again (.exec arena body)
  if ← Eval.takeBreak then pure none else some <$> next

def whilePass (cond : ExprId) (body : StmtId) (_ : Unit) : Eval ω (Option Unit) := do
  if ← m.condition again arena (some cond) then bodyThen again arena body (pure ())
  else pure none

/-- A pass of a do-while loop. Its condition is skipped on the first pass. -/
def doWhilePass (cond : ExprId) (body : StmtId) (first : Bool) : Eval ω (Option Bool) := do
  let holds ← if first then pure true else m.condition again arena (some cond)
  if holds then bodyThen again arena body (pure false) else pure none

def forPass (cond? : Option ExprId) (update : List ExprId) (body : StmtId) (_ : Unit)
    : Eval ω (Option Unit) := do
  if ← m.condition again arena cond? then
    bodyThen again arena body (update.forM fun id => discard (ambient again arena id))
  else pure none

/-- A pass over the remaining elements. The variable is bound anew in the active frame. -/
def forEachPass (var : Name) (type : ResolvedType Name) (body : StmtId)
    : List Value → Eval ω (Option (List Value))
  | [] => pure none
  | element :: rest => do
    let value ← m.coerceToType element type
    Eval.modifyVars (·.define var value)
    bodyThen again arena body (pure rest)

/-- A value that can be iterated neither as an array nor by the host. -/
def notIterable {α : Type} (source : Value) : Eval ω α := do
  let scene ← m.scene
  Eval.fail (.typeMismatch "array or java.lang.Iterable" (scene.typeName source))

/-- The elements to iterate over, as they are when the loop starts. -/
def elementsOf (source : Value) : Eval ω (List Value) := do
  match source with
  | .array ref =>
    let state ← get
    pure (state.heap.array ref).elements.toList
  | .object ref =>
    match ← m.callHost (m.host.iterate ref) with
    | some elements => pure elements
    | none => m.notIterable source
  | .null => Eval.fail (.nullReceiver "iterator")
  | _ => m.notIterable source

/-- Statements in order, until one leaves a `break` pending; `result` is the value so far. -/
def blockFrom (result : Value) : List StmtId → Eval ω Value
  | [] => pure result
  | id :: rest => do
    let value ← again (.exec arena id)
    let state ← get
    if state.context.breakPending then pure value else blockFrom value rest

/-- Binds the names that have an initial value, and gives what was bound. -/
def declare (type : ResolvedType Name) : List Declarator → Eval ω (List (Name × Value))
  | [] => pure []
  | declarator :: rest =>
    match declarator.init? with
    | none => declare type rest
    | some init => do
      let value ← ambient again arena init
      let value ← m.coerceToType value type
      Eval.modifyVars (·.define declarator.name value)
      let bound ← declare type rest
      pure ((declarator.name, value) :: bound)

/-- What a declaration yields: nothing, the one value it bound, or a summary of several. -/
def declared (bound : List (Name × Value)) : Eval ω Value := do
  match bound with
  | [] => pure .void
  | [(_, value)] => pure value
  | _ =>
    let scene ← m.scene
    let entry (binding : Name × Value) : String :=
      m.names.text binding.1 ++ " = " ++ scene.display binding.2
    pure (.str (", ".intercalate (bound.map entry)))

def ifElse (cond : ExprId) (thenBranch : StmtId) (elseBranch? : Option StmtId)
    : Eval ω Value := do
  if ← m.requireBool (← ambient again arena cond) "if condition" then
    again (.exec arena thenBranch)
  else
    match elseBranch? with
    | some branch => again (.exec arena branch)
    | none => pure .void

/-- Executes one statement node. The lock of a synchronized statement is not evaluated. -/
def execStmt (stmt : Stmt) : Eval ω Value :=
  match stmt.kind with
  | .block body => blockFrom again arena .void body
  | .expr id => ambient again arena id
  | .ifElse cond thenBranch elseBranch? => m.ifElse again arena cond thenBranch elseBranch?
  | .whileLoop cond body => m.loop (m.whilePass again arena cond body) ()
  | .doWhile body cond => m.loop (m.doWhilePass again arena cond body) true
  | .forLoop init cond? update body => do
    init.forM fun id => discard (again (.exec arena id))
    m.loop (m.forPass again arena cond? update body) ()
  | .forEach var type iterable body => do
    let source ← ambient again arena iterable
    let elements ← m.elementsOf source
    m.loop (m.forEachPass again arena var type body) elements
  | .varDecl type declarators => do
    let bound ← m.declare again arena type declarators
    m.declared bound
  | .returns value? =>
    match value? with
    | some id => ambient again arena id
    | none => pure .null
  | .breakLoop => do
    Eval.modifyContext fun context => { context with breakPending := true }
    pure .void
  | .synchronized _ body => again (.exec arena body)
  | .unsupported form => Eval.fail (.notImplemented form.display)

end Machine

end Scratchpad
