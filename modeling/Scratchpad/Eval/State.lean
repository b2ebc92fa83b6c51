import Scratchpad.Host.Basic

/-! The state that evaluation threads through a program, and the actions on it. An action ends
with a value, or it stops: with an error of the program, at a node that its arena does not hold,
or because its fuel is spent. Either way there is a state afterwards.
-/

namespace Scratchpad

/-- How long a single loop may run and how many frames there may be. -/
structure Limits where
  iterations : Nat := 100000
  frames : Nat := Variables.usualLimit
deriving DecidableEq, Inhabited

/-- The part of the state that the host never sees. -/
structure Context where
  /-- The ambient receiver. -/
  this : Value
  vars : Variables
  /-- Whether a `break` is on its way out to a loop. -/
  breakPending : Bool := false
  /-- Whether cancellation was requested. -/
  cancelled : Bool := false
deriving Inhabited

namespace Context

/-- A context without variables. -/
def fresh (limits : Limits) (this : Value) : Context :=
  { this, vars := .withLimit limits.frames }

/-- Drops all variables, a pending break and a request to cancel. The receiver stays. -/
def reset (context : Context) : Context :=
  { this := context.this, vars := context.vars.reset }

end Context

/-- What has been printed: unfinished lines, and delivered lines with the latest first. -/
structure Printout where
  buffers : LineBuffers := {}
  lines : List OutputLine := []
deriving Inhabited

structure State (ω : Type) where
  context : Context
  heap : Heap := {}
  world : ω
  printout : Printout := {}

/-- Why an action has no value. -/
inductive Stop where
  | error (error : EvalError)
  | danglingNode
  | outOfFuel
deriving DecidableEq

namespace Stop

/-- Notes where an error of the program arose. -/
def withSpan (span : Span) : Stop → Stop
  | .error e => .error (e.withSpan span)
  | stop => stop

end Stop

/-- An action on the state. -/
abbrev Eval (ω α : Type) : Type := ExceptT Stop (StateM (State ω)) α

namespace Eval

variable {ω α : Type}

/-- Stops with an error of the program, whose place is not known yet. -/
def fail (cause : Cause) : Eval ω α := throw (.error { cause })

/-- An outcome that was computed without the state. -/
def ofExcept : Except Cause α → Eval ω α
  | .ok value => pure value
  | .error cause => fail cause

/-- Runs an action and notes a span on its error. -/
def atSpan (span : Span) (action : Eval ω α) : Eval ω α :=
  ExceptT.adapt (Stop.withSpan span) action

/-- Runs an action and, however it ends, changes the state afterwards. -/
def andThen (action : Eval ω α) (change : State ω → State ω) : Eval ω α :=
  ExceptT.mk do
    let result ← action.run
    modify change
    pure result

/-- Changes the context. -/
def modifyContext (change : Context → Context) : Eval ω Unit :=
  modify fun state => { state with context := change state.context }

/-- Changes the variables. -/
def modifyVars (change : Variables → Variables) : Eval ω Unit :=
  modifyContext fun context => { context with vars := change context.vars }

/-- Clears a pending break and tells whether there was one. -/
def takeBreak : Eval ω Bool := do
  let state ← get
  modifyContext fun context => { context with breakPending := false }
  pure state.context.breakPending

/-- Stops if cancellation was requested. -/
def checkCancelled : Eval ω Unit := do
  let state ← get
  if state.context.cancelled then fail .cancelled else pure ()

end Eval

end Scratchpad
