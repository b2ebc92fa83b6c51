import Scratchpad.Eval.Run

/-! The console runs submissions for a client, statement by statement. The client sees every
outcome and every printed line in the order in which they happen, and may ask to cancel after
each. Variables do not outlive a run, lambdas do.
-/

namespace Scratchpad

/-- What a client is told. A result comes with the heap and the world as they were then, because
later statements may change what the value refers to.
-/
inductive Event (ω : Type) where
  | result (index : Nat) (value : Value) (heap : Heap) (world : ω)
  | failed (index : Nat) (error : EvalError)
  /-- The statement was not run, because the resolver found errors in it. -/
  | skipped (index : Nat) (errors : List SemanticError)
  | line (line : OutputLine)

/-- A client, as far as it matters to a run: whether it asks to cancel, given what it has been
told so far, the latest first.
-/
abbrev Client (ω : Type) : Type := List (Event ω) → Bool

/-- How a run ended. -/
inductive RunOutcome where
  | completed
  | failed (error : EvalError)
  | cancelled
  /-- A statement could not be evaluated at all. -/
  | stuck (stop : Stop)
deriving DecidableEq

namespace RunOutcome

def isCompleted : RunOutcome → Bool
  | .completed => true
  | _ => false

end RunOutcome

structure Console (ω : Type) where
  names : Interner := {}
  host : Host ω
  limits : Limits := {}
  context : Context
  heap : Heap := {}
  world : ω

/-- A run in progress: the state, and what the client has been told, the latest first. -/
structure Session (ω : Type) where
  state : State ω
  events : List (Event ω) := []

namespace Session

variable {ω α : Type}

/-- Tells the client about an event. -/
def report (client : Client ω) (session : Session ω) (event : Event ω) : Session ω :=
  let events := event :: session.events
  let context := session.state.context
  {
    state :=
      {
        session.state with
        context := { context with cancelled := context.cancelled || client events }
      }
    events
  }

/-- Moves the lines that the client has seen from the printout to the events. -/
def collectLines (session : Session ω) : Session ω :=
  let lines := session.state.printout.lines
  {
    state :=
      { session.state with printout := { session.state.printout with lines := [] } }
    events := lines.map .line ++ session.events
  }

/-- The machine whose printed lines go to the client. -/
def machine (console : Console ω) (client : Client ω) (session : Session ω) : Machine ω :=
  {
    names := console.names
    host := console.host
    limits := console.limits
    observer := fun lines => client (lines.map .line ++ session.events)
  }

/-- Lets a machine act on the state, with the lines that it prints going to the client. -/
def act (console : Console ω) (client : Client ω) (session : Session ω)
    (action : Machine ω → State ω → State ω)
    : Session ω :=
  collectLines
    { session with state := action (session.machine console client) session.state }

/-- Runs an evaluation, with the lines that it prints going to the client. -/
def evaluate (console : Console ω) (client : Client ω) (session : Session ω)
    (action : Machine ω → Eval ω α)
    : Except Stop α × Session ω :=
  let (result, state) := (action (session.machine console client)).run session.state
  (result, collectLines { session with state })

/-- Prints the exception of a host failure on the error stream. -/
def reportException (console : Console ω) (client : Client ω) (session : Session ω)
    (error : EvalError)
    : Session ω :=
  match error.cause.exception? with
  | some exception =>
    session.act console client fun machine state =>
      machine.print state .err (exception.display ++ "\n")
  | none => session

/-- Forgets a `break` that no loop has caught. -/
def dropBreak (session : Session ω) : Session ω :=
  let context := session.state.context
  {
    session with
    state := { session.state with context := { context with breakPending := false } }
  }

/-- Runs statements in order, the first of which has the given index. -/
def runFrom (console : Console ω) (client : Client ω) (arena : Arena)
    : Nat → List SourceStatement → Session ω → RunOutcome × Session ω
  | _, [], session => (.completed, session)
  | index, statement :: rest, session =>
    if session.state.context.cancelled then (.cancelled, session)
    else if statement.errors.isEmpty then
      let (result, session) :=
        session.evaluate console client fun machine => machine.exec arena statement.root
      let session := session.dropBreak
      match result with
      | .ok value =>
        runFrom console client arena (index + 1) rest
          (session.report client
            (.result index value session.state.heap session.state.world))
      | .error (.error error) =>
        if error.cause.isCancelled then
          (.cancelled, session.report client (.failed index error))
        else
          let session := session.reportException console client error
          (.failed error, session.report client (.failed index error))
      | .error stop => (.stuck stop, session)
    else
      runFrom console client arena (index + 1) rest
        (session.report client (.skipped index statement.errors))

end Session

namespace Console

variable {ω : Type}

/-- A console without variables. -/
def fresh (names : Interner) (host : Host ω) (limits : Limits) (receiver : Value) (heap : Heap)
    (world : ω)
    : Console ω :=
  { names, host, limits, context := .fresh limits receiver, heap, world }

/-- The state in which an evaluation starts. -/
def state (console : Console ω) (context : Context) : State ω :=
  { context, heap := console.heap, world := console.world }

/-- Ends a session: the client gets the unfinished lines, and the console keeps the state. Gives
the events in the order in which they happened.
-/
def close (console : Console ω) (client : Client ω) (session : Session ω)
    : List (Event ω) × Console ω :=
  let session := session.act console client fun machine state => machine.flush state
  let state := session.state
  (session.events.reverse,
    { console with context := state.context, heap := state.heap, world := state.world })

/-- Runs the statements of a unit in order, from a clean context. The first failure ends the
run.
-/
def run (console : Console ω) (client : Client ω) (unit : SourceUnit)
    : RunOutcome × List (Event ω) × Console ω :=
  let session : Session ω := { state := console.state console.context.reset }
  let (outcome, session) := Session.runFrom console client unit.arena 0 unit.statements session
  (outcome, console.close client session)

/-- Invokes a lambda of an earlier run. Its free names are those of the latest run. -/
def invokeCallback (console : Console ω) (client : Client ω) (closure : Closure)
    (args : List Value)
    : Except Stop Value × List (Event ω) × Console ω :=
  let session : Session ω := { state := console.state console.context }
  let (result, session) :=
    session.evaluate console client fun machine => machine.apply closure args
  let session :=
    match result with
    | .error (.error error) => session.reportException console client error
    | _ => session
  (result, console.close client session)

/-- The value of a variable, by its text. -/
def readVariable (console : Console ω) (text : String) : Option Value × Console ω :=
  let (name, names) := console.names.intern text
  (console.context.vars.lookup name, { console with names })

/-- Asks to cancel what is running. The next run forgets it. -/
def cancel (console : Console ω) : Console ω :=
  { console with context := { console.context with cancelled := true } }

end Console

end Scratchpad
