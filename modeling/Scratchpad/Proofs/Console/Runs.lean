import Scratchpad.Console
import Scratchpad.Proofs.Eval.ArenaSafety

/-! Runs of a console, statement by statement. What a run does with one statement is a relation with
one case for each way it can go; a run is a chain of such steps, and it is the only one.
-/

namespace Scratchpad

variable {ω : Type}

-----------------------------------------------------------------------------------------
-- Events
-----------------------------------------------------------------------------------------

namespace Event

/-- The statement that an event is about; a printed line is about none. -/
def index? : Event ω → Option Nat
  | .result index _ _ _ => some index
  | .failed index _ => some index
  | .skipped index _ => some index
  | .line _ => none

def isResult : Event ω → Bool
  | .result _ _ _ _ => true
  | _ => false

def isFailed : Event ω → Bool
  | .failed _ _ => true
  | _ => false

def isSkipped : Event ω → Bool
  | .skipped _ _ => true
  | _ => false

end Event

/-- The events about statements among all that a client is told. -/
def statementEvents (events : List (Event ω)) : List (Event ω) :=
  events.filter (·.index?.isSome)

/-- Lines of output are no events of statements, by induction on the lines. -/
theorem statementEvents_lines (lines : List OutputLine) (events : List (Event ω))
    : statementEvents (lines.map .line ++ events) = statementEvents events := by
  induction lines with
  | nil => rfl
  | cons line rest ih => exact ih

/-- Two statements are the same to a run: they have the same errors and, without errors, the same
root.
-/
structure SourceStatement.Alike (statement other : SourceStatement) : Prop where
  errors : other.errors = statement.errors
  root : statement.errors = [] → other.root = statement.root

/-- A unit with an arena of the given kind, which holds the roots of the statements. -/
structure SourceUnit.Rooted (kind : Arena → Prop) (unit : SourceUnit) : Prop where
  arena : kind unit.arena
  roots : ∀ statement ∈ unit.statements, unit.arena.Holds (.stmt statement.root)

/-- The console that goes on from a state. -/
def Console.withState (console : Console ω) (state : State ω) : Console ω :=
  { console with context := state.context, heap := state.heap, world := state.world }

namespace Session

variable {console : Console ω} {client : Client ω} {arena : Arena}

/-- What the client has been told about statements, in order. -/
def log (session : Session ω) : List (Event ω) := (statementEvents session.events).reverse

/-- A report about a statement is added to the log. -/
theorem log_report (session : Session ω) {event : Event ω} (about : event.index?.isSome = true)
    : (session.report client event).log = session.log ++ [event] := by
  simp [log, report, statementEvents, about]

/-- Dropping a break is not reported. -/
@[simp]
theorem log_dropBreak (session : Session ω) : session.dropBreak.log = session.log := rfl

/-- Printed lines are about no statement. -/
@[simp]
theorem log_collectLines (session : Session ω) : session.collectLines.log = session.log := by
  rw [log, collectLines, statementEvents_lines, log]

/-- What is done to the state is not in the log, whatever it prints. -/
@[simp]
theorem log_act (session : Session ω) (action : Machine ω → State ω → State ω)
    : (session.act console client action).log = session.log :=
  log_collectLines { session with state := _ }

/-- An evaluation is not in the log, whatever it prints. -/
@[simp]
theorem log_evaluate {α : Type} (session : Session ω) (action : Machine ω → Eval ω α)
    : (session.evaluate console client action).2.log = session.log :=
  log_collectLines { session with state := _ }

/-- Printing an exception is not in the log. -/
theorem log_reportException (session : Session ω) (error : EvalError)
    : (session.reportException console client error).log = session.log := by
  unfold reportException
  split
  · exact log_act session _
  · rfl

-----------------------------------------------------------------------------------------
-- What a session does to the state
-----------------------------------------------------------------------------------------

/-- What holds of a state does not depend on what was printed, nor on a request to cancel. -/
def Outward (holds : State ω → Prop) : Prop :=
  ∀ state, holds state → ∀ output, holds (state.hosted state.heap state.world output)

namespace Outward

variable {holds : State ω → Prop} (outward : Outward holds) {session : Session ω}

include outward

/-- A property that survives output survives a report. -/
theorem report (start : holds session.state) (event : Event ω)
    : holds (session.report client event).state :=
  outward _ start ⟨session.state.printout, _⟩

/-- A property that survives output survives the collection of lines. -/
theorem collectLines (session : Session ω) (start : holds session.state)
    : holds session.collectLines.state :=
  outward _ start ⟨{ session.state.printout with lines := [] }, _⟩

/-- A property that an action keeps is kept with the lines that the action printed. -/
theorem act {action : Machine ω → State ω → State ω}
    (kept : ∀ machine, holds (action machine session.state))
    : holds (session.act console client action).state :=
  outward.collectLines { session with state := _ } (kept _)

/-- A property that an evaluation keeps is kept with the lines that the evaluation printed. -/
theorem evaluate {α : Type} {action : Machine ω → Eval ω α}
    (kept : ∀ machine, holds ((action machine).run session.state).2)
    : holds (session.evaluate console client action).2.state :=
  outward.collectLines { session with state := _ } (kept _)

/-- A property that survives output survives the report of an exception, which only prints. -/
theorem reportException (start : holds session.state) (error : EvalError)
    : holds (session.reportException console client error).state := by
  unfold Session.reportException
  split
  · next exception _ =>
    refine outward.act fun machine => ?_
    obtain ⟨output, _, printed⟩ :=
      machine.exists_print session.state .err (exception.display ++ "\n")
    rw [printed]
    exact outward _ start output
  · exact start

/-- Closing a session hands the state on, after the unfinished lines have been printed. -/
theorem close (start : holds session.state)
    : ∃ state, holds state ∧ (console.close client session).2 = console.withState state := by
  refine ⟨_, outward.act fun machine => ?_, rfl⟩
  obtain ⟨output, _, flushed⟩ := machine.exists_flush session.state
  rw [flushed]
  exact outward _ start output

end Outward

/-- Dropping a break does not touch the heap. -/
@[simp]
theorem heap_dropBreak (session : Session ω)
    : session.dropBreak.state.heap = session.state.heap :=
  rfl

/-- Dropping a break does not touch the world. -/
@[simp]
theorem world_dropBreak (session : Session ω)
    : session.dropBreak.state.world = session.state.world :=
  rfl

-----------------------------------------------------------------------------------------
-- One statement
-----------------------------------------------------------------------------------------

/-- Executes the statement at a root, with the lines that it prints going to the client. -/
def execute (console : Console ω) (client : Client ω) (arena : Arena) (session : Session ω)
    (root : StmtId)
    : Except Stop Value × Session ω :=
  session.evaluate console client fun machine => machine.exec arena root

/-- What a run does with the statement at an index: the event it reports, the outcome with which it
ends there unless it goes on, and the session afterwards.
-/
inductive Advance (console : Console ω) (client : Client ω) (arena : Arena) (index : Nat)
    (statement : SourceStatement) (session : Session ω)
    : Option (Event ω) → Option RunOutcome → Session ω → Prop
  | cancelled (requested : session.state.context.cancelled = true)
    : Advance console client arena index statement session none (some .cancelled) session
  | skipped (free : session.state.context.cancelled = false) (errors : statement.errors ≠ [])
    : Advance console client arena index statement session
        (some (.skipped index statement.errors)) none
        (session.report client (.skipped index statement.errors))
  | result {value later} (free : session.state.context.cancelled = false)
    (clean : statement.errors = [])
    (ran : session.execute console client arena statement.root = (.ok value, later))
    : Advance console client arena index statement session
        (some (.result index value later.state.heap later.state.world)) none
        (later.dropBreak.report client (.result index value later.state.heap later.state.world))
  | interrupted {error later} (free : session.state.context.cancelled = false)
    (clean : statement.errors = [])
    (ran : session.execute console client arena statement.root = (.error (.error error), later))
    (interruption : error.cause.isCancelled = true)
    : Advance console client arena index statement session
        (some (.failed index error)) (some .cancelled)
        (later.dropBreak.report client (.failed index error))
  | failed {error later} (free : session.state.context.cancelled = false)
    (clean : statement.errors = [])
    (ran : session.execute console client arena statement.root = (.error (.error error), later))
    (failure : error.cause.isCancelled = false)
    : Advance console client arena index statement session
        (some (.failed index error)) (some (.failed error))
        ((later.dropBreak.reportException console client error).report client
          (.failed index error))
  | stuck {stop later} (free : session.state.context.cancelled = false)
    (clean : statement.errors = [])
    (ran : session.execute console client arena statement.root = (.error stop, later))
    (abnormal : ∀ error, stop ≠ .error error)
    : Advance console client arena index statement session none (some (.stuck stop))
        later.dropBreak

/-- Every statement is dealt with in one of these ways.
Witness: by the tests that a run makes, in their order: cancellation, errors of the statement, and
how its evaluation ends.
-/
theorem exists_advance (console : Console ω) (client : Client ω) (arena : Arena) (index : Nat)
    (statement : SourceStatement) (session : Session ω)
    : ∃ event? outcome? later,
        Advance console client arena index statement session event? outcome? later := by
  cases free : session.state.context.cancelled with
  | true => exact ⟨_, _, _, .cancelled free⟩
  | false =>
      by_cases clean : statement.errors = []
      · rcases ran : session.execute console client arena statement.root with ⟨stop | value, later⟩
        · cases stop with
          | error error =>
              cases kind : error.cause.isCancelled with
              | true => exact ⟨_, _, _, .interrupted free clean ran kind⟩
              | false => exact ⟨_, _, _, .failed free clean ran kind⟩
          | danglingNode => exact ⟨_, _, _, .stuck free clean ran nofun⟩
          | outOfFuel => exact ⟨_, _, _, .stuck free clean ran nofun⟩
        · exact ⟨_, _, _, .result free clean ran⟩
      · exact ⟨_, _, _, .skipped free clean⟩

namespace Advance

variable {index : Nat} {statement : SourceStatement} {session later : Session ω}
  {event? : Option (Event ω)} {outcome? : Option RunOutcome}

/-- A run takes this step, and goes on after it or ends.
Witness: by the way the statement is dealt with; the tests of the run take the same branch.
-/
theorem runFrom_cons
    (step : Advance console client arena index statement session event? outcome? later)
    (rest : List SourceStatement)
    : runFrom console client arena index (statement :: rest) session
      = match outcome? with
        | none => runFrom console client arena (index + 1) rest later
        | some outcome => (outcome, later) := by
  conv_lhs => unfold runFrom
  cases step with
  | cancelled requested => simp [requested]
  | skipped free errors => simp [free, errors]
  | result free clean ran =>
      rw [execute] at ran
      simp [free, clean, ran]
  | interrupted free clean ran interruption =>
      rw [execute] at ran
      simp [free, clean, ran, interruption]
  | failed free clean ran failure =>
      rw [execute] at ran
      simp [free, clean, ran, failure]
  | @stuck stop _ free clean ran abnormal =>
      rw [execute] at ran
      cases stop with
      | error error => exact absurd rfl (abnormal error)
      | _ => simp [free, clean, ran]

/-- The log grows by the event of the step.
Witness: only a report is logged, and each way of dealing with a statement reports its one event.
-/
theorem log_eq
    (step : Advance console client arena index statement session event? outcome? later)
    : later.log = session.log ++ event?.toList := by
  have executed {result : Except Stop Value} {after : Session ω}
      (ran : session.execute console client arena statement.root = (result, after))
      : after.log = session.log := by
    rw [execute] at ran
    rw [← log_evaluate session, ran]
  cases step with
  | cancelled _ => exact (List.append_nil _).symm
  | skipped _ _ => exact log_report session rfl
  | result _ _ ran => rw [log_report _ rfl, log_dropBreak, executed ran, Option.toList_some]
  | interrupted _ _ ran _ =>
      rw [log_report _ rfl, log_dropBreak, executed ran, Option.toList_some]
  | failed _ _ ran _ =>
      rw [log_report _ rfl, log_reportException, log_dropBreak, executed ran, Option.toList_some]
  | stuck _ _ ran _ => rw [log_dropBreak, executed ran, Option.toList_none, List.append_nil]

/-- A step keeps what reports keep, if the execution of its statement does too, once a break is
forgotten.
-/
theorem preserves (holds : Session ω → Prop)
    (step : Advance console client arena index statement session event? outcome? later)
    (exec : holds (session.execute console client arena statement.root).2.dropBreak)
    (exception
      : ∀ {session} error, holds session
        → holds (session.reportException console client error))
    (report : ∀ {session} event, holds session → holds (session.report client event))
    (start : holds session)
    : holds later := by
  cases step with
  | cancelled _ => exact start
  | skipped _ _ => exact report _ start
  | result _ _ ran =>
      rw [ran] at exec
      exact report _ exec
  | interrupted _ _ ran _ =>
      rw [ran] at exec
      exact report _ exec
  | failed _ _ ran _ =>
      rw [ran] at exec
      exact report _ (exception _ exec)
  | stuck _ _ ran _ =>
      rw [ran] at exec
      exact exec

/-- What holds of a state whatever is printed is kept as far as the evaluation keeps it. -/
theorem keeps {holds : State ω → Prop} (outward : Outward holds)
    (step : Advance console client arena index statement session event? outcome? later)
    (exec
      : holds
          ((((session.machine console client).exec arena statement.root).run
            session.state).2.withBreak false))
    (start : holds session.state)
    : holds later.state :=
  step.preserves (holds ·.state) (outward.collectLines { session with state := _ } exec)
    (fun error kept => outward.reportException kept error)
    (fun event kept => outward.report kept event) start

/-- A statement whose root is in its arena leaves all lambdas rooted. -/
theorem rooted {kind : Arena → Prop} (closed : ∀ arena, kind arena → arena.Closed)
    (step : Advance console client arena index statement session event? outcome? later)
    (job : (Job.exec arena statement.root).Rooted kind)
    (heap : session.state.heap.Rooted kind)
    : later.state.heap.Rooted kind := by
  have outward : Outward fun state : State ω => state.heap.Rooted kind := fun _ heap _ => heap
  exact step.keeps outward (Machine.run_rooted closed _ _ job heap).1 heap

/-- A step that reports an event depends only on what the statement is to a run, and one before the
statement on nothing of it.
-/
theorem congr {other : SourceStatement}
    (step : Advance console client arena index statement session event? outcome? later)
    (normal : ∀ stop, outcome? ≠ some (.stuck stop))
    (alike : event?.isSome = true → statement.Alike other)
    : Advance console client arena index other session event? outcome? later := by
  cases step with
  | cancelled requested => exact .cancelled requested
  | skipped free errors =>
      obtain ⟨same, _⟩ := alike rfl
      rw [← same] at errors ⊢
      exact .skipped free errors
  | result free clean ran =>
      obtain ⟨same, root⟩ := alike rfl
      exact .result free (same.trans clean) (by rwa [root clean])
  | interrupted free clean ran interruption =>
      obtain ⟨same, root⟩ := alike rfl
      exact .interrupted free (same.trans clean) (by rwa [root clean]) interruption
  | failed free clean ran failure =>
      obtain ⟨same, root⟩ := alike rfl
      exact .failed free (same.trans clean) (by rwa [root clean]) failure
  | @stuck stop => exact absurd rfl (normal stop)

end Advance

-----------------------------------------------------------------------------------------
-- Whole runs
-----------------------------------------------------------------------------------------

/-- A run of statements, the first of which has the given index: what it tells the client about
them, how it ends, and the session afterwards.
-/
inductive Runs (console : Console ω) (client : Client ω) (arena : Arena)
    : Nat → List SourceStatement → Session ω → List (Event ω) → RunOutcome → Session ω → Prop
  | completed {index session} : Runs console client arena index [] session [] .completed session
  | ended {index statement rest session event? outcome later}
    (step : Advance console client arena index statement session event? (some outcome) later)
    : Runs console client arena index (statement :: rest) session event?.toList outcome later
  | next {index statement rest session event later log outcome final}
    (step : Advance console client arena index statement session (some event) none later)
    (tail : Runs console client arena (index + 1) rest later log outcome final)
    : Runs console client arena index (statement :: rest) session (event :: log) outcome final

/-- Every run is such a chain, by induction on the statements.
Witness: the first statement is dealt with in one of the ways, and either ends the run or leaves a
session that the rest goes on from.
-/
theorem exists_runs (console : Console ω) (client : Client ω) (arena : Arena) (index : Nat)
    (statements : List SourceStatement) (session : Session ω)
    : ∃ log outcome final,
        Runs console client arena index statements session log outcome final := by
  induction statements generalizing index session with
  | nil => exact ⟨_, _, _, .completed⟩
  | cons statement rest ih =>
      obtain ⟨event?, outcome?, later, step⟩ :=
        exists_advance console client arena index statement session
      cases outcome? with
      | some outcome => exact ⟨_, _, _, .ended step⟩
      | none =>
          obtain ⟨log, outcome, final, tail⟩ := ih (index + 1) later
          obtain ⟨event, rfl⟩ : ∃ event, event? = some event := by cases step <;> exact ⟨_, rfl⟩
          exact ⟨_, _, _, .next step tail⟩

namespace Runs

variable {index : Nat} {statements : List SourceStatement} {session final : Session ω}
  {log : List (Event ω)} {outcome : RunOutcome}

/-- The chain is what the console does. -/
theorem runFrom_eq
    (runs : Runs console client arena index statements session log outcome final)
    : runFrom console client arena index statements session = (outcome, final) := by
  induction runs with
  | completed => rfl
  | ended step => exact step.runFrom_cons _
  | next step _ ih => exact (step.runFrom_cons _).trans ih

/-- The log of a run is what its steps report, by induction on the run. -/
theorem log_eq (runs : Runs console client arena index statements session log outcome final)
    : final.log = session.log ++ log := by
  induction runs with
  | completed => simp
  | ended step => exact step.log_eq
  | next step _ ih => simp [ih, step.log_eq]

/-- A run keeps what its steps keep.
Witness: by induction on the run; every step is about one of its statements.
-/
theorem keeps (holds : Session ω → Prop)
    (runs : Runs console client arena index statements session log outcome final)
    (steps
      : ∀ {index statement session event? outcome? later}, statement ∈ statements
        → Advance console client arena index statement session event? outcome? later
        → holds session
        → holds later)
    (start : holds session)
    : holds final := by
  induction runs with
  | completed => exact start
  | ended step => exact steps (by simp) step start
  | next step _ ih =>
      exact ih (fun member => steps (List.mem_cons_of_mem _ member)) (steps (by simp) step start)

/-- A run gets stuck in one of its statements, among lambdas that are still rooted; induction on the
run.
-/
theorem exists_stuck {kind : Arena → Prop} (closed : ∀ arena, kind arena → arena.Closed)
    {stop : Stop}
    (runs : Runs console client arena index statements session log (.stuck stop) final)
    (own : kind arena) (roots : ∀ statement ∈ statements, arena.Holds (.stmt statement.root))
    (heap : session.state.heap.Rooted kind)
    : ∃ (machine : Machine ω) (state : State ω) (root : StmtId),
        arena.Holds (.stmt root)
        ∧ state.heap.Rooted kind
        ∧ (∀ error, stop ≠ .error error)
        ∧ ((machine.run (Machine.fuelFor arena state) (.exec arena root)).run state).1
          = .error stop := by
  generalize same : RunOutcome.stuck stop = outcome at runs
  induction runs with
  | completed => cases same
  | ended step =>
      cases step with
      | stuck _ _ ran abnormal =>
          cases same
          exact ⟨_, _, _, roots _ (by simp), heap, abnormal, congrArg Prod.fst ran⟩
      | _ => cases same
  | next step _ ih =>
      refine ih (fun statement member => roots statement (List.mem_cons_of_mem _ member)) ?_ same
      exact step.rooted closed ⟨own, roots _ (by simp)⟩ heap

end Runs

end Session

-----------------------------------------------------------------------------------------
-- Consoles
-----------------------------------------------------------------------------------------

namespace Console

/-- The session in which a run starts. -/
def opened (console : Console ω) : Session ω := { state := console.state console.context.reset }

variable {console : Console ω} {client : Client ω} {unit : SourceUnit} {log : List (Event ω)}
  {outcome : RunOutcome} {final : Session ω}

/-- A run of a unit is a run of its statements, after which the session is closed. -/
theorem run_eq
    (runs
      : Session.Runs console client unit.arena 0 unit.statements console.opened log outcome final)
    : console.run client unit = (outcome, console.close client final) := by
  have ran := runs.runFrom_eq
  rw [opened] at ran
  simp only [run, ran]

/-- A run keeps what its statements keep.
Witness: it is a chain of steps, and between the statements there is only output.
-/
theorem run_keeps {holds : State ω → Prop} (outward : Session.Outward holds)
    (start : holds console.opened.state)
    (exec
      : ∀ statement ∈ unit.statements, ∀ (machine : Machine ω) (state : State ω), holds state
        → holds (((machine.exec unit.arena statement.root).run state).2.withBreak false))
    : ∃ state, holds state ∧ (console.run client unit).2.2 = console.withState state := by
  obtain ⟨log, outcome, final, runs⟩ :=
    Session.exists_runs console client unit.arena 0 unit.statements console.opened
  have kept : holds final.state :=
    runs.keeps (holds ·.state)
      (fun member step start => step.keeps outward (exec _ member _ _ start) start) start
  rw [run_eq runs]
  exact outward.close kept

/-- The invocation of a lambda gives what the evaluation gives. -/
theorem invokeCallback_fst (console : Console ω) (client : Client ω) (closure : Closure)
    (args : List Value)
    : ∃ machine : Machine ω,
        (console.invokeCallback client closure args).1
        = ((machine.apply closure args).run (console.state console.context)).1 := by
  let session : Session ω := { state := console.state console.context }
  refine ⟨session.machine console client, ?_⟩
  unfold invokeCallback Session.evaluate
  rfl

/-- The invocation of a lambda keeps what the evaluation keeps.
Witness: the evaluation runs in the console's own context, and afterwards there is only output.
-/
theorem invokeCallback_keeps {holds : State ω → Prop} (outward : Session.Outward holds)
    {closure : Closure} {args : List Value}
    (apply
      : ∀ machine : Machine ω,
          holds ((machine.apply closure args).run (console.state console.context)).2)
    : ∃ state, holds state
        ∧ (console.invokeCallback client closure args).2.2 = console.withState state := by
  let session : Session ω := { state := console.state console.context }
  have kept
      : holds
          (session.evaluate console client fun machine => machine.apply closure args).2.state :=
    outward.evaluate apply
  unfold invokeCallback
  dsimp only
  split
  · exact outward.close (outward.reportException kept _)
  · exact outward.close kept

/-- Closing a session tells the client about no statement. -/
theorem statementEvents_close (session : Session ω)
    : statementEvents (console.close client session).1 = session.log := by
  rw [← Session.log_act session fun machine state => machine.flush state]
  exact List.filter_reverse

end Console

end Scratchpad
