import Scratchpad.Host.Sample
import Scratchpad.Proofs.Console.Runs
import Scratchpad.Proofs.Eval.BreakDiscipline
import Scratchpad.Proofs.Eval.FrameKeeping
import Scratchpad.Proofs.Eval.NameTables
import Scratchpad.Proofs.Name.Interning

/-! Histories of a console. Whatever it has been asked for, and however that ended, a console is
left with its root frame, without a pending break and with its own receiver, so that the next run
depends on the heap, the world and the texts of names alone.
-/

namespace Scratchpad

variable {ω : Type}

/-- What can happen to a console from outside. -/
inductive Request (ω : Type) where
  | run (client : Client ω) (unit : SourceUnit)
  /-- The invocation of a lambda. -/
  | call (client : Client ω) (closure : Closure) (args : List Value)
  | read (text : String)
  | cancel
  /-- A new name, for units to come. -/
  | intern (text : String)
  /-- The host acts on its own account. -/
  | host (action : HostAction ω Unit)

namespace Console

/-- The console after a request. -/
def serve (console : Console ω) : Request ω → Console ω
  | .run client unit => (console.run client unit).2.2
  | .call client closure args => (console.invokeCallback client closure args).2.2
  | .read text => (console.readVariable text).2
  | .cancel => console.cancel
  | .intern text => { console with names := (console.names.intern text).2 }
  | .host action =>
    let response := action console.heap console.world
    { console with heap := response.heap, world := response.world }

/-- The console after a history of requests. -/
def after (console : Console ω) (history : List (Request ω)) : Console ω :=
  history.foldl serve console

/-- A console that was made with the given host, limits and receiver, after some history. -/
def Reached (host : Host ω) (limits : Limits) (receiver : Value) (console : Console ω) : Prop :=
  ∃ names heap world history,
    console = (fresh names host limits receiver heap world).after history

end Console

-----------------------------------------------------------------------------------------
-- Between requests
-----------------------------------------------------------------------------------------

/-- A context at rest: nothing of an evaluation is left in it but the variables of the root. -/
structure Context.Settled (receiver : Value) (limit : Nat) (context : Context) : Prop where
  this : context.this = receiver
  depth : context.vars.depth = 1
  limit : context.vars.limit = limit
  calm : context.breakPending = false

namespace Context.Settled

variable {receiver : Value} {limit : Nat}

/-- A fresh context is at rest: its receiver is there, only the root frame, and no break. -/
theorem fresh (limits : Limits)
    : (Context.fresh limits receiver).Settled receiver (max limits.frames 1) :=
  ⟨rfl, rfl, rfl, rfl⟩

/-- Resetting a context at rest leaves it at rest. -/
theorem reset {context : Context} (settled : context.Settled receiver limit)
    : context.reset.Settled receiver limit :=
  ⟨settled.this, rfl, settled.limit, rfl⟩

/-- An evaluation that kept the frames leaves a context at rest, if no break is pending. -/
theorem framed {state later : State ω} (settled : state.context.Settled receiver limit)
    (framed : state.Framed later) (calm : later.context.breakPending = false)
    : later.context.Settled receiver limit where
  this := framed.this.trans settled.this
  depth := framed.vars.depth.trans settled.depth
  limit := framed.vars.limit.trans settled.limit
  calm := calm

/-- Output does not touch what it means to be at rest. -/
theorem outward : Session.Outward fun state : State ω => state.context.Settled receiver limit :=
  fun _ settled _ => { settled with }

/-- A statement of a run leaves the context at rest, once a break is forgotten. -/
theorem exec {state : State ω} (settled : state.context.Settled receiver limit)
    (m : Machine ω) (arena : Arena) (root : StmtId)
    : (((m.exec arena root).run state).2.withBreak false).context.Settled receiver limit := by
  rw [Machine.run_exec]
  generalize Machine.fuelFor arena state = fuel
  have framed := (Coupling.framed_run m fuel state (.exec arena root)).keeps (.refl state)
  exact settled.framed (framed.1.trans (.withBreak _ false)) rfl

/-- An invocation of a lambda leaves the context at rest.
Witness: an invocation leaves the frames as they were, and lets no break out.
-/
theorem apply {state : State ω} (settled : state.context.Settled receiver limit)
    (m : Machine ω) (closure : Closure) (args : List Value)
    : ((m.apply closure args).run state).2.context.Settled receiver limit := by
  rw [Machine.run_apply]
  generalize Machine.fuelFor closure.arena state = fuel
  have framed := Coupling.framed_invoke (m := m) (Coupling.framed_run m fuel) state closure args
  have calm := Coupling.calm_invoke m (m.run fuel) closure args
  exact settled.framed (framed.keeps (.refl state)).1 (calm.keeps settled.calm).1

end Context.Settled

/-- A console at rest, with what it was made with. -/
structure Console.Settled (host : Host ω) (limits : Limits) (receiver : Value)
    (console : Console ω)
    : Prop where
  context : console.context.Settled receiver (max limits.frames 1)
  host : console.host = host
  limits : console.limits = limits

namespace Console

variable {host : Host ω} {limits : Limits} {receiver : Value} {console : Console ω}

/-- Every request leaves a console at rest.
Witness: by cases on the request: statements and lambdas keep the frames, and the others touch names
or nothing.
-/
theorem Settled.serve (settled : console.Settled host limits receiver) (request : Request ω)
    : (console.serve request).Settled host limits receiver := by
  have outward := @Context.Settled.outward ω receiver (max limits.frames 1)
  cases request with
  | run client unit =>
      obtain ⟨state, later, same⟩ := run_keeps outward settled.context.reset
        fun statement _ machine state start => start.exec machine unit.arena statement.root
      rw [Console.serve, same]
      exact ⟨later, settled.host, settled.limits⟩
  | call client closure args =>
      obtain ⟨state, later, same⟩ := invokeCallback_keeps outward fun machine =>
        settled.context.apply machine closure args
      rw [Console.serve, same]
      exact ⟨later, settled.host, settled.limits⟩
  | read text => exact ⟨settled.context, settled.host, settled.limits⟩
  | cancel => exact ⟨{ settled.context with }, settled.host, settled.limits⟩
  | intern text => exact ⟨settled.context, settled.host, settled.limits⟩
  | host action => exact ⟨settled.context, settled.host, settled.limits⟩

/-- Every history leaves a console at rest, by induction on it. -/
theorem Settled.after (settled : console.Settled host limits receiver)
    (history : List (Request ω))
    : (console.after history).Settled host limits receiver := by
  induction history generalizing console with
  | nil => exact settled
  | cons request rest ih => exact ih (settled.serve request)

/-- Whatever a console was reached by, it is at rest, by what each request leaves. -/
theorem Reached.settled (reached : console.Reached host limits receiver)
    : console.Settled host limits receiver := by
  obtain ⟨names, heap, world, history, rfl⟩ := reached
  have start : (fresh names host limits receiver heap world).Settled host limits receiver :=
    ⟨.fresh limits, rfl, rfl⟩
  exact start.after history

end Console

-----------------------------------------------------------------------------------------
-- Names
-----------------------------------------------------------------------------------------

namespace Console

/-- No request makes a table forget a name, and only two of them add one. -/
theorem grows_serve (console : Console ω) (request : Request ω)
    : console.names.Grows (console.serve request).names := by
  cases request with
  | read text => exact .intern _ text
  | intern text => exact .intern _ text
  | _ => exact .refl _

/-- No history changes the text of a name, by induction on it. -/
theorem grows_after (console : Console ω) (history : List (Request ω))
    : console.names.Grows (console.after history).names := by
  induction history generalizing console with
  | nil => exact .refl _
  | cons request rest ih => exact (console.grows_serve request).trans (ih _)

end Console

-----------------------------------------------------------------------------------------
-- Independence of the history
-----------------------------------------------------------------------------------------

namespace Session

variable {console other : Console ω} {client : Client ω} {arena : Arena}

/-- A step goes the same way on a console with another table of names, if the tables agree on the
names in reach; and they still do afterwards.
-/
theorem Advance.transfer (host : other.host = console.host)
    (limits : other.limits = console.limits)
    (agree : Interner.AgreeOn arena.names console.names other.names) {index : Nat}
    {statement : SourceStatement} {session later : Session ω} {event? : Option (Event ω)}
    {outcome? : Option RunOutcome}
    (step : Advance console client arena index statement session event? outcome? later)
    (heap : session.state.heap.AgreeOn console.names other.names)
    : Advance other client arena index statement session event? outcome? later
      ∧ later.state.heap.AgreeOn console.names other.names := by
  have machine
      : session.machine other client
        = (session.machine console client).withNames other.names := by
    simp only [Session.machine, Machine.withNames, host, limits]
  obtain ⟨same, kept⟩ := (session.machine console client).exec_withNames statement.root agree heap
  have executed
      : session.execute other client arena statement.root
        = session.execute console client arena statement.root := by
    unfold execute evaluate
    rw [machine]
    simp only [same]
  have outward
      : Outward fun state : State ω => state.heap.AgreeOn console.names other.names :=
    fun _ heap _ => heap
  refine ⟨?_, step.keeps outward kept heap⟩
  cases step with
  | cancelled requested => exact .cancelled requested
  | skipped free errors => exact .skipped free errors
  | result free clean ran => exact .result free clean (executed.trans ran)
  | interrupted free clean ran interruption =>
      exact .interrupted free clean (executed.trans ran) interruption
  | failed free clean ran failure => exact .failed free clean (executed.trans ran) failure
  | stuck free clean ran abnormal => exact .stuck free clean (executed.trans ran) abnormal

/-- A run goes the same way on such a console, by induction on it.
Witness: each step goes the same way and leaves a heap on whose names the tables agree.
-/
theorem Runs.transfer (host : other.host = console.host)
    (limits : other.limits = console.limits)
    (agree : Interner.AgreeOn arena.names console.names other.names) {index : Nat}
    {statements : List SourceStatement} {session final : Session ω} {log : List (Event ω)}
    {outcome : RunOutcome}
    (runs : Runs console client arena index statements session log outcome final)
    (heap : session.state.heap.AgreeOn console.names other.names)
    : Runs other client arena index statements session log outcome final := by
  induction runs with
  | completed => exact .completed
  | ended step => exact .ended (step.transfer host limits agree heap).1
  | next step _ ih =>
      obtain ⟨again, later⟩ := step.transfer host limits agree heap
      exact .next again (ih later)

end Session

namespace Console

/-- Between two requests a console has one frame, no pending break and its own receiver. So after
two histories that leave the same heap and the same world, a unit runs alike: it ends alike, tells
its client the same, and leaves the same variables, heap and world. The tables of names need to
agree only on what the unit and the lambdas mention; no history changes the text of a name.
-/
theorem runs_ignore_history (host : Host ω) (limits : Limits) (receiver : Value)
    : (∀ console : Console ω, console.Reached host limits receiver
        → console.context.vars.depth = 1
          ∧ console.context.breakPending = false
          ∧ console.context.this = receiver)
      ∧ (∀ first second : Console ω, first.Reached host limits receiver
        → second.Reached host limits receiver
        → second.heap = first.heap
        → second.world = first.world
        → ∀ (client : Client ω) (unit : SourceUnit),
            Interner.AgreeOn unit.arena.names first.names second.names
            → first.heap.AgreeOn first.names second.names
            → (second.run client unit).1 = (first.run client unit).1
              ∧ (second.run client unit).2.1 = (first.run client unit).2.1
              ∧ (second.run client unit).2.2.context = (first.run client unit).2.2.context
              ∧ (second.run client unit).2.2.heap = (first.run client unit).2.2.heap
              ∧ (second.run client unit).2.2.world = (first.run client unit).2.2.world)
      ∧ ∀ (console : Console ω) (history : List (Request ω)) (name : Name),
          console.names.Knows name
          → (console.after history).names.text name = console.names.text name := by
  refine ⟨fun console reached => ?_, fun first second reached reached' heap world => ?_,
    fun console history name known => (console.grows_after history).text known⟩
  · have settled := reached.settled.context
    exact ⟨settled.depth, settled.calm, settled.this⟩
  · intro client unit agree lambdas
    obtain ⟨context, host, limits⟩ := reached.settled
    obtain ⟨context', host', limits'⟩ := reached'.settled
    have opened : second.opened = first.opened := by
      simp only [Console.opened, Console.state, Context.reset, Variables.reset, context.this,
        context'.this, context.limit, context'.limit, heap, world]
    obtain ⟨log, outcome, final, runs⟩ :=
      Session.exists_runs first client unit.arena 0 unit.statements first.opened
    have again := runs.transfer (host'.trans host.symm) (limits'.trans limits.symm) agree lambdas
    rw [← opened] at again
    rw [run_eq runs, run_eq again]
    exact ⟨rfl, rfl, rfl, rfl, rfl⟩

/-- A console that knows the name `y`. -/
def small : Console SampleHost.World :=
  fresh (.filled ["y"]) SampleHost.host {} .null {} {}

/-- The statement `break;`, which no loop is around. -/
def strayBreak : SourceUnit :=
  { arena := { stmts := #[{ kind := .breakLoop }] }, statements := [{ root := ⟨0⟩ }] }

/-- A lambda that fails, because it reads a variable that is not there. -/
def failing : Closure :=
  {
    params := [⟨2⟩]
    body := .expr ⟨0⟩
    arena := { exprs := #[{ kind := .ident ⟨3⟩ }] }
    captured := {}
    this := .bool true
    shape := ⟨.callback none, "accept"⟩
    target := "java.util.function.Consumer"
  }

/-- The statement `int y = 1;`. -/
def declaration : SourceUnit :=
  {
    arena :=
      {
        exprs := #[{ kind := .literal (.int 1) }]
        stmts := #[{ kind := .varDecl (.primitive .int) [⟨⟨3⟩, some ⟨0⟩⟩] }]
      }
    statements := [{ root := ⟨0⟩ }]
  }

/-- What comes before a declaration: a break outside loops, a failing lambda with a receiver of its
own, a request to cancel, and the query of an unknown variable.
-/
def turmoil : List (Request SampleHost.World) :=
  [
    .run (fun _ => false) strayBreak,
    .call (fun _ => true) failing [.null],
    .cancel,
    .read "x"
  ]

/-- The declaration runs alike at once and after the turmoil, which has added a name.
Witness: the tables agree on the one name of the declaration, which the turmoil has not moved.
-/
theorem declaration_ignores_turmoil
    : (small.after turmoil).names.size = small.names.size + 1
      ∧ (small.after turmoil).heap = small.heap
      ∧ ((small.after turmoil).run (fun _ => false) declaration).1
        = (small.run (fun _ => false) declaration).1
      ∧ ((small.after turmoil).run (fun _ => false) declaration).2.2.context
        = (small.run (fun _ => false) declaration).2.2.context := by
  have reached : small.Reached SampleHost.host {} .null :=
    ⟨.filled ["y"], {}, {}, [], rfl⟩
  have reached' : (small.after turmoil).Reached SampleHost.host {} .null :=
    ⟨.filled ["y"], {}, {}, turmoil, rfl⟩
  have heap : (small.after turmoil).heap = small.heap := by rfl
  have world : (small.after turmoil).world = small.world := by rfl
  obtain ⟨_, alike, stable⟩ := runs_ignore_history SampleHost.host {} .null
  have names
      : Interner.AgreeOn declaration.arena.names small.names (small.after turmoil).names := by
    intro name member
    have mentioned : declaration.arena.names = [⟨3⟩] := rfl
    rw [mentioned] at member
    obtain rfl := List.mem_singleton.mp member
    exact stable small turmoil ⟨3⟩ (by decide)
  have lambdas : small.heap.AgreeOn small.names (small.after turmoil).names := by
    intro closure member
    simp [small, fresh] at member
  obtain ⟨outcome, _, context, _⟩ := alike small (small.after turmoil) reached reached' heap world
    (fun _ => false) declaration names lambdas
  exact ⟨by decide +kernel, heap, outcome, context⟩

end Console

end Scratchpad
