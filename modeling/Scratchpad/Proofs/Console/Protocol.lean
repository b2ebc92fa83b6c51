import Scratchpad.Proofs.Console.Runs
import Scratchpad.Proofs.Eval.Cancellation
import Scratchpad.Proofs.Eval.Termination

/-! What a client is told during a run. There is one event for each statement that was reached, in
order; only the last can be a failure, and it decides the outcome together with how many statements
were reached. A run ends as cancelled only after its client has asked for it.
-/

namespace Scratchpad

variable {ω : Type}

/-- What the events of a run say, in relation to its statements and to its outcome. Whether
cancellation had been requested matters where the statement after the last event would have
started.
-/
structure RunProtocol (statements : List SourceStatement) (log : List (Event ω))
    (outcome : RunOutcome) (requested : Prop)
    : Prop where
  /-- The events are about the statements from the first one on, one event for each. -/
  about : ∀ {i} {event : Event ω}, log[i]? = some event → event.index? = some i
  reached : log.length ≤ statements.length
  /-- Exactly the statements with errors are skipped, with these errors. -/
  skips
    : ∀ {i} {event : Event ω} {statement : SourceStatement}, log[i]? = some event
      → statements[i]? = some statement
      → (event.isSkipped = true ↔ statement.errors ≠ [])
        ∧ (statement.errors ≠ [] → event = .skipped i statement.errors)
  /-- Before the last event, statements that are not skipped have results. -/
  results
    : ∀ {i} {event : Event ω}, log[i]? = some event
      → i + 1 < log.length
      → event.isSkipped = false
      → event.isResult = true
  completed
    : outcome = .completed
      ↔ log.length = statements.length ∧ ∀ event ∈ log, event.isFailed = false
  failed
    : ∀ error, outcome = .failed error
      ↔ log.getLast? = some (.failed (log.length - 1) error) ∧ error.cause.isCancelled = false
  cancelled
    : outcome = .cancelled
      ↔ (∃ error, log.getLast? = some (.failed (log.length - 1) error)
          ∧ error.cause.isCancelled = true)
        ∨ (log.length < statements.length
          ∧ (∀ event ∈ log, event.isFailed = false)
          ∧ requested)

namespace Session

variable {console : Console ω} {client : Client ω} {arena : Arena}

-----------------------------------------------------------------------------------------
-- Events of a run
-----------------------------------------------------------------------------------------

/-- An event is about its statement, and skips it exactly if it has errors. -/
structure Tells (index : Nat) (statement : SourceStatement) (event : Event ω) : Prop where
  about : event.index? = some index
  skips : event.isSkipped = true ↔ statement.errors ≠ []
  errors : statement.errors ≠ [] → event = .skipped index statement.errors

/-- An event tells about the statement that it was reported for, and is a skip exactly for one with
errors.
Witness: by the way the statement was dealt with.
-/
theorem Advance.tells {index : Nat} {statement : SourceStatement} {session later : Session ω}
    {event : Event ω} {outcome? : Option RunOutcome}
    (step : Advance console client arena index statement session (some event) outcome? later)
    : Tells index statement event := by
  cases step with
  | skipped _ errors => exact ⟨rfl, ⟨fun _ => errors, fun _ => rfl⟩, fun _ => rfl⟩
  | result _ clean _ => exact ⟨rfl, by simp [clean, Event.isSkipped], absurd clean⟩
  | interrupted _ clean _ _ => exact ⟨rfl, by simp [clean, Event.isSkipped], absurd clean⟩
  | failed _ clean _ _ => exact ⟨rfl, by simp [clean, Event.isSkipped], absurd clean⟩

/-- A run goes on only after an event that is no failure. -/
theorem Advance.not_failed {index : Nat} {statement : SourceStatement}
    {session later : Session ω} {event : Event ω}
    (step : Advance console client arena index statement session (some event) none later)
    : event.isFailed = false := by
  cases step <;> rfl

/-- An event that is no failure leaves it open whether the last one is.
Witness: behind it is another event, which is then the last, or none, and then it is the last
itself.
-/
theorem getLast?_cons_failed {event : Event ω} (other : event.isFailed = false)
    (log : List (Event ω)) (i : Nat) (error : EvalError)
    : (event :: log).getLast? = some (.failed i error)
      ↔ log.getLast? = some (.failed i error) := by
  cases log with
  | nil =>
      suffices event ≠ .failed i error by simpa
      rintro rfl
      simp [Event.isFailed] at other
  | cons next rest => rw [List.getLast?_cons_cons]

namespace Runs

variable {index : Nat} {statements : List SourceStatement} {session final : Session ω}
  {log : List (Event ω)} {outcome : RunOutcome}

/-- Every event tells about the statement at its position, by induction on the run.
Witness: the first event is that of the first step, and the later ones are those of the rest.
-/
theorem tells (runs : Runs console client arena index statements session log outcome final)
    {i : Nat} {event : Event ω} (told : log[i]? = some event)
    : ∃ statement, statements[i]? = some statement ∧ Tells (index + i) statement event := by
  induction runs generalizing i with
  | completed => simp at told
  | @ended _ statement _ _ event? _ _ step =>
      cases event? with
      | none => simp at told
      | some last =>
          obtain ⟨rfl, rfl⟩ : i = 0 ∧ last = event := by simpa [List.getElem?_cons] using told
          exact ⟨statement, rfl, step.tells⟩
  | @next _ statement _ _ _ _ _ _ _ step _ ih =>
      cases i with
      | zero =>
          obtain rfl := Option.some.inj told
          exact ⟨statement, rfl, step.tells⟩
      | succ i =>
          obtain ⟨later, found, tells⟩ := ih told
          exact ⟨later, found, by rwa [Nat.add_assoc, Nat.add_comm 1 i] at tells⟩

/-- There are no more events than statements, since each tells about one of them. -/
theorem length_le (runs : Runs console client arena index statements session log outcome final)
    : log.length ≤ statements.length := by
  by_contra more
  obtain ⟨event, told⟩ : ∃ event, log[statements.length]? = some event :=
    ⟨_, List.getElem?_eq_getElem (Nat.lt_of_not_le more)⟩
  obtain ⟨statement, found, _⟩ := runs.tells told
  simp at found

/-- Only the last event can be a failure.
Witness: by induction on the run; a step that goes on has not failed, and one that ends it is the
last.
-/
theorem not_failed (runs : Runs console client arena index statements session log outcome final)
    {i : Nat} {event : Event ω} (told : log[i]? = some event) (before : i + 1 < log.length)
    : event.isFailed = false := by
  induction runs generalizing i with
  | completed => simp at told
  | @ended _ _ _ _ event? _ _ _ => cases event? <;> simp at before
  | next step _ ih =>
      cases i with
      | zero =>
          obtain rfl := Option.some.inj told
          exact step.not_failed
      | succ i => exact ih told (by simpa using before)

/-- A run is completed exactly if every statement had its event and none was a failure.
Witness: by induction on the run; what ends it early reports a failure or nothing.
-/
theorem completed_iff
    (runs : Runs console client arena index statements session log outcome final)
    : outcome = .completed
      ↔ log.length = statements.length ∧ ∀ event ∈ log, event.isFailed = false := by
  induction runs with
  | completed => simp
  | ended step => cases step <;> simp [Event.isFailed]
  | next step _ ih => simp [ih, step.not_failed]

/-- A run has failed exactly if its last event is that failure and no cancellation.
Witness: by induction on the run; a failure ends it, and an event that is none changes nothing.
-/
theorem failed_iff (runs : Runs console client arena index statements session log outcome final)
    (error : EvalError)
    : outcome = .failed error
      ↔ (∃ i, log.getLast? = some (.failed i error)) ∧ error.cause.isCancelled = false := by
  induction runs with
  | completed => simp
  | ended step =>
      cases step with
      | interrupted _ _ _ interruption =>
          simp only [Option.toList_some, List.getLast?_singleton, Option.some.injEq,
            Event.failed.injEq, reduceCtorEq, false_iff]
          rintro ⟨⟨_, _, rfl⟩, failure⟩
          simp [interruption] at failure
      | failed _ _ _ failure =>
          simp only [Option.toList_some, List.getLast?_singleton, Option.some.injEq,
            Event.failed.injEq, RunOutcome.failed.injEq]
          constructor
          · rintro rfl
            exact ⟨⟨_, rfl, rfl⟩, failure⟩
          · rintro ⟨⟨_, _, same⟩, _⟩
            exact same
      | _ => simp
  | next step _ ih => simp only [ih, getLast?_cons_failed step.not_failed]

/-- A run is cancelled inside a statement or before one; in the latter case the request was there
when that statement would have started, which is after the statements with events.
-/
theorem cancelled_iff
    (runs : Runs console client arena index statements session log outcome final)
    : outcome = .cancelled
      ↔ (∃ error, (∃ i, log.getLast? = some (.failed i error))
          ∧ error.cause.isCancelled = true)
        ∨ (log.length < statements.length
          ∧ (∀ event ∈ log, event.isFailed = false)
          ∧ (runFrom console client arena index (statements.take log.length)
              session).2.state.context.cancelled = true) := by
  induction runs with
  | completed => simp
  | ended step =>
      cases step with
      | cancelled requested => simp [runFrom, requested]
      | interrupted _ _ _ interruption =>
          simp only [Option.toList_some, List.getLast?_singleton, Option.some.injEq,
            Event.failed.injEq, true_iff]
          exact .inl ⟨_, ⟨_, rfl, rfl⟩, interruption⟩
      | failed _ _ _ failure =>
          simp only [Option.toList_some, List.getLast?_singleton, Option.some.injEq,
            Event.failed.injEq, reduceCtorEq, false_iff]
          rintro (⟨_, ⟨_, _, rfl⟩, interruption⟩ | ⟨_, quiet, _⟩)
          · simp [failure] at interruption
          · simp [Event.isFailed] at quiet
      | stuck free _ _ _ => simp [runFrom, free]
  | next step _ ih =>
      simp only [ih, getLast?_cons_failed step.not_failed, List.length_cons, List.take_succ_cons,
        step.runFrom_cons, List.forall_mem_cons, step.not_failed, true_and,
        Nat.add_lt_add_iff_right]

/-- The outcome and the events follow the protocol.
Witness: the position of an event is its index, and the outcome is read off the last event.
-/
theorem protocol (runs : Runs console client arena 0 statements session log outcome final)
    : RunProtocol statements log outcome
        ((runFrom console client arena 0 (statements.take log.length)
          session).2.state.context.cancelled = true) := by
  have about {i : Nat} {event : Event ω} (told : log[i]? = some event)
      : event.index? = some i := by
    obtain ⟨_, _, tells⟩ := runs.tells told
    simpa using tells.about
  -- The position of the last event is its index.
  have last (error : EvalError)
      : (∃ i, log.getLast? = some (.failed i error))
        ↔ log.getLast? = some (.failed (log.length - 1) error) := by
    refine ⟨fun ⟨i, found⟩ => ?_, fun found => ⟨_, found⟩⟩
    obtain rfl : i = log.length - 1 := by
      rw [List.getLast?_eq_getElem?] at found
      simpa [Event.index?] using about found
    exact found
  refine {
    about
    reached := runs.length_le
    skips := fun told found => ?_
    results := fun {i event} told before other => ?_
    completed := runs.completed_iff
    failed := fun error => by rw [runs.failed_iff error, last]
    cancelled := by simp only [runs.cancelled_iff, last]
  }
  · obtain ⟨statement, same, tells⟩ := runs.tells told
    obtain rfl := Option.some.inj (same.symm.trans found)
    rw [Nat.zero_add] at tells
    exact ⟨tells.skips, tells.errors⟩
  · have index := about told
    have quiet := runs.not_failed told before
    cases event with
    | result => rfl
    | failed => simp [Event.isFailed] at quiet
    | skipped => simp [Event.isSkipped] at other
    | line => simp [Event.index?] at index

-----------------------------------------------------------------------------------------
-- Statements that are not executed
-----------------------------------------------------------------------------------------

/-- A run does not depend on statements without an event, nor on the roots of skipped ones; by
induction on the run.
-/
theorem congr {others : List SourceStatement}
    (runs : Runs console client arena index statements session log outcome final)
    (length : others.length = statements.length)
    (alike
      : ∀ i < log.length, ∀ statement other, statements[i]? = some statement
        → others[i]? = some other
        → statement.Alike other)
    (normal : ∀ stop, outcome ≠ .stuck stop)
    : Runs console client arena index others session log outcome final := by
  induction runs generalizing others with
  | completed =>
      obtain rfl := List.length_eq_zero_iff.mp length
      exact .completed
  | ended step =>
      obtain ⟨other, rest, rfl⟩ := List.exists_cons_of_length_eq_add_one length
      refine .ended (step.congr (fun stop same => normal stop (Option.some.inj same)) ?_)
      intro told
      refine alike 0 ?_ _ _ rfl rfl
      obtain ⟨event, rfl⟩ := Option.isSome_iff_exists.mp told
      simp
  | next step _ ih =>
      obtain ⟨other, rest, rfl⟩ := List.exists_cons_of_length_eq_add_one length
      refine .next (step.congr (by simp) fun _ => alike 0 (by simp) _ _ rfl rfl) ?_
      refine ih (by simpa using length) (fun i before statement other found same => ?_) normal
      exact alike (i + 1) (by simpa using before) statement other found same

-----------------------------------------------------------------------------------------
-- Sound units
-----------------------------------------------------------------------------------------

/-- Statements of a sound arena do not get stuck among sound lambdas, because they end.
Witness: a run gets stuck only in an evaluation that does not end normally, on enough fuel.
-/
theorem not_stuck (runs : Runs console client arena index statements session log outcome final)
    (sound : arena.Sound) (roots : ∀ statement ∈ statements, arena.Holds (.stmt statement.root))
    (heap : session.state.heap.Rooted Arena.Sound) (stop : Stop)
    : outcome ≠ .stuck stop := by
  rintro rfl
  obtain ⟨machine, state, root, held, lambdas, abnormal, stuck⟩ :=
    runs.exists_stuck (fun _ sound => sound.closed) sound roots heap
  obtain ⟨result, later, ends⟩ := machine.ends_of_sound (.exec arena root) sound held
    fun closure member => ⟨(lambdas closure member).arena, (lambdas closure member).body⟩
  rw [ends (Machine.fuelFor arena state) le_rfl] at stuck
  cases result with
  | error error => exact abnormal error (Except.error.inj stuck).symm
  | ok value => cases stuck

end Runs

-----------------------------------------------------------------------------------------
-- Requests to cancel
-----------------------------------------------------------------------------------------

/-- Between statements, the flag is set exactly if the client has asked to cancel, and the client
has been told all printed lines.
-/
structure Heeds (client : Client ω) (session : Session ω) : Prop where
  lines : session.state.printout.lines = []
  asked : session.state.context.cancelled = true ↔ Asked client session.events

namespace Heeds

variable {session : Session ω} (heeds : session.Heeds client)

include heeds

/-- A report asks the client once more, and the flag notes its answer. -/
theorem report (event : Event ω) : (session.report client event).Heeds client := by
  refine ⟨heeds.lines, ?_⟩
  show (session.state.context.cancelled || client (event :: session.events)) = true
    ↔ Asked client (event :: session.events)
  rw [Bool.or_eq_true, heeds.asked, asked_cons]
  exact or_comm

/-- Dropping a break changes neither the flag nor the events. -/
theorem dropBreak : session.dropBreak.Heeds client := ⟨heeds.lines, heeds.asked⟩

/-- What happens to the machine of a session starts with nothing asked. -/
theorem output
    : session.state.output.Heeds (session.machine console client)
        session.state.context.cancelled := by
  show session.state.context.cancelled = true ↔ _ ∨ Asked _ session.state.printout.lines
  rw [heeds.lines]
  simp [not_asked_nil]

/-- The lines that a machine has delivered become events, and its observer is the client.
Witness: who is told lines one by one asks for what the client asks when it is told them behind the
events.
-/
theorem collectLines (console : Console ω) {state : State ω}
    (later
      : state.output.Heeds (session.machine console client) session.state.context.cancelled)
    : (Session.collectLines { session with state }).Heeds client := by
  refine ⟨rfl, ?_⟩
  show state.context.cancelled = true
    ↔ Asked client (state.printout.lines.map .line ++ session.events)
  rw [asked_append, ← heeds.asked]
  exact later

/-- A statement is cancelled on request only. -/
theorem execute (console : Console ω) (arena : Arena) (root : StmtId)
    : (session.execute console client arena root).2.Heeds client
      ∧ ∀ error, (session.execute console client arena root).1 = .error (.error error)
        → error.cause.isCancelled = true
        → (session.execute console client arena root).2.state.context.cancelled = true := by
  obtain ⟨later, stops⟩ := (Coupling.heedful_run (session.machine console client)
    session.state.context.cancelled (Machine.fuelFor arena session.state)
    (.exec arena root)).keeps heeds.output
  exact ⟨heeds.collectLines console later, fun error same => stops _ same error rfl⟩

/-- Printing an exception asks the client about the lines that are printed. -/
theorem reportException (error : EvalError)
    : (session.reportException console client error).Heeds client := by
  unfold Session.reportException
  split
  · next exception _ =>
    obtain ⟨output, prints, printed⟩ := (session.machine console client).exists_print
      session.state .err (exception.display ++ "\n")
    refine heeds.collectLines console ?_
    dsimp only
    rw [printed]
    exact prints.heeds heeds.output
  · exact heeds

end Heeds

variable {index : Nat} {statement : SourceStatement} {session later : Session ω}

/-- A step leaves the flag set exactly if the client has asked, as evaluation and reports do. -/
theorem Advance.heeds {event? : Option (Event ω)} {outcome? : Option RunOutcome}
    (step : Advance console client arena index statement session event? outcome? later)
    (heeds : session.Heeds client)
    : later.Heeds client :=
  step.preserves (·.Heeds client) (heeds.execute console arena statement.root).1.dropBreak
    (fun error kept => kept.reportException error) (fun event kept => kept.report event) heeds

/-- A step that ends a run as cancelled leaves the request standing.
Witness: either the request stood before the step, or its evaluation was cancelled, which happens on
request only.
-/
theorem Advance.requested {event? : Option (Event ω)}
    (step
      : Advance console client arena index statement session event? (some .cancelled) later)
    (heeds : session.Heeds client)
    : later.state.context.cancelled = true := by
  cases step with
  | cancelled requested => exact requested
  | @interrupted error later _ _ ran interruption =>
      obtain ⟨_, onRequest⟩ := heeds.execute console arena statement.root
      rw [ran] at onRequest
      have requested : later.state.context.cancelled = true := onRequest error rfl interruption
      show (later.state.context.cancelled || _) = true
      rw [requested, Bool.true_or]

namespace Runs

variable {statements : List SourceStatement} {final : Session ω} {log : List (Event ω)}
  {outcome : RunOutcome}

/-- A run leaves the flag set exactly if the client has asked, since each of its steps does. -/
theorem heeds (runs : Runs console client arena index statements session log outcome final)
    (start : session.Heeds client)
    : final.Heeds client :=
  runs.keeps (·.Heeds client) (fun _ step heeds => step.heeds heeds) start

/-- A cancelled run was asked for by the client, by induction on the run to the step that ended it.
-/
theorem asked (runs : Runs console client arena index statements session log .cancelled final)
    (start : session.Heeds client)
    : Asked client final.events := by
  refine (runs.heeds start).asked.mp ?_
  generalize same : RunOutcome.cancelled = outcome at runs
  induction runs with
  | completed => cases same
  | ended step =>
      cases same
      exact step.requested start
  | next step _ ih => exact ih (step.heeds start) same

end Runs

end Session

-----------------------------------------------------------------------------------------
-- Runs of a console
-----------------------------------------------------------------------------------------

namespace Console

/-- At the start nothing has been told, so the client has not asked and the flag is not set. -/
theorem opened_heeds (console : Console ω) (client : Client ω) : console.opened.Heeds client :=
  ⟨rfl, by simp [opened, state, Context.reset, not_asked_nil]⟩

/-- What the client is told about the statements of a unit. -/
def log (console : Console ω) (client : Client ω) (unit : SourceUnit) : List (Event ω) :=
  statementEvents (console.run client unit).2.1

/-- The session after the first so many statements of a unit. -/
def sessionAfter (console : Console ω) (client : Client ω) (unit : SourceUnit) (count : Nat)
    : Session ω :=
  (Session.runFrom console client unit.arena 0 (unit.statements.take count) console.opened).2

/-- Every run follows the protocol, and cancellation is up to the client: between statements it is
requested exactly if the client has asked for it during this run, and the run ends as cancelled only
then. What a run does not report on is not executed, so that it could be anything else, and the same
holds for the roots of skipped statements. A sound unit does not get stuck among sound lambdas.
-/
theorem run_protocol (console : Console ω) (client : Client ω) (unit : SourceUnit)
    : RunProtocol unit.statements (console.log client unit) (console.run client unit).1
        ((console.sessionAfter client unit
          (console.log client unit).length).state.context.cancelled = true)
      ∧ (∀ others : List SourceStatement, others.length = unit.statements.length
        → (∀ i < (console.log client unit).length, ∀ statement other,
          unit.statements[i]? = some statement
          → others[i]? = some other
          → statement.Alike other)
        → (∀ stop, (console.run client unit).1 ≠ .stuck stop)
        → console.run client { unit with statements := others } = console.run client unit)
      ∧ (∀ count,
        (console.sessionAfter client unit count).state.context.cancelled = true
        ↔ Asked client (console.sessionAfter client unit count).events)
      ∧ ((console.run client unit).1 = .cancelled
        → Asked client (console.run client unit).2.1.reverse)
      ∧ (unit.Rooted Arena.Sound
        → console.heap.Rooted Arena.Sound
        → ∀ stop, (console.run client unit).1 ≠ .stuck stop) := by
  obtain ⟨log, outcome, final, runs⟩ :=
    Session.exists_runs console client unit.arena 0 unit.statements console.opened
  have ran : console.run client unit = (outcome, console.close client final) := run_eq runs
  have told : console.log client unit = log := by
    rw [Console.log, ran, statementEvents_close, runs.log_eq]
    rfl
  rw [told, ran]
  refine ⟨runs.protocol, fun others length alike normal => ?_, fun count => ?_, ?_, ?_⟩
  · have same : Session.Runs console client unit.arena 0 others console.opened log outcome final :=
      runs.congr length alike normal
    exact run_eq same
  · obtain ⟨_, _, _, first⟩ := Session.exists_runs console client unit.arena 0
      (unit.statements.take count) console.opened
    have heeds := first.heeds (console.opened_heeds client)
    rw [sessionAfter, first.runFrom_eq]
    exact heeds.asked
  · rintro rfl
    show Asked client (List.reverse (List.reverse _))
    rw [List.reverse_reverse]
    exact (asked_append _ _).mpr (.inl (runs.asked (console.opened_heeds client)))
  · intro sound heap
    exact runs.not_stuck sound.arena sound.roots heap

end Console

end Scratchpad
