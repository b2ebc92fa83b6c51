import Scratchpad.Proofs.Eval.Placing
import Scratchpad.Proofs.Eval.RaisedLimits
import Scratchpad.Proofs.Eval.SampleSimulation
import Scratchpad.Proofs.Eval.StatementSimulation

/-! Spans only decorate errors, and the innermost one wins. A program with other spans does the
same, up to the places of its errors. Which nodes are being evaluated is kept in the world of a
second run that watches the first; where an error arises, the innermost of them that has a span
gives it its place.
-/

namespace Scratchpad

variable {ω α : Type}

-----------------------------------------------------------------------------------------
-- Without spans
-----------------------------------------------------------------------------------------

/-- No span is real. -/
abbrev nowhere : Span → Span := fun _ => .dummy

/-- A stop without the place that was noted on it. -/
def Stop.unplaced : Stop → Stop
  | .error failure => .error { cause := failure.cause }
  | stop => stop

/-- Noting a place on a stop is undone by forgetting places. -/
theorem Stop.unplaced_withSpan (span : Span) (stop : Stop)
    : (stop.withSpan span).unplaced = stop.unplaced := by
  cases stop with
  | error error =>
      simp only [withSpan, unplaced, EvalError.withSpan]
      split
      · rfl
      · rfl
  | _ => rfl

/-- How a run ended, without any spans. -/
def unplacedEnd (ended : Except Stop Value × State ω) : Except Stop Value × State ω :=
  (ended.1.mapError Stop.unplaced, ended.2.mapSpans nowhere)

namespace Correspondence

/-- Two runs in one world, of programs that differ in their spans only. -/
def anywhere : Correspondence ω ω where
  toLikeness := .exactly nowhere
  Worlds := fun world world' => world' = world
  Stops := fun world world' stop stop' => world' = world ∧ stop.unplaced = stop'.unplaced

/-- States correspond anywhere if they are equal once all places are forgotten. -/
theorem anywhere_related {first second : State ω}
    : anywhere.Related first second ↔ first.mapSpans nowhere = second.mapSpans nowhere := by
  obtain ⟨context, heap, world, printout⟩ := first
  obtain ⟨context', heap', world', printout'⟩ := second
  rw [State.mapSpans, State.mapSpans, State.mk.injEq]
  constructor
  · rintro ⟨states, world⟩
    obtain ⟨contexts, heaps, printouts⟩ := Likeness.exactly_states.mp states
    exact ⟨contexts, heaps, world.symm, printouts⟩
  · rintro ⟨contexts, heaps, worlds, printouts⟩
    exact ⟨Likeness.exactly_states.mpr ⟨contexts, heaps, printouts⟩, worlds.symm⟩

/-- Whatever is noted on two stops, they are the same once places are forgotten. -/
theorem anywhere_places : (anywhere : Correspondence ω ω).Places := by
  intro span span' world world' stop stop' _ stops
  refine ⟨stops.1, ?_⟩
  rw [Stop.unplaced_withSpan, Stop.unplaced_withSpan]
  exact stops.2

/-- Running out of fuel is the same on both sides. -/
theorem anywhere_spent {world world' : ω} (same : anywhere.Worlds world world')
    : anywhere.Stops world world' .outOfFuel .outOfFuel :=
  ⟨same, rfl⟩

/-- Outcomes that correspond anywhere are equal once places are forgotten. -/
theorem unplacedEnd_eq {first second : Except Stop Value × State ω}
    (outcome : anywhere.Outcome (fun value value' => value' = value) first second)
    : unplacedEnd first = unplacedEnd second := by
  cases outcome with
  | value same related =>
      obtain rfl := same
      exact Prod.ext rfl (anywhere_related.mp related)
  | stop stops states =>
      exact Prod.ext (congrArg Except.error stops.2) (anywhere_related.mp ⟨states, stops.1⟩)

end Correspondence

/-- A host that acts the same on heaps whose lambdas differ in spans only. -/
def Host.IgnoresSpans (host : Host ω) : Prop := Correspondence.anywhere.Hosts host host

/-- Every declaration reads like itself.
Witness: by cases on the declaration.
-/
theorem Correspondence.ReadsAlike.refl (read : Name → String) (decl : Declaration Name)
    : ReadsAlike read read decl decl := by
  cases decl with
  | method decl => exact .method rfl
  | constructor decl => exact .constructor rfl
  | field decl => exact .field rfl rfl
  | «variable» decl => exact .variable
  | classDecl name => exact .classDecl rfl
  | package name => exact .package rfl

namespace Machine

variable (m : Machine ω)

/-- A machine corresponds with itself, wherever nodes are placed, if its host does not look at
places.
-/
theorem anywhere_machines (ignores : m.host.IgnoresSpans)
    : Correspondence.anywhere.Machines m m where
  faithful := Likeness.faithful_exactly nowhere
  text := fun same => by rw [same]
  literal := fun same => by rw [same]
  type := fun same => by rw [same]
  decl := fun {decl decl'} same => by
    obtain rfl : decl = decl' := same
    exact .refl _ decl
  limits := rfl
  observer := rfl
  host := ignores
  fails := fun _ _ _ related => ⟨related, rfl⟩
  dangles := fun related => ⟨related, rfl⟩

end Machine

-----------------------------------------------------------------------------------------
-- Watching a run
-----------------------------------------------------------------------------------------

/-- A world together with the jobs that are being done, the innermost first. -/
structure Watched (ω : Type) where
  world : ω
  opened : List Job

/-- A span, unless it is the one of a node that no text stands for. -/
def Span.real? (span : Span) : Option Span := if span.isDummy then none else some span

/-- Where the node of a job stands, if its span is real. -/
def Job.place? : Job → Option Span
  | .eval arena id _ => (arena.expr? id).bind (·.span.real?)
  | .exec arena id => (arena.stmt? id).bind (·.span.real?)

/-- The real span of the innermost job that has one. -/
def innermost (opened : List Job) : Option Span := opened.findSome? Job.place?

/-- A span is noted on an error that has none, if it is a real one. -/
theorem EvalError.span?_withSpan (error : EvalError) (span : Span)
    : (error.withSpan span).span? = error.span?.or span.real? := by
  obtain ⟨cause, span?⟩ := error
  cases span? with
  | some noted => rfl
  | none =>
      simp only [withSpan, Span.real?, Option.isNone_none, Bool.true_and]
      cases span.isDummy <;> rfl

/-- The state of a run that is being watched. -/
def State.watched (state : State ω) (opened : List Job) : State (Watched ω) :=
  {
    context := state.context
    heap := state.heap
    world := ⟨state.world, opened⟩
    printout := state.printout
  }

/-- An action of a host, which does not know that it is watched. -/
def HostAction.watched (action : HostAction ω α) : HostAction (Watched ω) α :=
  fun heap watched =>
    {
      answer := (action heap watched.world).answer
      world := { watched with world := (action heap watched.world).world }
      heap := (action heap watched.world).heap
      extended := (action heap watched.world).extended
      written := (action heap watched.world).written
    }

def Host.watched (host : Host ω) : Host (Watched ω) where
  className := fun watched => host.className watched.world
  text := fun heap watched => host.text heap watched.world
  field := fun ref name => (host.field ref name).watched
  hasProperties := fun watched => host.hasProperties watched.world
  getProperty := fun ref name => (host.getProperty ref name).watched
  setProperty := fun ref name value => (host.setProperty ref name value).watched
  iterate := fun ref => (host.iterate ref).watched
  resolveClass := fun watched => host.resolveClass watched.world
  newInstance := fun name => (host.newInstance name).watched
  staticField := fun className name => (host.staticField className name).watched
  invokeMethod := fun decl target args => (host.invokeMethod decl target args).watched
  invokeConstructor := fun decl args => (host.invokeConstructor decl args).watched

namespace Machine

/-- The machine of a run that is being watched. -/
def watched (m : Machine ω) : Machine (Watched ω) :=
  { names := m.names, host := m.host.watched, limits := m.limits, observer := m.observer }

/-- Changes which jobs are being done. -/
def reopen (change : List Job → List Job) : Eval (Watched ω) Unit :=
  modify fun state =>
    { state with world := { state.world with opened := change state.world.opened } }

/-- Does a job as a machine does, and keeps track of the jobs that are being done: one more while it
lasts, and after a stop those that were being done then.
-/
def watch (m : Machine ω) : Nat → Job → Eval (Watched ω) Value
  | 0, _ => throw .outOfFuel
  | fuel + 1, job => do
    reopen (job :: ·)
    let value ← m.watched.perform (m.watch fuel) job
    reopen List.tail
    pure value

/-- Changing which jobs are open leaves the rest of a watched state alone. -/
@[simp]
theorem run_reopen (change : List Job → List Job) (state : State ω) (around : List Job)
    : (reopen change).run (state.watched around) = (.ok (), state.watched (change around)) :=
  rfl

/-- While a job is done it is open.
Witness: it is opened before it is performed, and closed only if that gives a value.
-/
theorem run_watch_succ (m : Machine ω) (fuel : Nat) (job : Job) (state : State ω)
    (around : List Job)
    : (m.watch (fuel + 1) job).run (state.watched around)
      = match (m.watched.perform (m.watch fuel) job).run (state.watched (job :: around)) with
        | (.ok value, later) => (reopen List.tail >>= fun _ => pure value).run later
        | (.error stop, later) => (.error stop, later) := by
  rw [watch, Eval.run_bind, run_reopen]
  dsimp only
  rw [Eval.run_bind]
  rcases (m.watched.perform (m.watch fuel) job).run (state.watched (job :: around))
    with ⟨_ | _, later⟩ <;> rfl

end Machine

namespace Correspondence

/-- A run and one that watches it, inside the given jobs. When they stop, more jobs may be open, and
the innermost of these has given the error its place.
-/
def watching (around : List Job) : Correspondence ω (Watched ω) where
  toLikeness := .exactly id
  Worlds := fun world watched => watched = ⟨world, around⟩
  Stops := fun world watched stop stop' =>
    stop' = stop
    ∧ ∃ opened, watched = ⟨world, opened ++ around⟩
      ∧ ∀ error, stop = .error error → error.span? = innermost opened

/-- States that correspond while watching are the same, but for the jobs that are open. -/
theorem watching_related {around : List Job} {state : State ω} {second : State (Watched ω)}
    : (watching around).Related state second ↔ second = state.watched around := by
  obtain ⟨context, heap, world, printout⟩ := state
  obtain ⟨context', heap', world', printout'⟩ := second
  rw [State.watched, State.mk.injEq]
  constructor
  · rintro ⟨states, world⟩
    obtain ⟨contexts, heaps, printouts⟩ := Likeness.exactly_states.mp states
    rw [Heap.mapSpans_id, Heap.mapSpans_id] at heaps
    exact ⟨contexts.symm, heaps.symm, world, printouts.symm⟩
  · rintro ⟨contexts, heaps, worlds, printouts⟩
    exact ⟨Likeness.exactly_states.mpr ⟨contexts.symm, by rw [heaps], printouts.symm⟩, worlds⟩

/-- An action of the host does the same while it is watched. -/
theorem watching_actions {around : List Job} (action : HostAction ω α)
    : (watching around).Actions action action.watched := by
  constructor
  · rintro heap heap' world _ heaps rfl
    rw [Likeness.eq_of_heaps heaps]
    rfl
  · rintro heap heap' world _ heaps rfl
    rw [Likeness.eq_of_heaps heaps]
    rfl
  · rintro heap heap' world _ heaps rfl
    rw [Likeness.eq_of_heaps heaps]
    rfl
  · rintro heap heap' world _ heaps rfl
    rw [Likeness.eq_of_heaps heaps]
    rfl

/-- A machine corresponds with the watched one, whatever jobs are open.
Witness: its host acts on the world inside, and all else is the same.
-/
theorem watching_machines (m : Machine ω) (around : List Job)
    : (watching around).Machines m m.watched where
  faithful := Likeness.faithful_exactly id
  text := fun same => by
    rw [same]
    rfl
  literal := fun {value value'} same => by
    obtain rfl : value = value' := same
    cases value <;> rfl
  type := fun same => by
    rw [same]
    rfl
  decl := fun {decl decl'} same => by
    obtain rfl : decl = decl' := same
    exact .refl _ decl
  limits := rfl
  observer := rfl
  host := {
    className := by
      rintro world _ rfl
      rfl
    text := by
      rintro heap heap' world _ heaps rfl
      rw [Likeness.eq_of_heaps heaps]
      rfl
    hasProperties := by
      rintro world _ rfl
      rfl
    resolveClass := by
      rintro world _ rfl
      rfl
    field := fun ref name => watching_actions _
    getProperty := fun ref name => watching_actions _
    setProperty := fun ref name value => watching_actions _
    iterate := fun ref => watching_actions _
    newInstance := fun name => watching_actions _
    staticField := fun className name => watching_actions _
    invokeMethod := fun decl target args => watching_actions _
    invokeConstructor := fun decl args => watching_actions _
  }
  fails := by
    rintro cause world _ rfl
    refine ⟨rfl, [], rfl, ?_⟩
    rintro error ⟨⟩
    rfl
  dangles := by
    rintro world _ rfl
    exact ⟨rfl, [], rfl, nofun⟩

/-- A run and one that watches it, with the given jobs being done now. When they stop, the given
job is the outermost of those that were opened inside the jobs around it, and the innermost of
them all has given the error its place.
-/
def leaving (job : Job) (around now : List Job) : Correspondence ω (Watched ω) where
  toLikeness := .exactly id
  Worlds := fun world watched => watched = ⟨world, now⟩
  Stops := fun world watched stop stop' =>
    stop' = stop
    ∧ ∃ opened, watched = ⟨world, opened ++ job :: around⟩
      ∧ ∀ error, stop = .error error → error.span? = innermost (opened ++ [job])

/-- On the way out of a job, states correspond as they do while watching. -/
theorem leaving_related {job : Job} {around now : List Job} {state : State ω}
    {second : State (Watched ω)}
    : (leaving job around now).Related state second ↔ second = state.watched now := by
  rw [← watching_related]
  constructor
  · exact fun related => ⟨related.toStates, related.world⟩
  · exact fun related => ⟨related.toStates, related.world⟩

/-- A span that is noted on the way out of a job is the one of the job's node.
Witness: an error from farther inside keeps its span; one without gets that of the job, if it is
real, and then the job is the innermost with a place.
-/
theorem leaving_atSpan {job : Job} {around : List Job} {span : Span}
    (placed : job.place? = span.real?) {first : Eval ω α} {second : Eval (Watched ω) α}
    (inner : (watching (job :: around)).Simulates first second)
    : (leaving job around (job :: around)).Simulates
        (Eval.atSpan span first) (Eval.atSpan span second) := by
  intro s t related
  have outcome := inner s t (watching_related.mpr (leaving_related.mp related))
  rw [Eval.run_atSpan, Eval.run_atSpan]
  generalize first.run s = ended at outcome
  generalize second.run t = ended' at outcome
  cases outcome with
  | value same related =>
      exact .value same (leaving_related.mpr (watching_related.mp related))
  | @stop stop stop' _ _ stops states =>
      obtain ⟨same, opened, watched, places⟩ := stops
      obtain rfl : stop' = stop := same
      refine .stop ⟨rfl, opened, watched, fun error noted => ?_⟩ states
      cases stop' with
      | error inside =>
          -- A job inside has given the error its place, or this one does now.
          obtain rfl := Stop.error.inj noted
          rw [EvalError.span?_withSpan, places inside rfl, ← placed]
          simp [innermost, List.findSome?_append, List.findSome?_singleton]
      | danglingNode => cases noted
      | outOfFuel => cases noted

/-- A job is performed alike while it is watched.
Witness: its node is found in both, and the span that is noted is that of the node.
-/
theorem leaving_perform {m : Machine ω} {fuel : Nat} {job : Job} {around : List Job}
    (inside : (watching (job :: around)).Inside (m.run fuel) (m.watch fuel))
    : (leaving job around (job :: around)).Simulates
        (m.perform (m.run fuel) job) (m.watched.perform (m.watch fuel) job) := by
  have machines := watching_machines m (job :: around)
  have dangles
      : (leaving job around (job :: around)).Simulates
          (throw Stop.danglingNode : Eval ω Value) (throw Stop.danglingNode) := by
    intro s t related
    exact .stop ⟨rfl, [], related.world, fun error noted => by cases noted⟩ related.toStates
  cases job with
  | eval arena id receiver =>
      simp only [Machine.perform]
      cases found : arena.expr? id with
      | none => exact dangles
      | some expr =>
          refine leaving_atSpan (by simp [Job.place?, found]) ?_
          exact machines.evalExpr inside (Likeness.exactly_arenas.mpr rfl)
            (Likeness.exactly_exprs.mpr rfl) receiver
  | exec arena id =>
      simp only [Machine.perform]
      cases found : arena.stmt? id with
      | none => exact dangles
      | some stmt =>
          refine leaving_atSpan (by simp [Job.place?, found]) ?_
          exact machines.execStmt inside (Likeness.exactly_arenas.mpr rfl)
            (Likeness.exactly_stmts.mpr rfl)

/-- Once a job is done it is not open any more.
Witness: what it was performed on is reopened without the job, if it gave a value, and its error is
placed by the jobs that are open if it did not.
-/
theorem leaving_step {m : Machine ω} {fuel : Nat} {job : Job} {around : List Job}
    (inside : (watching (job :: around)).Inside (m.run fuel) (m.watch fuel))
    : (leaving job around around).Simulates
        (m.run (fuel + 1) job) (m.watch (fuel + 1) job) := by
  intro s t related
  obtain rfl := leaving_related.mp related
  have outcome := leaving_perform inside s _ (leaving_related.mpr rfl)
  rw [Machine.run_watch_succ]
  show Outcome _ _ ((m.perform (m.run fuel) job).run s) _
  generalize (m.perform (m.run fuel) job).run s = ended at outcome
  generalize (m.watched.perform (m.watch fuel) job).run (s.watched (job :: around)) = ended'
    at outcome
  cases outcome with
  | value same related =>
      obtain rfl := leaving_related.mp related
      exact .value same (leaving_related.mpr rfl)
  | stop stops states => exact .stop stops states

/-- A watched run is like the plain one, by induction on the fuel.
Witness: with less fuel the jobs inside are watched alike, with the job itself among those around
them.
-/
theorem watching_run (m : Machine ω) (fuel : Nat) (around : List Job)
    : (watching around).Inside (m.run fuel) (m.watch fuel) := by
  induction fuel generalizing around with
  | zero =>
      intro _ _ _ s t related
      exact .stop ⟨rfl, [], related.world, fun error noted => by cases noted⟩ related.toStates
  | succ fuel ih =>
      intro job job' jobs s t related
      obtain rfl : job = job' := by simpa using Likeness.exactly_jobs.mp jobs
      have outcome :=
        leaving_step (ih (job :: around)) s t (leaving_related.mpr (watching_related.mp related))
      generalize (m.run (fuel + 1) job).run s = ended at outcome
      generalize (m.watch (fuel + 1) job).run t = ended' at outcome
      cases outcome with
      | value same related =>
          exact .value same (watching_related.mpr (leaving_related.mp related))
      | stop stops states =>
          -- Seen from around the job, the job is one more that was opened.
          obtain ⟨same, opened, watched, places⟩ := stops
          refine .stop ⟨same, opened ++ [job], ?_, places⟩ states
          rw [watched, List.append_assoc, List.singleton_append]

end Correspondence

-----------------------------------------------------------------------------------------
-- Decorated errors
-----------------------------------------------------------------------------------------

/-- No place is found among jobs exactly if none of them has one. -/
theorem innermost_eq_none {opened : List Job}
    : innermost opened = none ↔ ∀ inner ∈ opened, inner.place? = none :=
  List.findSome?_eq_none_iff

namespace Machine

/-- A watched run is the plain one, and tells which jobs were being done where it stopped.
Witness: the watched run corresponds to the plain one; where it stops, the first job is still open
and the last that has a place gave the span.
-/
theorem exists_watched (m : Machine ω) (fuel : Nat) (job : Job) (state : State ω)
    : ∃ opened,
        (m.watch fuel job).run (state.watched [])
          = (((m.run fuel job).run state).1, ((m.run fuel job).run state).2.watched opened)
        ∧ (∀ value, ((m.run fuel job).run state).1 = .ok value → opened = [])
        ∧ ∀ error, ((m.run fuel job).run state).1 = .error (.error error) →
            opened.getLast? = some job ∧ error.span? = innermost opened := by
  cases fuel with
  | zero => exact ⟨[], rfl, fun _ _ => rfl, fun error stopped => by cases stopped⟩
  | succ fuel =>
      have outcome :=
        Correspondence.leaving_step (Correspondence.watching_run m fuel [job]) state
          (state.watched []) (Correspondence.leaving_related.mpr rfl)
      generalize (m.run (fuel + 1) job).run state = ended at outcome
      generalize (m.watch (fuel + 1) job).run (state.watched []) = ended' at outcome
      cases outcome with
      | value same related =>
          obtain rfl := same
          obtain rfl := Correspondence.leaving_related.mp related
          exact ⟨[], rfl, fun _ _ => rfl, fun error stopped => by cases stopped⟩
      | @stop stop stop' first second stops states =>
          obtain ⟨same, opened, watched, places⟩ := stops
          obtain rfl : stop' = stop := same
          refine ⟨opened ++ [job], ?_, (fun value ended => by cases ended), fun error stopped => ?_⟩
          · have related : (Correspondence.watching (opened ++ [job])).Related first second :=
              ⟨states, watched⟩
            rw [Correspondence.watching_related.mp related]
          · obtain rfl : stop' = .error error := Except.error.inj stopped
            exact ⟨List.getLast?_concat, places error rfl⟩

/-- Spans only decorate errors, and the innermost one wins. With other spans on all nodes, also
on those in the arenas of lambdas, an expression or a statement ends with the same value or the
same cause, in the same state up to spans; the host need only not look at spans itself. And where
a job fails, the jobs that were being done then, from the failing one out to this one, tell the
span of the error: it is the real one of the innermost job that has any, and there is none
exactly if no job does.
-/
theorem spans_only_decorate_errors (m : Machine ω)
    : (m.host.IgnoresSpans →
        ∀ arena arena' : Arena, arena.mapSpans nowhere = arena'.mapSpans nowhere →
        ∀ state state' : State ω, state.mapSpans nowhere = state'.mapSpans nowhere →
          (∀ id, unplacedEnd ((m.eval arena id).run state)
            = unplacedEnd ((m.eval arena' id).run state'))
          ∧ (∀ id, unplacedEnd ((m.exec arena id).run state)
            = unplacedEnd ((m.exec arena' id).run state')))
      ∧ ∀ fuel job state, ∃ opened,
          (m.watch fuel job).run (state.watched [])
            = (((m.run fuel job).run state).1, ((m.run fuel job).run state).2.watched opened)
          ∧ (∀ value, ((m.run fuel job).run state).1 = .ok value → opened = [])
          ∧ ∀ error, ((m.run fuel job).run state).1 = .error (.error error) →
              opened.getLast? = some job
              ∧ error.span? = innermost opened
              ∧ (error.span? = none ↔ ∀ inner ∈ opened, inner.place? = none) := by
  constructor
  · intro ignores arena arena' arenas state state' states
    have machines := anywhere_machines m ignores
    have alike := Likeness.exactly_arenas.mpr arenas
    have related := Correspondence.anywhere_related.mpr states
    refine ⟨fun id => Correspondence.unplacedEnd_eq ?_, fun id => Correspondence.unplacedEnd_eq ?_⟩
    · exact machines.eval Correspondence.anywhere_places Correspondence.anywhere_spent alike id
        state state' related
    · exact machines.exec Correspondence.anywhere_places Correspondence.anywhere_spent alike id
        state state' related
  · intro fuel job state
    obtain ⟨opened, watched, done, failed⟩ := exists_watched m fuel job state
    refine ⟨opened, watched, done, fun error stopped => ?_⟩
    obtain ⟨outermost, placed⟩ := failed error stopped
    exact ⟨outermost, placed, by rw [placed, innermost_eq_none]⟩

end Machine

/-- The sample host does not look into lambdas at all. -/
theorem SampleHost.ignoresSpans : SampleHost.host.IgnoresSpans := SampleHost.hosts Iff.rfl

namespace Machine

/-- The expression `f.accept(0)` with the given span, as a program spells it whose table knows
`f` and `accept` behind the reserved names.
-/
def acceptZero (span : Span) : Arena :=
  {
    exprs :=
      #[
        { kind := .ident ⟨4⟩, span := ⟨0, 1⟩ },
        { kind := .literal (.int 0) },
        { kind := .call ⟨5⟩ [⟨1⟩] },
        { kind := .chain [⟨0⟩, ⟨2⟩], span }
      ]
  }

/-- A state in which `f` is the lambda `n -> 1 / n`, whose literal only has a span. -/
def withQuotient : State SampleHost.World :=
  {
    context := { this := .null, vars := { active := ⟨[(⟨4⟩, .lambda ⟨0⟩)]⟩, limit := 2 } }
    heap :=
      {
        closures :=
          #[
            {
              params := [⟨6⟩]
              body := .expr ⟨2⟩
              arena :=
                {
                  exprs :=
                    #[
                      { kind := .literal (.int 1), span := ⟨20, 21⟩ },
                      { kind := .ident ⟨6⟩ },
                      { kind := .binary .div ⟨0⟩ ⟨1⟩ }
                    ]
                }
              captured := {}
              this := .null
              shape := ⟨.callback (some .int), "accept"⟩
              target := "java.util.function.IntConsumer"
            }
          ]
      }
    world := {}
  }

/-- The division by zero is noted at the call that led to it, for nothing inside the call was being
evaluated that has a span. Without that span it is the same error, noted nowhere.
-/
theorem acceptZero_is_noted_at_the_call
    : (∃ opened,
        (threePasses.watch 4 (.eval (acceptZero ⟨0, 11⟩) ⟨3⟩ none)).run (withQuotient.watched [])
          = (.error (.error { cause := .divisionByZero, span? := some ⟨0, 11⟩ }),
              withQuotient.watched opened)
        ∧ innermost opened = some ⟨0, 11⟩)
      ∧ unplacedEnd ((threePasses.eval (acceptZero ⟨0, 11⟩) ⟨3⟩).run withQuotient)
        = unplacedEnd ((threePasses.eval (acceptZero .dummy) ⟨3⟩).run withQuotient) := by
  obtain ⟨decorates, places⟩ := spans_only_decorate_errors threePasses
  constructor
  · obtain ⟨opened, watched, _, failed⟩ :=
      places 4 (.eval (acceptZero ⟨0, 11⟩) ⟨3⟩ none) withQuotient
    have ended
        : (threePasses.run 4 (.eval (acceptZero ⟨0, 11⟩) ⟨3⟩ none)).run withQuotient
          = (.error (.error { cause := .divisionByZero, span? := some ⟨0, 11⟩ }),
              withQuotient) := by
      cbv
    rw [ended] at watched failed
    exact ⟨opened, watched, (failed _ rfl).2.1.symm⟩
  · have sameNodes
        : (acceptZero ⟨0, 11⟩).mapSpans nowhere = (acceptZero .dummy).mapSpans nowhere := by
      simp [Arena.mapSpans, acceptZero, Expr.mapSpans]
    exact (decorates SampleHost.ignoresSpans _ _ sameNodes _ _ rfl).1 ⟨3⟩

end Machine

end Scratchpad
