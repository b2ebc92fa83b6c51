import Scratchpad.Proofs.Eval.Cancellation
import Scratchpad.Proofs.Eval.RaisedLimits

/-! Loops under cancellation. Once cancellation is requested, the request stays, and no loop starts
another pass after a whole one, however deep it is nested and whatever lambda it is in. A limit of
two passes or more is then never reached, so it does not matter which. Without a request nothing is
cancelled.
-/

namespace Scratchpad

variable {ω : Type}

namespace Cause

def isLoopLimit : Cause → Bool
  | .loopLimitExceeded _ => true
  | _ => false

/-- An ordinary cause is not the ceiling of a loop. -/
theorem not_loopLimit_of_ordinary {cause : Cause} (ordinary : cause.interrupts = false)
    : cause.isLoopLimit = false := by
  cases cause with
  | loopLimitExceeded limit => simp [interrupts] at ordinary
  | _ => rfl

end Cause

/-- Stops that are not at the limit of a loop. -/
def Stop.SparesLoops (stop : Stop) : Prop :=
  ∀ error, stop = .error error → error.cause.isLoopLimit = false

/-- An error with another cause spares loops. -/
theorem Stop.sparesLoops_error {error : EvalError} (other : error.cause.isLoopLimit = false)
    : (Stop.error error).SparesLoops := by
  intro same equal
  obtain rfl := Stop.error.inj equal
  exact other

-----------------------------------------------------------------------------------------
-- Single loops
-----------------------------------------------------------------------------------------

/-- The check stops exactly if cancellation is requested, and changes nothing. -/
theorem Eval.run_checkCancelled (state : State ω)
    : (checkCancelled : Eval ω Unit).run state
      = if state.context.cancelled then (.error (.error { cause := .cancelled }), state)
        else (.ok (), state) := by
  rw [checkCancelled, run_get_bind]
  split <;> rfl

/-- A loop that runs one pass and is cancelled if that pass does not end it. -/
def onePass {ι : Type} (pass : ι → Eval ω (Option ι)) (start : ι) : Eval ω Value := do
  match ← pass start with
  | none => pure .void
  | some _ => Eval.fail .cancelled

namespace Machine

/-- The passes of the loops that a program has. -/
inductive LoopPass (m : Machine ω) (again : Job → Eval ω Value) (arena : Arena)
    : {ι : Type} → (ι → Eval ω (Option ι)) → Prop
  | whileLoop (cond : ExprId) (body : StmtId)
    : m.LoopPass again arena (m.whilePass again arena cond body)
  | doWhile (cond : ExprId) (body : StmtId)
    : m.LoopPass again arena (m.doWhilePass again arena cond body)
  | forLoop (cond? : Option ExprId) (update : List ExprId) (body : StmtId)
    : m.LoopPass again arena (m.forPass again arena cond? update body)
  | forEach (var : Name) (type : ResolvedType Name) (body : StmtId)
    : m.LoopPass again arena (m.forEachPass again arena var type body)

/-- A loop whose first pass leaves cancellation requested has no second one.
Witness: between two passes the count is compared first, which leaves room for another pass, and
then the request is checked.
-/
theorem run_loop_of_cancelled {m : Machine ω} (two : 2 ≤ m.limits.iterations) {ι : Type}
    {pass : ι → Eval ω (Option ι)} {start : ι} {state : State ω}
    (requested : ((pass start).run state).2.context.cancelled = true)
    : (m.loop pass start).run state = (onePass pass start).run state := by
  obtain ⟨left, passes⟩ := Nat.exists_eq_add_of_le' two
  have more : m.limits.iterations - 1 = left + 1 := by omega
  rw [loop, more, iterate, onePass, Eval.run_bind, Eval.run_bind, Eval.run_bind]
  generalize (pass start).run state = ended at requested ⊢
  obtain ⟨result, later⟩ := ended
  cases result with
  | error stop => rfl
  | ok carried =>
      cases carried with
      | none => rfl
      | some next =>
          replace requested : later.context.cancelled = true := requested
          simp [Eval.run_bind, Eval.run_checkCancelled, requested]

end Machine

-----------------------------------------------------------------------------------------
-- Evaluations
-----------------------------------------------------------------------------------------

/-- Printing does not take a request back, by induction on what is printed. -/
theorem Machine.Prints.cancelled {m : Machine ω} {before output : Output}
    (prints : m.Prints before output) (requested : before.cancelled = true)
    : output.cancelled = true := by
  induction prints with
  | none => exact requested
  | buffer _ _ ih => exact ih
  | deliver _ _ ih => exact Bool.or_eq_true_iff.mpr (.inl ih)

namespace Coupling

variable {m : Machine ω} {limits : Limits}

/-- Follows a run under cancellation, which ends at no limit of a loop. -/
def cancelling : Coupling ω :=
  invariant (·.context.cancelled = true) fun _ stop => stop.SparesLoops

/-- What may stop an evaluation besides the ceiling of a loop spares loops, wherever it is noted. -/
theorem cancelling_permits : Permits fun (_ : State ω) stop => stop.SparesLoops where
  errors := fun _ ordinary _ => Stop.sparesLoops_error (Cause.not_loopLimit_of_ordinary ordinary)
  cancels := fun _ _ => Stop.sparesLoops_error rfl
  spans := fun span _ stop start => by
    cases stop with
    | error error =>
        refine Stop.sparesLoops_error ?_
        rw [EvalError.cause_withSpan]
        exact start error rfl
    | danglingNode => exact start
    | outOfFuel => exact start
  leaves := fun _ _ _ start => start

/-- Under cancellation both runs read the same, whatever their limits. -/
theorem cancelling_observes : cancelling.Observes m (m.withLimits limits) :=
  {
    invariant_observes m (·.context.cancelled = true) cancelling_permits with
    names := rfl
    host := rfl
  }

/-- Nothing takes a request for cancellation back. -/
theorem cancelled_invariant : StatementInvariant m (·.context.cancelled = true) where
  hosted := fun requested _ prints _ => prints.cancelled requested
  assign := fun requested _ _ => requested
  define := fun requested _ _ => requested
  withBreak := fun requested _ => requested

/-- A single pass is coupled, and then the request stops the loop in both runs. -/
theorem cancelling_onePass {ι : Type} {pass pass' : ι → Eval ω (Option ι)} (start : ι)
    (each : ∀ carried, cancelling.Couples (pass carried) (pass' carried))
    : cancelling.Couples (onePass pass start) (onePass pass' start) := by
  refine (each start).bind fun carried => ?_
  cases carried with
  | none => exact .pure _
  | some next => exact .throw fun _ => Stop.sparesLoops_error rfl

/-- Under any two limits, loops end alike: after one pass.
Witness: each loop ends as if it had one pass, under any limit that leaves room for a second.
-/
theorem cancelling_effects (two : 2 ≤ m.limits.iterations) (two' : 2 ≤ limits.iterations)
    : cancelling.StatementEffects m (m.withLimits limits) := by
  refine cancelled_invariant.stable.effectsOfLoop cancelling_observes rfl fun start each => ?_
  rintro s _ ⟨rfl, requested⟩
  obtain ⟨_, same, first⟩ := (each start).agree (fun _ => id) ⟨rfl, requested⟩
  have second := same ▸ first
  rw [Machine.run_loop_of_cancelled two first, Machine.run_loop_of_cancelled two' second]
  exact cancelling_onePass start each s s ⟨rfl, requested⟩

/-- An invocation under cancellation goes the same way, if its body does. -/
theorem cancelling_invoke {again again' : Job → Eval ω Value}
    (jobs : ∀ job, cancelling.Couples (again job) (again' job)) (closure : Closure)
    (args : List Value)
    : cancelling.Couples (m.invoke again closure args) (m.invoke again' closure args) := by
  refine invariant_invoke m cancelling_permits args fun requested _ _ _ => ?_
  exact ⟨(·.context.cancelled = true), requested, jobs _, fun _ later => later⟩

/-- A job under cancellation goes the same way under any two limits, by induction on the fuel.
Witness: with less fuel the jobs inside go the same way, and loops end after one pass on both sides.
-/
theorem cancelling_run (two : 2 ≤ m.limits.iterations) (two' : 2 ≤ limits.iterations) (fuel : Nat)
    (job : Job)
    : cancelling.Couples (m.run fuel job) ((m.withLimits limits).run fuel job) := by
  induction fuel generalizing job with
  | zero => exact .throw fun _ _ => nofun
  | succ fuel ih =>
      refine (cancelling_effects two two').perform (fun _ _ => nofun) ih (cancelling_invoke ih)
        (fun _ _ _ type? => ?_) job
      exact invariant_createLambda m cancelling_permits type? fun requested _ _ => requested

/-- Every pass of a loop keeps the request.
Witness: by the form of the loop, each pass by the coupling of statements.
-/
theorem cancelling_pass (two : 2 ≤ m.limits.iterations) {fuel : Nat} {arena : Arena} {ι : Type}
    {pass : ι → Eval ω (Option ι)} (form : m.LoopPass (m.run fuel) arena pass) (carried : ι)
    : cancelling.Couples (pass carried) (pass carried) := by
  have effects : cancelling.StatementEffects m m := cancelling_effects two two
  have children {ids : List NodeId} : cancelling.Children (m.run fuel) (m.run fuel) arena ids :=
    ⟨fun _ _ => cancelling_run two two fuel _, fun _ => cancelling_run two two fuel _⟩
  cases form with
  | whileLoop cond body => exact effects.whilePass children carried
  | doWhile cond body => exact effects.doWhilePass children carried
  | forLoop cond? update body => exact effects.forPass children carried
  | forEach var type body => exact effects.forEachPass var type children carried

end Coupling

namespace Machine

/-- Both runs end alike, with cancellation requested and at no limit of a loop. -/
def EndCancelled (first second : Except Stop Value × State ω) : Prop :=
  second = first
  ∧ first.2.context.cancelled = true
  ∧ ∀ stop, first.1 = .error stop → stop.SparesLoops

/-- A run that ends without a request to cancel was not cancelled. -/
def CancelsOnRequest (ended : Except Stop Value × State ω) : Prop :=
  ended.2.context.cancelled = false
  → ∀ error, ended.1 = .error (.error error) → error.cause ≠ .cancelled

/-- Actions that go the same way under cancellation end alike, and not at the ceiling of a loop. -/
theorem endCancelled_of_couples {first second : Eval ω Value} {state : State ω}
    (self : Coupling.cancelling.Couples first first)
    (couples : Coupling.cancelling.Couples first second)
    (requested : state.context.cancelled = true)
    : EndCancelled (first.run state) (second.run state) := by
  obtain ⟨result, later, _⟩ := couples.agree (fun _ => id) ⟨rfl, requested⟩
  exact ⟨Prod.ext result later.symm, self.keeps requested⟩

/-- An action that is cancelled on request only is not cancelled where nobody asks.
Witness: the error of a cancelled run shows the request in its last state.
-/
theorem cancelsOnRequest_of_couples {action : Eval ω Value}
    (couples : (Coupling.requested fun _ => True).Couples action action) (state : State ω)
    : CancelsOnRequest (action.run state) := by
  have stops : ∀ stop, (action.run state).1 = .error stop → stop.Requested (action.run state).2 :=
    (couples.keeps trivial).2
  intro unset error failed cancelled
  have asked : error.cause.isCancelled = true := by
    rw [cancelled]
    rfl
  exact absurd (stops _ failed error rfl asked) (by simp [unset])

/-- Under cancellation, jobs and invocations end the same way whatever limit of two passes or more
there is, never at that limit, and each loop in them runs a single pass. Without a request nothing
is cancelled.
-/
theorem cancellation_ends_loops (m : Machine ω) (fuel : Nat)
    : (∀ (limits : Limits) (state : State ω),
        2 ≤ m.limits.iterations
        → 2 ≤ limits.iterations
        → state.context.cancelled = true
        → (∀ job,
            EndCancelled ((m.run fuel job).run state)
              (((m.withLimits limits).run fuel job).run state))
          ∧ (∀ closure args,
            EndCancelled ((m.invoke (m.run fuel) closure args).run state)
              (((m.withLimits limits).invoke ((m.withLimits limits).run fuel) closure args).run
                state))
          ∧ ∀ arena (ι : Type) (pass : ι → Eval ω (Option ι)),
              m.LoopPass (m.run fuel) arena pass
              → ∀ start, (m.loop pass start).run state = (onePass pass start).run state)
      ∧ ∀ state : State ω,
          (∀ job, CancelsOnRequest ((m.run fuel job).run state))
          ∧ ∀ closure args,
              CancelsOnRequest ((m.invoke (m.run fuel) closure args).run state) := by
  refine ⟨fun limits state two two' requested => ?_, fun state => ?_⟩
  · have self (job : Job) : Coupling.cancelling.Couples (m.run fuel job) (m.run fuel job) :=
      Coupling.cancelling_run two two fuel job
    have jobs := Coupling.cancelling_run two two' fuel
    refine ⟨fun job => ?_, fun closure args => ?_, fun arena ι pass form start => ?_⟩
    · exact endCancelled_of_couples (self job) (jobs job) requested
    · exact endCancelled_of_couples (Coupling.cancelling_invoke self closure args)
        (Coupling.cancelling_invoke jobs closure args) requested
    · obtain ⟨kept, _⟩ := (Coupling.cancelling_pass two form start).keeps requested
      exact run_loop_of_cancelled two kept
  · have jobs (job : Job)
        : (Coupling.requested fun _ => True).Couples (m.run fuel job) (m.run fuel job) :=
      Coupling.requested_run (fun _ _ => trivial) fuel job
    refine ⟨fun job => ?_, fun closure args => ?_⟩
    · exact cancelsOnRequest_of_couples (jobs job) state
    · exact cancelsOnRequest_of_couples (Coupling.requested_invoke jobs closure args) state

/-- The statement `while (true) while (true) { }`, at index 2. -/
def endlessLoops : Arena :=
  {
    exprs := #[{ kind := .literal (.bool true) }]
    stmts :=
      #[
        { kind := .block [] },
        { kind := .whileLoop ⟨0⟩ ⟨0⟩ },
        { kind := .whileLoop ⟨0⟩ ⟨1⟩ }
      ]
  }

/-- A state in which cancellation was requested. -/
def cancelledState : State SampleHost.World :=
  { context := { Context.fresh {} .null with cancelled := true }, world := {} }

/-- Endless loops are cancelled under any two limits, and where nobody asks they are not.
Witness: both loops are evaluated under one limit, and the other limit ends them alike.
-/
theorem endlessLoops_cancelled
    : ((run { names := {}, host := SampleHost.host, limits := { iterations := 7 } } 4
          (.exec endlessLoops ⟨2⟩)).run cancelledState)
        = (.error (.error { cause := .cancelled }), cancelledState)
      ∧ CancelsOnRequest
          ((run { names := {}, host := SampleHost.host, limits := { iterations := 2 } } 4
            (.exec endlessLoops ⟨2⟩)).run
            { cancelledState with context := .fresh {} .null }) := by
  let m : Machine SampleHost.World :=
    { names := {}, host := SampleHost.host, limits := { iterations := 2 } }
  have ended
      : (m.run 4 (.exec endlessLoops ⟨2⟩)).run cancelledState
        = (.error (.error { cause := .cancelled }), cancelledState) := by
    cbv
  obtain ⟨cancelled, requests⟩ := cancellation_ends_loops m 4
  obtain ⟨jobs, _⟩ := cancelled { iterations := 7 } cancelledState (by decide) (by decide) rfl
  obtain ⟨same, _⟩ := jobs (.exec endlessLoops ⟨2⟩)
  exact ⟨same.trans ended, (requests _).1 _⟩

end Machine

end Scratchpad
