import Mathlib
import Scratchpad.Host.Sample
import Scratchpad.Proofs.Eval.Invocation

/-! Limits cut runs short and decide nothing else: a run that ended at none of them goes exactly
the same way under higher ones. Neither a loop nor a lambda nor the host can tell how many passes or
frames are left, so the states of the two runs differ in the frame limit alone.
-/

namespace Scratchpad

variable {ω α : Type}

-----------------------------------------------------------------------------------------
-- Limits
-----------------------------------------------------------------------------------------

namespace Cause

/-- A loop ran too long, or lambdas nested too deep. -/
def isLimit : Cause → Bool
  | .loopLimitExceeded _ => true
  | .frameLimitExceeded _ => true
  | _ => false

end Cause

/-- The run was cut short, at a limit or for lack of fuel. -/
def Stop.CutsShort : Stop → Prop
  | .error failure => failure.cause.isLimit = true
  | .danglingNode => False
  | .outOfFuel => True

/-- Noting a place does not change that a limit has cut something short. -/
theorem Stop.CutsShort.withSpan {stop : Stop} (cut : stop.CutsShort) (span : Span)
    : (stop.withSpan span).CutsShort := by
  cases stop with
  | error error =>
      show (error.withSpan span).cause.isLimit = true
      rw [EvalError.cause_withSpan]
      exact cut
  | danglingNode => exact cut
  | outOfFuel => exact cut

def Machine.withLimits (m : Machine ω) (limits : Limits) : Machine ω := { m with limits }

namespace Variables

def withFrameLimit (vars : Variables) (limit : Nat) : Variables := { vars with limit }

/-- The limit has no say in where an assignment writes.
Witness: which frames hold the name does not depend on the limit.
-/
theorem assign_withFrameLimit (vars : Variables) (limit : Nat) (name : Name) (value : Value)
    : (vars.withFrameLimit limit).assign name value
      = (vars.assign name value).withFrameLimit limit := by
  have active : (vars.withFrameLimit limit).active.contains name = vars.active.contains name := rfl
  have outer : (vars.withFrameLimit limit).outer = vars.outer := rfl
  unfold assign
  rw [active, outer]
  split
  · rfl
  · split <;> rfl

/-- Leaving a frame does not look at the limit. -/
theorem pop_withFrameLimit (vars : Variables) (limit : Nat)
    : (vars.withFrameLimit limit).pop = vars.pop.withFrameLimit limit := by
  obtain ⟨active, outer, _⟩ := vars
  cases outer with
  | nil => rfl
  | cons frame rest => rfl

end Variables

namespace State

def withFrameLimit (state : State ω) (limit : Nat) : State ω :=
  state.withVars (state.context.vars.withFrameLimit limit)

/-- Leaving the frame of a call does not look at the limit. -/
theorem leave_withFrameLimit (state : State ω) (limit : Nat) (this : Value)
    : Machine.leave this (state.withFrameLimit limit)
      = (Machine.leave this state).withFrameLimit limit := by
  have popped := state.context.vars.pop_withFrameLimit limit
  simp only [Machine.leave, withFrameLimit, withVars, popped]

end State

-----------------------------------------------------------------------------------------
-- Two runs under different limits
-----------------------------------------------------------------------------------------

namespace Coupling

variable {frames more : Nat} {limits : Limits}

/-- Compares a run with one that has more frames, unless the first is cut short. -/
def raised (frames more : Nat) : Coupling ω :=
  {
    Related := fun s t => s.context.vars.limit = frames ∧ t = s.withFrameLimit more
    Excused := Stop.CutsShort
  }

/-- States that differ in their frame limit show everything alike that is read. -/
theorem raised_observes (m : Machine ω)
    : (raised frames more).Observes m (m.withLimits limits) where
  names := rfl
  host := rfl
  heap := fun related => congrArg (·.heap) related.2
  world := fun related => congrArg (·.world) related.2
  permits := .all
  excuses := fun span _ cut => cut.withSpan span
  this := fun related => congrArg (·.context.this) related.2
  lookup := fun related name => congrArg (·.context.vars.lookup name) related.2
  breakPending := fun related => congrArg (·.context.breakPending) related.2
  cancelled := fun related => congrArg (·.context.cancelled) related.2

/-- Every effect keeps states the same up to their frame limit. -/
theorem raised_stable {m : Machine ω} : (raised frames more).StatementStable m where
  printout := fun related => congrArg (·.printout) related.2
  hosted := fun related _ _ _ => by
    obtain ⟨limit, rfl⟩ := related
    exact ⟨limit, rfl⟩
  assign := fun {s _} related name value => by
    obtain ⟨limit, rfl⟩ := related
    refine ⟨(Variables.limit_assign _ name value).trans limit, ?_⟩
    exact congrArg s.withVars (s.context.vars.assign_withFrameLimit more name value)
  define := fun related _ _ => by
    obtain ⟨limit, rfl⟩ := related
    exact ⟨limit, rfl⟩
  withBreak := fun related _ => by
    obtain ⟨limit, rfl⟩ := related
    exact ⟨limit, rfl⟩

/-- The second loop goes as far as the first, by induction on the passes that the first one has
left; where it has none left, it is cut short.
-/
theorem raised_iterate {m m' : Machine ω} (observes : (raised frames more).Observes m m')
    {ι : Type} {pass pass' : ι → Eval ω (Option ι)}
    (each : ∀ carried, (raised frames more).Couples (pass carried) (pass' carried))
    (limit limit' : Nat) {left left' : Nat} (le : left ≤ left') (start : ι)
    : (raised frames more).Couples (iterate limit pass left start)
        (iterate limit' pass' left' start) := by
  induction left generalizing left' start with
  | zero =>
      unfold iterate
      refine (each start).bind fun carried => ?_
      cases carried with
      | none => exact .pure _
      | some next => exact fun _ _ _ => .excused rfl
  | succ left ih =>
      cases left' with
      | zero => omega
      | succ left' =>
          unfold iterate
          refine (each start).bind fun carried => ?_
          cases carried with
          | none => exact .pure _
          | some next =>
              exact observes.checkCancelled.bind fun _ => ih (Nat.le_of_succ_le_succ le) next

/-- Loops that stay below the lower ceiling stay below the higher one, and all other effects do not
look at limits.
-/
theorem raised_effects {m : Machine ω} (iterations : m.limits.iterations ≤ limits.iterations)
    : (raised frames more).StatementEffects m (m.withLimits limits) := by
  have observes : (raised frames more).Observes m (m.withLimits limits) := raised_observes m
  refine raised_stable.effectsOfLoop observes rfl fun start each => ?_
  refine (raised_iterate observes each _ _ ?_ start).bind fun _ => .pure _
  exact Nat.sub_le_sub_right iterations 1

/-- An invocation that finds room for its frame finds it under a higher limit, too.
Witness: depth is the same on both sides, and one that is below the lower limit is below the higher
one.
-/
theorem raised_invoke {m : Machine ω} (le : frames ≤ more) {again again' : Job → Eval ω Value}
    (jobs : ∀ job, (raised frames more).Couples (again job) (again' job)) (closure : Closure)
    (args : List Value)
    : (raised frames more).Couples (m.invoke again closure args)
        ((m.withLimits limits).invoke again' closure args) := by
  refine (raised_observes m).invokeWithin args (fun related room => ?_) (fun _ _ => .inl rfl)
    fun {s _ _} related _ _ _ => ?_
  · obtain ⟨limit, rfl⟩ := related
    rw [limit] at room
    exact room.trans_le le
  · obtain ⟨limit, rfl⟩ := related
    refine ⟨(raised frames more).Related, ⟨limit, rfl⟩, jobs _, fun s' _ inside => ?_⟩
    obtain ⟨limit, rfl⟩ := inside
    exact ⟨(Variables.limit_pop _).trans limit, s'.leave_withFrameLimit more _⟩

/-- A lambda is made alike, since what it captures does not depend on the limit. -/
theorem raised_createLambda (m : Machine ω) (arena : Arena) (params : List Name)
    (body : LambdaBody) (type? : Option (ResolvedType Name))
    : (raised frames more).Couples (m.createLambda arena params body type?)
        ((m.withLimits limits).createLambda arena params body type?) := by
  refine (raised_observes m).createLambda type? (fun related => ?_) fun related _ _ => ?_
  · exact congrArg (·.context.vars.capture) related.2
  · obtain ⟨limit, rfl⟩ := related
    exact ⟨limit, rfl⟩

/-- A job goes the same way under higher limits and on more fuel, by induction on the smaller
amount of fuel.
-/
theorem raised_run {m : Machine ω} (iterations : m.limits.iterations ≤ limits.iterations)
    (le : frames ≤ more) {fuel fuel' : Nat} (fuels : fuel ≤ fuel') (job : Job)
    : (raised frames more).Couples (m.run fuel job) ((m.withLimits limits).run fuel' job) := by
  induction fuel generalizing fuel' job with
  | zero => exact fun _ _ _ => .excused trivial
  | succ fuel ih =>
      cases fuel' with
      | zero => omega
      | succ fuel' =>
          have jobs (job : Job)
              : (raised frames more).Couples (m.run fuel job)
                  ((m.withLimits limits).run fuel' job) :=
            ih (Nat.le_of_succ_le_succ fuels) job
          exact (raised_effects iterations).perform (fun _ => trivial) jobs
            (raised_invoke le jobs) (raised_createLambda m) job

end Coupling

namespace Machine

/-- Unless it was cut short, the first run ends as the second does, which has more frames: with
the same result, and in the same state but for the frame limit.
-/
def EndsAlike (more : Nat) (first second : Except Stop α × State ω) : Prop :=
  (∀ stop, first.1 = .error stop → ¬stop.CutsShort)
  → second = (first.1, first.2.withFrameLimit more)

/-- A run that no limit has cut short ends alike under higher limits.
Witness: the only excuse for a difference is to have been cut short.
-/
theorem endsAlike_of_raised {more : Nat} {first second : Eval ω α} {state : State ω}
    (couples : (Coupling.raised state.context.vars.limit more).Couples first second)
    : EndsAlike more (first.run state) (second.run (state.withFrameLimit more)) := by
  have outcome := couples state (state.withFrameLimit more) ⟨rfl, rfl⟩
  intro whole
  generalize first.run state = left at outcome whole ⊢
  generalize second.run (state.withFrameLimit more) = right at outcome
  cases outcome with
  | excused excuse => exact absurd excuse (whole _ rfl)
  | value related => rw [related.2]
  | stop _ related => rw [related.2]

/-- With more frames, more fuel is provided. -/
theorem fuelFor_le_withFrameLimit (arena : Arena) {state : State ω} {more : Nat}
    (room : state.context.vars.limit ≤ more)
    : fuelFor arena state ≤ fuelFor arena (state.withFrameLimit more) :=
  Nat.mul_le_mul_right _ (Nat.succ_le_succ room)

/-- Higher limits change no run that was not cut short: expressions, statements and invocations
from outside have the same result and leave the same state but for the frame limit, and so does any
job inside them on as much fuel or more.
-/
theorem raised_limits_change_nothing (m : Machine ω) {limits : Limits}
    (iterations : m.limits.iterations ≤ limits.iterations) {state : State ω} {more : Nat}
    (room : state.context.vars.limit ≤ more)
    : (∀ arena id,
        EndsAlike more ((m.eval arena id).run state)
          (((m.withLimits limits).eval arena id).run (state.withFrameLimit more)))
      ∧ (∀ arena id,
        EndsAlike more ((m.exec arena id).run state)
          (((m.withLimits limits).exec arena id).run (state.withFrameLimit more)))
      ∧ (∀ closure args,
        EndsAlike more ((m.apply closure args).run state)
          (((m.withLimits limits).apply closure args).run (state.withFrameLimit more)))
      ∧ ∀ job fuel fuel', fuel ≤ fuel'
        → EndsAlike more ((m.run fuel job).run state)
            (((m.withLimits limits).run fuel' job).run (state.withFrameLimit more)) := by
  have jobs (job : Job) {fuel fuel' : Nat} (fuels : fuel ≤ fuel')
      : EndsAlike more ((m.run fuel job).run state)
          (((m.withLimits limits).run fuel' job).run (state.withFrameLimit more)) :=
    endsAlike_of_raised (Coupling.raised_run iterations room fuels job)
  refine ⟨fun arena id => ?_, fun arena id => ?_, fun closure args => ?_, fun job _ _ => jobs job⟩
  · rw [run_eval, run_eval]
    exact jobs (.eval arena id none) (fuelFor_le_withFrameLimit arena room)
  · rw [run_exec, run_exec]
    exact jobs (.exec arena id) (fuelFor_le_withFrameLimit arena room)
  · rw [run_apply, run_apply]
    refine endsAlike_of_raised (Coupling.raised_invoke room (fun job => ?_) closure args)
    exact Coupling.raised_run iterations room (fuelFor_le_withFrameLimit _ room) job

/-- The statement `while (i < 2) f.accept(1)`, at index 1, and the body `i += n` of a lambda. -/
def countingUp : Arena :=
  {
    exprs :=
      #[
        { kind := .ident ⟨3⟩ },
        { kind := .literal (.int 2) },
        { kind := .binary .lt ⟨0⟩ ⟨1⟩ },
        { kind := .ident ⟨4⟩ },
        { kind := .literal (.int 1) },
        { kind := .call ⟨5⟩ [⟨4⟩] },
        { kind := .chain [⟨3⟩, ⟨5⟩] },
        { kind := .ident ⟨6⟩ },
        { kind := .assign .add ⟨0⟩ ⟨7⟩ }
      ]
    stmts := #[{ kind := .expr ⟨6⟩ }, { kind := .whileLoop ⟨2⟩ ⟨0⟩ }]
  }

/-- A state with the given `i`, in which `f` is the lambda `n -> i += n` and two frames fit. -/
def countedTo (count : Int32) : State SampleHost.World :=
  {
    context :=
      {
        this := .null
        vars := { active := ⟨[(⟨3⟩, .int count), (⟨4⟩, .lambda ⟨0⟩)]⟩, limit := 2 }
      }
    heap :=
      {
        closures :=
          #[
            {
              params := [⟨6⟩]
              body := .expr ⟨8⟩
              arena := countingUp
              captured := {}
              this := .null
              shape := ⟨.callback none, "accept"⟩
              target := "java.util.function.Consumer"
            }
          ]
      }
    world := {}
  }

/-- A machine whose loops run three passes, the last of which must not go on. -/
def threePasses : Machine SampleHost.World :=
  {
    names := .filled ["i", "f", "accept", "n"]
    host := SampleHost.host
    limits := { iterations := 3 }
  }

/-- The loop just fits its limits, and ends at two under the usual ones as well.
Witness: under its own limits the loop is evaluated, and it was not cut short.
-/
theorem countingUp_under_usual_limits
    : threePasses.limits.iterations ≤ ({} : Limits).iterations
      ∧ (countedTo 0).context.vars.limit ≤ 256
      ∧ ((threePasses.withLimits {}).exec countingUp ⟨1⟩).run ((countedTo 0).withFrameLimit 256)
        = (.ok .void, (countedTo 2).withFrameLimit 256) := by
  have iterations : threePasses.limits.iterations ≤ ({} : Limits).iterations := by decide
  have room : (countedTo 0).context.vars.limit ≤ 256 := by decide
  have ended : (threePasses.exec countingUp ⟨1⟩).run (countedTo 0) = (.ok .void, countedTo 2) := by
    cbv
  obtain ⟨_, statements, _⟩ := raised_limits_change_nothing threePasses iterations room
  refine ⟨iterations, room, ?_⟩
  have alike := statements countingUp ⟨1⟩
  rw [ended] at alike
  exact alike fun stop stopped => by cases stopped

end Machine

end Scratchpad
