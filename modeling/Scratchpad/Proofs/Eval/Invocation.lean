import Scratchpad.Proofs.Eval.StateChanges

/-! Lambdas in two coupled runs. What holds around an invocation and what holds inside its body are
different relations, because the body has a frame and a receiver of its own.
-/

namespace Scratchpad

variable {ω : Type}

/-- The job of a closure is in the closure's arena. -/
theorem Closure.job_arena (closure : Closure) : closure.job.arena = closure.arena := by
  unfold Closure.job
  split <;> rfl

namespace Machine

variable (m : Machine ω)

/-- An evaluation runs its job on the fuel that is enough for the state. -/
theorem run_eval (arena : Arena) (root : ExprId) (state : State ω)
    : (m.eval arena root).run state
      = (m.run (fuelFor arena state) (.eval arena root none)).run state := by
  rw [eval, Eval.run_get_bind]

/-- An execution runs its job on the fuel that is enough for the state. -/
theorem run_exec (arena : Arena) (root : StmtId) (state : State ω)
    : (m.exec arena root).run state
      = (m.run (fuelFor arena state) (.exec arena root)).run state := by
  rw [exec, Eval.run_get_bind]

/-- An application invokes its closure on the fuel that is enough for the state. -/
theorem run_apply (closure : Closure) (args : List Value) (state : State ω)
    : (m.apply closure args).run state
      = (m.invoke (m.run (fuelFor closure.arena state)) closure args).run state := by
  rw [apply, Eval.run_get_bind]

/-- Entering a frame fails at the limit and changes nothing then.
Witness: a frame is pushed exactly where the limit leaves room.
-/
theorem run_enter (frame : Frame) (this : Value) (state : State ω)
    : (enter frame this).run state
      = if state.context.vars.depth < state.context.vars.limit then
          (.ok (), state.entered frame this)
        else
          (.error (.error { cause := .frameLimitExceeded state.context.vars.limit }), state) := by
  simp only [enter, Eval.run_get_bind, Variables.push?_eq]
  by_cases room : state.context.vars.depth < state.context.vars.limit
  · simp only [room, if_true]
    rfl
  · simp only [room, if_false]
    rfl

/-- An invocation fails before its body runs, and then changes nothing, or runs the body in a
frame of its own and leaves that frame however the body ends.
-/
theorem run_invoke (again : Job → Eval ω Value) (closure : Closure) (args : List Value)
    (state : State ω)
    : (m.invoke again closure args).run state
      = if args.length = closure.params.length then
          match closure.frame (m.sceneOf state) args with
          | .error cause => (.error (.error { cause }), state)
          | .ok frame =>
            if state.context.vars.depth < state.context.vars.limit then
              match (again closure.job).run (state.entered frame closure.this) with
              | (.ok value, later) =>
                (m.invocationResult closure value).run (leave state.context.this later)
              | (.error stop, later) => (.error stop, leave state.context.this later)
            else
              (.error (.error { cause := .frameLimitExceeded state.context.vars.limit }), state)
        else
          (.error
            (.error
              {
                cause :=
                  .typeMismatch
                    (toString closure.params.length ++ " argument(s) for " ++ closure.target)
                    (toString args.length)
              }),
            state) := by
  unfold invoke
  split
  · rw [Eval.run_get_bind, Eval.run_bind]
    cases closure.frame (m.sceneOf state) args with
    | error cause => rfl
    | ok frame =>
        dsimp only [Eval.ofExcept, Eval.run_pure]
        rw [Eval.run_bind, run_enter]
        by_cases room : state.context.vars.depth < state.context.vars.limit
        · simp only [room, if_true, Eval.run_bind, Eval.run_andThen]
          rcases (again closure.job).run (state.entered frame closure.this) with ⟨_ | _, later⟩ <;>
            rfl
        · simp only [room, if_false]
  · rfl

end Machine

namespace Coupling

variable {c : Coupling ω} {m m' : Machine ω} {again again' : Job → Eval ω Value}

/-- The result of an invocation is converted alike in both runs, or left alone. -/
theorem Shares.invocationResult (shares : c.Shares m m') (closure : Closure)
    (value : Value)
    : c.Couples (m.invocationResult closure value) (m'.invocationResult closure value) := by
  unfold Machine.invocationResult
  split
  · exact shares.coerce _ _
  · exact .pure _

/-- An invocation is coupled if its body is under some relation that entering the frame
establishes and from which leaving the frame leads back. Where the first run has no room for the
frame, it is excused, or the second has none either.
-/
theorem Shares.invokeWithin (shares : c.Shares m m') {closure : Closure} (args : List Value)
    (room
      : ∀ {s t}, c.Related s t
        → s.context.vars.depth < s.context.vars.limit
        → t.context.vars.depth < t.context.vars.limit)
    (full
      : ∀ {s t}, c.Related s t
        → ¬s.context.vars.depth < s.context.vars.limit
        → c.Excused (.error { cause := .frameLimitExceeded s.context.vars.limit })
          ∨ ¬t.context.vars.depth < t.context.vars.limit
            ∧ t.context.vars.limit = s.context.vars.limit)
    (body
      : ∀ {s t frame}, c.Related s t
        → args.length = closure.params.length
        → closure.frame (m.sceneOf s) args = .ok frame
        → s.context.vars.depth < s.context.vars.limit
        → ∃ inside : State ω → State ω → Prop,
            inside (s.entered frame closure.this) (t.entered frame closure.this)
            ∧ { c with Related := inside }.Couples (again closure.job) (again' closure.job)
            ∧ ∀ s' t', inside s' t'
              → c.Related (Machine.leave s.context.this s') (Machine.leave t.context.this t'))
    : c.Couples (m.invoke again closure args) (m'.invoke again' closure args) := by
  intro s t related
  rw [Machine.run_invoke, Machine.run_invoke, shares.sceneOf related]
  split
  · next arity =>
    cases bound : closure.frame (m.sceneOf s) args with
    | error cause =>
        have ordinary := closure.ordinary_frame (m.sceneOf s) args
        rw [bound] at ordinary
        exact .stop (shares.permits.errors { cause } ordinary s) related
    | ok frame =>
        dsimp only
        split
        · next free =>
          rw [if_pos (room related free)]
          obtain ⟨inside, entered, couples, left⟩ := body related arity bound free
          have outcome := couples _ _ entered
          generalize (again closure.job).run (s.entered frame closure.this) = first at outcome
          generalize (again' closure.job).run (t.entered frame closure.this) = second at outcome
          cases outcome with
          | excused excuse => exact .excused excuse
          | value related => exact shares.invocationResult _ _ _ _ (left _ _ related)
          | stop allowed related =>
              exact .stop (shares.permits.leaves _ allowed) (left _ _ related)
        · next taken =>
          rcases full related taken with excuse | ⟨none, limit⟩
          · exact .excused excuse
          · rw [if_neg none, limit]
            exact .stop (shares.permits.errors _ rfl s) related
  · exact .stop (shares.permits.errors _ rfl s) related

/-- Where both runs have as many frames under one limit, they have room for the frame alike.
Witness: the question of room is answered by depth and limit, on which they agree.
-/
theorem Shares.invoke (shares : c.Shares m m') {closure : Closure} (args : List Value)
    (depth : ∀ {s t}, c.Related s t → t.context.vars.depth = s.context.vars.depth)
    (limit : ∀ {s t}, c.Related s t → t.context.vars.limit = s.context.vars.limit)
    (body
      : ∀ {s t frame}, c.Related s t
        → args.length = closure.params.length
        → closure.frame (m.sceneOf s) args = .ok frame
        → s.context.vars.depth < s.context.vars.limit
        → ∃ inside : State ω → State ω → Prop,
            inside (s.entered frame closure.this) (t.entered frame closure.this)
            ∧ { c with Related := inside }.Couples (again closure.job) (again' closure.job)
            ∧ ∀ s' t', inside s' t'
              → c.Related (Machine.leave s.context.this s') (Machine.leave t.context.this t'))
    : c.Couples (m.invoke again closure args) (m'.invoke again' closure args) := by
  refine shares.invokeWithin args (fun related room => ?_) (fun related full => .inr ⟨?_, ?_⟩) body
  · rwa [depth related, limit related]
  · rwa [depth related, limit related]
  · exact limit related

/-- Making a lambda is coupled if both runs capture the same frame and the relation survives the
new lambda.
-/
theorem Observes.createLambda (observes : c.Observes m m') {arena : Arena}
    {params : List Name} {body : LambdaBody} (type? : Option (ResolvedType Name))
    (captured : ∀ {s t}, c.Related s t → t.context.vars.capture = s.context.vars.capture)
    (added
      : ∀ {s t closure}, c.Related s t
        → closure.arena = arena
        → closure.body = body
        → c.Related (s.withClosure closure) (t.withClosure closure))
    : c.Couples (m.createLambda arena params body type?)
        (m'.createLambda arena params body type?) := by
  have target : m'.lambdaTarget type? = m.lambdaTarget type? := by
    unfold Machine.lambdaTarget
    rw [observes.names]
  unfold Machine.createLambda
  rw [target]
  refine (observes.ofExcept (m.ordinary_lambdaTarget type?)).bind fun target => ?_
  refine (observes.ofExcept (Machine.ordinary_lambdaShape target params)).bind fun shape => ?_
  intro s t related
  simp only [Eval.run_get_bind, captured related, observes.this related]
  rw [observes.heap related]
  let closure : Closure :=
    {
      params, body, arena, shape, target
      captured := s.context.vars.capture
      this := s.context.this
    }
  have later := @added s t closure related rfl rfl
  simp only [State.withClosure, observes.heap related] at later
  exact .value later

-----------------------------------------------------------------------------------------
-- Invariants
-----------------------------------------------------------------------------------------

variable {holds : State ω → Prop} {allowed : State ω → Stop → Prop}

/-- An invariant survives an invocation if some invariant of the body, which entering the frame
establishes, leads back to it when the frame is left.
-/
theorem invariant_invoke (m : Machine ω) (permits : Permits allowed)
    {closure : Closure} (args : List Value)
    (body
      : ∀ {state frame}, holds state
        → args.length = closure.params.length
        → closure.frame (m.sceneOf state) args = .ok frame
        → state.context.vars.depth < state.context.vars.limit
        → ∃ inside : State ω → Prop,
            inside (state.entered frame closure.this)
            ∧ (invariant inside allowed).Couples (again closure.job) (again' closure.job)
            ∧ ∀ later, inside later → holds (Machine.leave state.context.this later))
    : (invariant holds allowed).Couples (m.invoke again closure args)
        (m.invoke again' closure args) := by
  have observes := invariant_observes m holds permits
  refine observes.invoke args (fun related => ?_) (fun related => ?_)
    fun related arity bound room => ?_
  · rw [related.1]
  · rw [related.1]
  · obtain ⟨rfl, start⟩ := related
    obtain ⟨inside, entered, couples, left⟩ := body start arity bound room
    refine ⟨(invariant inside allowed).Related, ⟨rfl, entered⟩, couples, fun s t ended => ?_⟩
    obtain ⟨rfl, ended⟩ := ended
    exact ⟨rfl, left s ended⟩

/-- An invariant survives the making of a lambda if it survives that of any lambda with the given
body.
-/
theorem invariant_createLambda (m : Machine ω) (permits : Permits allowed)
    {arena : Arena} {params : List Name} {body : LambdaBody} (type? : Option (ResolvedType Name))
    (added
      : ∀ {state closure}, holds state
        → closure.arena = arena
        → closure.body = body
        → holds (state.withClosure closure))
    : (invariant holds allowed).Couples (m.createLambda arena params body type?)
        (m.createLambda arena params body type?) := by
  refine (invariant_observes m holds permits).createLambda type? (fun related => ?_)
    fun related same own => ?_
  · rw [related.1]
  · obtain ⟨rfl, start⟩ := related
    exact ⟨rfl, added start same own⟩

end Coupling

end Scratchpad
