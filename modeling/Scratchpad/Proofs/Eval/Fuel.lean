import Scratchpad.Proofs.Eval.Invocation

/-! Fuel bounds how deep jobs nest and decides nothing else: with more of it, an evaluation that
did not run out goes exactly the same way.
-/

namespace Scratchpad

variable {ω : Type}

namespace Coupling

/-- Compares a run with one on more fuel, unless the first runs out. -/
def refueled : Coupling ω := { Related := Eq, Excused := (· = .outOfFuel) }

/-- On equal states everything that is read is the same. -/
theorem refueled_observes (m : Machine ω) : refueled.Observes m m where
  names := rfl
  host := rfl
  heap := fun same => congrArg State.heap same.symm
  world := fun same => congrArg State.world same.symm
  permits := .all
  excuses := fun _ _ spent => by
    cases spent
    rfl
  this := fun same => congrArg (·.context.this) same.symm
  lookup := fun same name => congrArg (·.context.vars.lookup name) same.symm
  breakPending := fun same => congrArg (·.context.breakPending) same.symm
  cancelled := fun same => congrArg (·.context.cancelled) same.symm

/-- Equal states stay equal under every effect. -/
theorem refueled_stable {m : Machine ω} : refueled.StatementStable m where
  printout := fun same => congrArg State.printout same.symm
  hosted := fun same _ _ _ => by
    cases same
    rfl
  assign := fun same _ _ => by
    cases same
    rfl
  define := fun same _ _ => by
    cases same
    rfl
  withBreak := fun same _ => by
    cases same
    rfl

/-- An invocation goes the same way on both sides, if its body does. -/
theorem refueled_invoke {m : Machine ω} {again again' : Job → Eval ω Value}
    (jobs : ∀ job, refueled.Couples (again job) (again' job)) (closure : Closure)
    (args : List Value)
    : refueled.Couples (m.invoke again closure args) (m.invoke again' closure args) := by
  refine (refueled_observes m).invoke args (fun same => ?_) (fun same => ?_)
    fun {s _ _} same _ _ _ => ?_
  · cases same
    rfl
  · cases same
    rfl
  · cases same
    exact ⟨Eq, rfl, jobs _, fun _ _ same => congrArg (Machine.leave s.context.this) same⟩

/-- A job goes the same way on more fuel, by induction on the smaller amount.
Witness: on no fuel there is nothing to show, and with one unit more on both sides the jobs inside
go the same way.
-/
theorem refueled_run (m : Machine ω) {fuel more : Nat} (le : fuel ≤ more) (job : Job)
    : refueled.Couples (m.run fuel job) (m.run more job) := by
  induction fuel generalizing more job with
  | zero => exact fun _ _ _ => .excused rfl
  | succ fuel ih =>
      cases more with
      | zero => omega
      | succ more =>
          have jobs (job : Job) : refueled.Couples (m.run fuel job) (m.run more job) :=
            ih (Nat.le_of_succ_le_succ le) job
          have observes := refueled_observes m
          refine (refueled_stable.effects observes rfl rfl fun _ _ => trivial).perform
            (fun _ => trivial) jobs (refueled_invoke jobs) (fun arena params body type? => ?_) job
          refine observes.createLambda type? (fun same => ?_) fun same _ _ => ?_
          · cases same
            rfl
          · cases same
            rfl

end Coupling

namespace Machine

/-- An evaluation that did not run out of fuel ends the same way on more of it.
Witness: the only excuse for a difference is to have run out of fuel.
-/
theorem run_eq_of_le (m : Machine ω) {fuel more : Nat} {job : Job} {state : State ω}
    (finished : ((m.run fuel job).run state).1 ≠ .error .outOfFuel) (le : fuel ≤ more)
    : (m.run more job).run state = (m.run fuel job).run state := by
  have outcome := Coupling.refueled_run m le job state state rfl
  generalize (m.run fuel job).run state = first at finished outcome ⊢
  generalize (m.run more job).run state = second at outcome
  cases outcome with
  | excused excuse => exact absurd (congrArg Except.error excuse) finished
  | value same => rw [same]
  | stop _ same => rw [same]

end Machine

end Scratchpad
