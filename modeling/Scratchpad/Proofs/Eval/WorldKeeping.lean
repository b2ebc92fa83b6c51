import Scratchpad.Proofs.Eval.Invocation

/-! The world belongs to the host. Evaluation reaches it through the actions that the host offers
and in no other way, so what each of them keeps of the world, every run keeps.
-/

namespace Scratchpad

variable {ω α : Type}

/-- The host keeps something of its world in whatever it does. -/
def Host.Preserves (host : Host ω) (holds : ω → Prop) : Prop :=
  ∀ {α : Type} {action : HostAction ω α}, host.Offers action
    → ∀ heap world, holds world → holds (action heap world).world

namespace Coupling

variable {m : Machine ω} {holds : ω → Prop}

/-- Follows what holds of the world through a run. -/
def worldly (holds : ω → Prop) : Coupling ω :=
  invariant (fun state => holds state.world) fun _ _ => True

/-- A property of the world does not restrict what may be read or how an evaluation stops. -/
theorem worldly_observes (m : Machine ω) (holds : ω → Prop) : (worldly holds).Observes m m :=
  invariant_observes m _ .all

/-- A call of the host keeps what the host preserves; printing does not touch the world. -/
theorem worldly_callHost (preserves : m.host.Preserves holds) {action : HostAction ω α}
    (offered : m.host.Offers action)
    : (worldly holds).Couples (m.callHost action) (m.callHost action) := by
  intro s t related
  obtain ⟨rfl, start⟩ := related
  obtain ⟨output, _, runs⟩ := m.exists_run_callHost action s
  rw [runs s rfl rfl rfl]
  exact .value ⟨rfl, preserves offered s.heap s.world start⟩

/-- Changing the context does not touch the world. -/
theorem worldly_modifyContext (change : Context → Context)
    : (worldly holds).Couples (Eval.modifyContext change) (Eval.modifyContext change) := by
  intro s t related
  obtain ⟨rfl, start⟩ := related
  exact .value ⟨rfl, start⟩

/-- Storing an element does not touch the world, whether or not the index is in range. -/
theorem worldly_storeElement (m : Machine ω) (ref : ArrayRef) (index : Int32) (value : Value)
    : (worldly holds).Couples (Machine.storeElement ref index value)
        (Machine.storeElement ref index value) := by
  intro s t related
  obtain ⟨rfl, start⟩ := related
  simp only [Machine.storeElement, Eval.run_get_bind]
  cases s.heap.store? ref index value with
  | none => exact (worldly_observes m holds).outOfBounds ref index s s ⟨rfl, start⟩
  | some heap => exact .value ⟨rfl, start⟩

/-- Allocating an array does not touch the world. -/
theorem worldly_allocate (object : ArrayObject)
    : (worldly holds).Couples (Machine.allocate object) (Machine.allocate object) := by
  intro s t related
  obtain ⟨rfl, start⟩ := related
  exact .value ⟨rfl, start⟩

/-- All effects of statements keep what the host preserves, since only its calls touch the world. -/
theorem worldly_effects (preserves : m.host.Preserves holds)
    : (worldly holds).StatementEffects m m :=
  {
    worldly_observes m holds with
    callHost := worldly_callHost preserves
    assign := fun _ _ => worldly_modifyContext _
    writeElement := fun op _ =>
      (worldly_observes m holds).writeElement (worldly_storeElement m) op
    newArray := fun component init =>
      (worldly_observes m holds).newArray worldly_allocate component init
    define := fun _ _ => worldly_modifyContext _
    takeBreak := by
      refine .read fun s t related => ?_
      obtain ⟨rfl, _⟩ := related
      exact (worldly_modifyContext _).bind fun _ => .pure _
    requestBreak := worldly_modifyContext _
    loop := (worldly_observes m holds).loop rfl fun _ _ => trivial
  }

/-- Induction on the fuel; the frame of a lambda is no part of the world.
Witness: with less fuel the jobs inside keep the property, and every effect does.
-/
theorem worldly_run (preserves : m.host.Preserves holds) (fuel : Nat) (job : Job)
    : (worldly holds).Couples (m.run fuel job) (m.run fuel job) := by
  induction fuel generalizing job with
  | zero => exact .throw fun _ => trivial
  | succ fuel ih =>
      refine (worldly_effects preserves).perform (fun _ => trivial) ih (fun closure args => ?_)
        (fun arena params body type? => ?_) job
      · refine invariant_invoke m .all args fun start _ _ _ => ?_
        exact ⟨fun state => holds state.world, start, ih _, fun _ later => later⟩
      · exact invariant_createLambda m .all type? fun start _ _ => start

end Coupling

namespace Machine

variable {m : Machine ω} {holds : ω → Prop}

/-- A job keeps what the host preserves. -/
theorem run_preserves (preserves : m.host.Preserves holds) (fuel : Nat) (job : Job)
    {state : State ω} (start : holds state.world)
    : holds ((m.run fuel job).run state).2.world :=
  ((Coupling.worldly_run preserves fuel job).keeps start).1

/-- The state after jobs that are run one after the other, however each of them ends. -/
def runAll (m : Machine ω) (jobs : List (Nat × Job)) (state : State ω) : State ω :=
  jobs.foldl (fun before entry => ((m.run entry.1 entry.2).run before).2) state

/-- A sequence of jobs keeps what the host preserves, by induction on the jobs. -/
theorem runAll_preserves (preserves : m.host.Preserves holds) (jobs : List (Nat × Job))
    {state : State ω} (start : holds state.world)
    : holds (m.runAll jobs state).world := by
  induction jobs generalizing state with
  | nil => exact start
  | cons entry rest ih => exact ih (run_preserves preserves entry.1 entry.2 start)

end Machine

end Scratchpad
