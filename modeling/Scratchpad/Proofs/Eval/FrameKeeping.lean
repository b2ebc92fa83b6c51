import Scratchpad.Eval.Run
import Scratchpad.Proofs.Eval.Invocation

/-! What evaluation never changes: the number of frames, the receiver, which names the outer frames
bind, the lengths of arrays, and every binding that a nearer frame hides.
-/

namespace Scratchpad

-----------------------------------------------------------------------------------------
-- Stacks
-----------------------------------------------------------------------------------------

/-- A stack after an evaluation, seen from the one before. -/
structure Variables.Kept (before after : Variables) : Prop where
  limit : after.limit = before.limit
  depth : after.depth = before.depth
  /-- The outer frames bind the same names. -/
  outer
    : ∀ level name, 0 < level
      → ((after.binding? level name).isSome ↔ (before.binding? level name).isSome)
  /-- The active frame binds what it bound. -/
  active : ∀ name, (before.binding? 0 name).isSome → (after.binding? 0 name).isSome
  /-- What a nearer frame hides keeps its value. -/
  hidden
    : ∀ nearer level name, nearer < level
      → (before.binding? nearer name).isSome
      → after.binding? level name = before.binding? level name

namespace Variables.Kept

/-- Variables that nothing happened to are kept. -/
theorem refl (vars : Variables) : vars.Kept vars :=
  ⟨rfl, rfl, fun _ _ _ => Iff.rfl, fun _ held => held, fun _ _ _ _ _ => rfl⟩

/-- A frame goes on binding what it bound. -/
theorem isSome {before after : Variables} (kept : before.Kept after) {level : Nat}
    {name : Name} (held : (before.binding? level name).isSome)
    : (after.binding? level name).isSome := by
  cases level with
  | zero => exact kept.active name held
  | succ level => exact (kept.outer (level + 1) name (Nat.succ_pos _)).mpr held

/-- Evaluations compose: what hides a binding before the first still does before the second.
Witness: outer names are the same names throughout, and a binding that is hidden stays so, since the
names that hide it are never lost.
-/
theorem trans {first second third : Variables} (early : first.Kept second)
    (late : second.Kept third)
    : first.Kept third where
  limit := late.limit.trans early.limit
  depth := late.depth.trans early.depth
  outer := fun level name below =>
    (late.outer level name below).trans (early.outer level name below)
  active := fun name held => late.active name (early.active name held)
  hidden := fun nearer level name inside held =>
    (late.hidden nearer level name inside (early.isSome held)).trans
      (early.hidden nearer level name inside held)

/-- A definition adds a name to the active frame and touches no other. -/
theorem define (vars : Variables) (name : Name) (value : Value)
    : vars.Kept (vars.define name value) where
  limit := rfl
  depth := rfl
  outer := fun level other below => by
    rw [binding?_define, if_neg (by omega)]
  active := fun other held => by
    rw [binding?_define]
    split
    · rfl
    · exact held
  hidden := fun nearer level other inside _ => by
    rw [binding?_define, if_neg (by omega)]

/-- An assignment writes where the name is held, so a hidden binding is out of its reach.
Witness: the level that is written to is the nearest that holds the name, or the active one if none
does; at any other level nothing changes.
-/
theorem assign (vars : Variables) (name : Name) (value : Value)
    : vars.Kept (vars.assign name value) where
  limit := vars.limit_assign name value
  depth := vars.depth_assign name value
  outer := fun level other below => by
    rw [binding?_assign]
    split
    · next written =>
      obtain ⟨rfl, rfl⟩ := written
      obtain ⟨level, held, nearest⟩ | absent := vars.nearest_or_absent other
      · rw [holder_eq nearest held]
        simp [held]
      · rw [holder_eq_zero absent] at below
        omega
    · rfl
  active := fun other held => by
    rw [binding?_assign]
    split
    · rfl
    · exact held
  hidden := fun nearer level other inside held => by
    rw [binding?_assign, if_neg]
    rintro ⟨rfl, rfl⟩
    obtain ⟨holder, found, nearest⟩ | absent := vars.nearest_or_absent other
    · rw [holder_eq nearest found] at inside
      rw [nearest nearer inside] at held
      simp at held
    · rw [absent nearer] at held
      simp at held

/-- What is kept above a frame is kept after leaving it.
Witness: below the frame that is left, levels and names are those of the stack one frame deeper.
-/
theorem pop {vars after : Variables} {frame : Frame} (kept : (vars.pushed frame).Kept after)
    : vars.Kept after.pop := by
  have depth : after.depth = vars.depth + 1 := kept.depth
  have inner : 1 < after.depth := by
    rw [depth]
    exact Nat.succ_lt_succ (Nat.succ_pos _)
  refine {
    limit := (limit_pop after).trans kept.limit
    depth := depth_pop_of_eq depth (Nat.succ_pos _)
    outer := fun level name _ => ?_
    active := fun name held => ?_
    hidden := fun nearer level name inside held => ?_
  }
  · rw [binding?_pop inner]
    exact kept.outer (level + 1) name (Nat.succ_pos _)
  · rw [binding?_pop inner]
    exact (kept.outer 1 name Nat.one_pos).mpr held
  · rw [binding?_pop inner]
    exact kept.hidden (nearer + 1) (level + 1) name (Nat.succ_lt_succ inside) held

end Variables.Kept

-----------------------------------------------------------------------------------------
-- States
-----------------------------------------------------------------------------------------

variable {ω : Type}

/-- A state after an evaluation, seen from the one before. -/
structure State.Framed (before after : State ω) : Prop where
  vars : before.context.vars.Kept after.context.vars
  this : after.context.this = before.context.this
  /-- Every array keeps its component and its length. -/
  arrays
    : ∀ (index : Nat) (object : ArrayObject), before.heap.arrays[index]? = some object
      → ∃ later : ArrayObject, after.heap.arrays[index]? = some later
        ∧ later.component = object.component
        ∧ later.elements.size = object.elements.size

namespace State.Framed

/-- A state that nothing happened to is framed. -/
theorem refl (state : State ω) : state.Framed state :=
  ⟨.refl _, rfl, fun _ object known => ⟨object, known, rfl, rfl⟩⟩

/-- Framed twice is framed: an array is followed through the state in between. -/
theorem trans {first second third : State ω} (early : first.Framed second)
    (late : second.Framed third)
    : first.Framed third := by
  refine ⟨early.vars.trans late.vars, late.this.trans early.this, ?_⟩
  intro index object known
  obtain ⟨middle, kept, component, size⟩ := early.arrays index object known
  obtain ⟨last, found, component', size'⟩ := late.arrays index middle kept
  exact ⟨last, found, component'.trans component, size'.trans size⟩

/-- The host may extend the heap and touches no frame. -/
theorem hosted (state : State ω) {heap : Heap} (extended : state.heap.Extends heap) (world : ω)
    (output : Output)
    : state.Framed (state.hosted heap world output) :=
  ⟨.refl _, rfl, extended.arrays⟩

/-- Changing the variables in a way that keeps them frames the state. -/
theorem withVars {state : State ω} {vars : Variables} (kept : state.context.vars.Kept vars)
    : state.Framed (state.withVars vars) :=
  ⟨kept, rfl, (refl state).arrays⟩

/-- A break touches no frame. -/
theorem withBreak (state : State ω) (pending : Bool) : state.Framed (state.withBreak pending) :=
  ⟨.refl _, rfl, (refl state).arrays⟩

/-- A new lambda touches no frame and no array. -/
theorem withClosure (state : State ω) (closure : Closure)
    : state.Framed (state.withClosure closure) :=
  ⟨.refl _, rfl, (refl state).arrays⟩

/-- Leaving the frame of a lambda restores what its entry changed. -/
theorem leave {state later : State ω} {frame : Frame} {this : Value}
    (body : (state.entered frame this).Framed later)
    : state.Framed (Machine.leave state.context.this later) :=
  ⟨body.vars.pop, rfl, body.arrays⟩

end State.Framed

-----------------------------------------------------------------------------------------
-- Evaluations
-----------------------------------------------------------------------------------------

namespace Coupling

/-- Follows a run from a given state. -/
def framed (start : State ω) : Coupling ω := invariant start.Framed fun _ _ => True

/-- Every change of state by an action keeps the frames. -/
theorem framed_invariant {m : Machine ω} (start : State ω)
    : StatementInvariant m start.Framed where
  hosted := fun kept extended _ world => kept.trans (.hosted _ extended world _)
  assign := fun kept name value => kept.trans (.withVars (.assign _ name value))
  define := fun kept name value => kept.trans (.withVars (.define _ name value))
  withBreak := fun kept pending => kept.trans (.withBreak _ pending)

/-- An invocation keeps the frames if all jobs do; its own frame is gone again afterwards.
Witness: inside, the entered frame is kept, and leaving it uncovers the frames that were there.
-/
theorem framed_invoke {m : Machine ω} {again : Job → Eval ω Value}
    (jobs : ∀ start job, (framed start).Couples (again job) (again job)) (start : State ω)
    (closure : Closure) (args : List Value)
    : (framed start).Couples (m.invoke again closure args) (m.invoke again closure args) := by
  refine invariant_invoke m .all args fun {state frame} kept _ _ _ => ?_
  exact ⟨
    (state.entered frame closure.this).Framed, .refl _, jobs _ _,
    fun _ body => kept.trans body.leave
  ⟩

/-- Every job keeps the frames, by induction on the fuel.
Witness: with less fuel the jobs inside keep the frames, and so does every effect.
-/
theorem framed_run (m : Machine ω) (fuel : Nat) (start : State ω) (job : Job)
    : (framed start).Couples (m.run fuel job) (m.run fuel job) := by
  induction fuel generalizing start job with
  | zero => exact .throw fun _ => trivial
  | succ fuel ih =>
      have effects : (framed start).StatementEffects m m :=
        (framed_invariant start).effects .all fun _ _ => trivial
      refine effects.perform (fun _ => trivial) (ih start) (framed_invoke ih start)
        (fun _ _ _ type? => ?_) job
      exact invariant_createLambda m .all type? fun kept _ _ =>
        kept.trans (.withClosure _ _)

end Coupling

namespace Machine

/-- However it ends, an evaluation leaves the frames and the receiver as they were, the outer
frames binding the same names and the active one no fewer, and every array at its length. The
host is arbitrary.
-/
theorem evaluation_keeps_frames (m : Machine ω) (fuel : Nat) (state : State ω)
    : (∀ arena id receiver,
        state.Framed ((m.run fuel (.eval arena id receiver)).run state).2)
      ∧ (∀ arena id, state.Framed ((m.run fuel (.exec arena id)).run state).2)
      ∧ ∀ closure args, state.Framed ((m.invoke (m.run fuel) closure args).run state).2 := by
  have start : state.Framed state := .refl state
  refine ⟨fun arena id receiver => ?_, fun arena id => ?_, fun closure args => ?_⟩
  · exact ((Coupling.framed_run m fuel state _).keeps start).1
  · exact ((Coupling.framed_run m fuel state _).keeps start).1
  · exact ((Coupling.framed_invoke (Coupling.framed_run m fuel) state closure args).keeps start).1

end Machine

end Scratchpad
