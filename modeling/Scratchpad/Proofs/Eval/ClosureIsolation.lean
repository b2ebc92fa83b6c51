import Scratchpad.Host.Sample
import Scratchpad.Proofs.Eval.FrameKeeping

/-! A lambda is isolated from the bindings of its caller for every name that it has captured or
takes as a parameter: it neither changes nor sees them. Its own frame binds these names, stays
below every frame that is entered later, and so hides them from all that runs inside.
-/

namespace Scratchpad

-----------------------------------------------------------------------------------------
-- The frame of an invocation
-----------------------------------------------------------------------------------------

namespace Closure

/-- The names that the frame of every invocation binds. -/
def Binds (closure : Closure) (name : Name) : Prop :=
  closure.captured.contains name ∨ name ∈ closure.params

/-- Binding arguments keeps what the frame binds and adds every parameter, by induction on the
parameters.
-/
theorem bindArguments_contains {scene : Scene} {type? : Option PrimitiveType}
    {entries : List (Name × Value)} {frame result : Frame} {name : Name}
    (bound : bindArguments scene type? frame entries = .ok result)
    (known : (frame.get? name).isSome ∨ name ∈ entries.map Prod.fst)
    : (result.get? name).isSome := by
  induction entries generalizing frame with
  | nil =>
      obtain rfl : frame = result := Except.ok.inj bound
      simpa using known
  | cons entry rest ih =>
      have next (value : Value)
          : ((frame.insert entry.1 value).get? name).isSome
            ∨ name ∈ rest.map Prod.fst := by
        rw [Frame.get?_insert]
        by_cases same : name = entry.1
        · simp [same]
        · simpa [same] using known
      unfold bindArguments at bound
      split at bound
      · split at bound
        · exact ih bound (next _)
        · simp at bound
      · exact ih bound (next _)

/-- The frame of an invocation binds what was captured and all parameters. -/
theorem frame_contains {closure : Closure} {scene : Scene} {args : List Value} {frame : Frame}
    {name : Name} (arity : args.length = closure.params.length)
    (bound : closure.frame scene args = .ok frame) (binds : closure.Binds name)
    : (frame.get? name).isSome := by
  refine bindArguments_contains bound (binds.imp id fun member => ?_)
  rwa [List.map_fst_zip (by omega)]

end Closure

-----------------------------------------------------------------------------------------
-- Two runs under one frame that hides names
-----------------------------------------------------------------------------------------

variable {ω : Type}

/-- Two states agree on all that an invocation may depend on or change, apart from the given
names and the receiver.
-/
structure State.AgreeOutside (hidden : Name → Prop) (s t : State ω) : Prop where
  heap : t.heap = s.heap
  world : t.world = s.world
  printout : t.printout = s.printout
  breakPending : t.context.breakPending = s.context.breakPending
  cancelled : t.context.cancelled = s.context.cancelled
  limit : t.context.vars.limit = s.context.vars.limit
  depth : t.context.vars.depth = s.context.vars.depth
  bindings
    : ∀ level name, ¬hidden name
      → t.context.vars.binding? level name = s.context.vars.binding? level name

/-- Two states that agree outside some names have equal frames down to one that binds them all:
from here on, nobody can tell them apart.
-/
structure State.Shielded (hidden : Name → Prop) (shield count : Nat) (s t : State ω) : Prop
    extends s.AgreeOutside hidden t where
  this : t.context.this = s.context.this
  height : s.context.vars.depth = count
  frames
    : ∀ level ≤ shield, t.context.vars.frames[level]? = s.context.vars.frames[level]?
  binds : ∀ name, hidden name → (s.context.vars.binding? shield name).isSome

namespace State.AgreeOutside

variable {hidden : Name → Prop} {s t : State ω}

/-- Entering one frame on both sides keeps the agreement, which now starts one level farther out. -/
theorem entered (agree : s.AgreeOutside hidden t) (frame : Frame) (this : Value)
    : (s.entered frame this).AgreeOutside hidden (t.entered frame this) :=
  {
    agree with
    depth := congrArg (· + 1) agree.depth
    bindings := fun level name visible => by
      cases level with
      | zero => rfl
      | succ level => exact agree.bindings level name visible
  }

/-- Leaving a frame keeps the agreement, whatever receivers are restored.
Witness: behind the frame that is left, bindings are those one level farther out.
-/
theorem leave (agree : s.AgreeOutside hidden t) (inner : 1 < s.context.vars.depth)
    (this this' : Value)
    : (Machine.leave this s).AgreeOutside hidden (Machine.leave this' t) := by
  have inner' : 1 < t.context.vars.depth := agree.depth ▸ inner
  exact {
    agree with
    breakPending := rfl
    limit := by
      simp only [Machine.leave, Variables.limit_pop, agree.limit]
    depth := by
      have first := Variables.depth_pop inner
      have second := Variables.depth_pop inner'
      have same := agree.depth
      simp only [Machine.leave]
      omega
    bindings := fun level name visible => by
      simp only [Machine.leave, Variables.binding?_pop inner, Variables.binding?_pop inner']
      exact agree.bindings (level + 1) name visible
  }

end State.AgreeOutside

namespace State.Shielded

variable {hidden : Name → Prop} {shield count : Nat} {s t : State ω}

/-- The two stacks agree on every name as far as it is not hidden by a nearer frame.
Witness: a hidden name is bound at the shield, so it is seen from no level behind it; all other
names are bound alike everywhere.
-/
theorem binding? (shielded : s.Shielded hidden shield count t) (name : Name) (level : Nat)
    (nearest : ∀ nearer < level, s.context.vars.binding? nearer name = none)
    : t.context.vars.binding? level name = s.context.vars.binding? level name := by
  by_cases concealed : hidden name
  · have above : level ≤ shield := by
      by_contra below
      have held := shielded.binds name concealed
      rw [nearest shield (by omega)] at held
      simp at held
    rw [Variables.binding?, Variables.binding?, shielded.frames level above]
  · exact shielded.bindings level name concealed

/-- Whatever the host does, it does to both states alike. -/
theorem hosted (shielded : s.Shielded hidden shield count t) (heap : Heap) (world : ω)
    (output : Output)
    : (s.hosted heap world output).Shielded hidden shield count
        (t.hosted heap world output) :=
  { shielded with heap := rfl, world := rfl, printout := rfl, cancelled := rfl }

/-- A break is set or taken in both states alike. -/
theorem withBreak (shielded : s.Shielded hidden shield count t) (pending : Bool)
    : (s.withBreak pending).Shielded hidden shield count (t.withBreak pending) :=
  { shielded with breakPending := rfl }

/-- A new lambda gets the same reference in both states, since they share the heap. -/
theorem withClosure (shielded : s.Shielded hidden shield count t) (closure : Closure)
    : (s.withClosure closure).Shielded hidden shield count (t.withClosure closure) :=
  {
    shielded with
    heap := by
      show (t.heap.addClosure closure).2 = (s.heap.addClosure closure).2
      rw [shielded.heap]
  }

/-- The active frame is never below the one that hides names. -/
theorem capture (shielded : s.Shielded hidden shield count t)
    : t.context.vars.capture = s.context.vars.capture :=
  Option.some.inj (shielded.frames 0 (Nat.zero_le _))

/-- A definition binds the same name in both active frames and uncovers nothing. -/
theorem define (shielded : s.Shielded hidden shield count t) (name : Name) (value : Value)
    : (s.withVars (s.context.vars.define name value)).Shielded hidden shield count
        (t.withVars (t.context.vars.define name value)) :=
  {
    shielded with
    bindings := fun level other visible => by
      simp only [withVars, Variables.binding?_define, shielded.bindings level other visible]
    frames := fun level above => by
      simp only [withVars, Variables.frames_define, List.getElem?_modify,
        shielded.frames level above]
    binds := fun other concealed => by
      simp only [withVars, Variables.binding?_define]
      split
      · rfl
      · exact shielded.binds other concealed
  }

/-- Both runs write to the same level, so a name that is hidden is written above or at the frame
that hides it.
-/
theorem assign (shielded : s.Shielded hidden shield count t) (name : Name) (value : Value)
    : (s.withVars (s.context.vars.assign name value)).Shielded hidden shield count
        (t.withVars (t.context.vars.assign name value)) := by
  have holder : t.context.vars.holder name = s.context.vars.holder name :=
    Variables.holder_congr (shielded.binding? name)
  exact {
    shielded with
    limit := by
      simp only [withVars, Variables.limit_assign, shielded.limit]
    depth := by
      simp only [withVars, Variables.depth_assign, shielded.depth]
    height := by
      simp only [withVars, Variables.depth_assign, shielded.height]
    bindings := fun level other visible => by
      simp only [withVars, Variables.binding?_assign, holder,
        shielded.bindings level other visible]
    frames := fun level above => by
      simp only [withVars, Variables.frames_assign, List.getElem?_modify, holder,
        shielded.frames level above]
    binds := fun other concealed => by
      simp only [withVars, Variables.binding?_assign]
      split
      · rfl
      · exact shielded.binds other concealed
  }

/-- One more frame above does not uncover what is hidden.
Witness: the shield is one level farther out, where it binds what it bound.
-/
theorem entered (shielded : s.Shielded hidden shield count t) (frame : Frame) (this : Value)
    : (s.entered frame this).Shielded hidden (shield + 1) (count + 1)
        (t.entered frame this) :=
  {
    shielded.toAgreeOutside.entered frame this with
    this := rfl
    height := congrArg (· + 1) shielded.height
    frames := fun level above => by
      cases level with
      | zero => rfl
      | succ level => exact shielded.frames level (Nat.le_of_succ_le_succ above)
    binds := shielded.binds
  }

/-- Leaving a frame above uncovers nothing either.
Witness: above the shield there was a frame to leave, so the shield itself stays.
-/
theorem leave (shielded : s.Shielded hidden (shield + 1) (count + 1) t) (root : 0 < count)
    (this : Value)
    : (Machine.leave this s).Shielded hidden shield count (Machine.leave this t) := by
  have inner : 1 < s.context.vars.depth := by
    rw [shielded.height]
    omega
  have inner' : 1 < t.context.vars.depth := shielded.depth ▸ inner
  exact {
    shielded.toAgreeOutside.leave inner this this with
    this := rfl
    height := Variables.depth_pop_of_eq shielded.height root
    frames := fun level above => by
      simp only [Machine.leave, Variables.frames_pop inner, Variables.frames_pop inner']
      exact shielded.frames (level + 1) (Nat.succ_le_succ above)
    binds := fun name concealed => by
      simp only [Machine.leave, Variables.binding?_pop inner]
      exact shielded.binds name concealed
  }

end State.Shielded

-----------------------------------------------------------------------------------------
-- Evaluations
-----------------------------------------------------------------------------------------

namespace Coupling

variable {hidden : Name → Prop}

/-- Compares two runs under a frame that hides names. -/
def shielded (hidden : Name → Prop) (shield count : Nat) : Coupling ω :=
  { Related := State.Shielded hidden shield count }

/-- Shielded states show everything that is read alike, hidden names included. -/
theorem shielded_observes (m : Machine ω) (shield count : Nat)
    : (shielded hidden shield count).Observes m m where
  names := rfl
  host := rfl
  heap := fun related => related.heap
  world := fun related => related.world
  permits := .all
  excuses := fun _ _ excuse => excuse
  this := fun related => related.this
  lookup := fun related name => Variables.lookup_congr (related.binding? name)
  breakPending := fun related => related.breakPending
  cancelled := fun related => related.cancelled

/-- Every effect of statements keeps states shielded. -/
theorem shielded_stable {m : Machine ω} (shield count : Nat)
    : (shielded hidden shield count).StatementStable m where
  printout := fun related => related.printout
  hosted := fun related _ _ world => related.hosted _ world _
  assign := fun related name value => related.assign name value
  define := fun related name value => related.define name value
  withBreak := fun related pending => related.withBreak pending

/-- An invocation inside runs one frame further above the hiding one.
Witness: the frame is entered in both runs, above the shield, and left again.
-/
theorem shielded_invoke {m : Machine ω} {again : Job → Eval ω Value}
    (jobs
      : ∀ shield count job, (shielded hidden shield count).Couples (again job) (again job))
    (shield count : Nat) (closure : Closure) (args : List Value)
    : (shielded hidden shield count).Couples (m.invoke again closure args)
        (m.invoke again closure args) := by
  refine (shielded_observes m shield count).invoke args (·.depth) (·.limit) ?_
  intro s t frame related _ _ _
  refine ⟨_, related.entered frame closure.this, jobs (shield + 1) (count + 1) _, ?_⟩
  intro s' t' inside
  rw [related.this]
  exact inside.leave (related.height ▸ Nat.succ_pos _) s.context.this

/-- No job can tell the two runs apart, by induction on the fuel.
Witness: with less fuel the jobs inside cannot tell them apart, at any distance from the shield.
-/
theorem shielded_run (m : Machine ω) (fuel shield count : Nat) (job : Job)
    : (shielded hidden shield count).Couples (m.run fuel job) (m.run fuel job) := by
  induction fuel generalizing shield count job with
  | zero => exact .throw fun _ => trivial
  | succ fuel ih =>
      have observes : (shielded hidden shield count).Observes m m :=
        shielded_observes m shield count
      refine ((shielded_stable shield count).effects observes rfl rfl fun _ _ => trivial).perform
        (fun _ => trivial) (ih shield count) (shielded_invoke ih shield count)
        (fun arena params body type? => ?_) job
      exact observes.createLambda type? (·.capture) fun related _ _ => related.withClosure _

/-- Compares two invocations from states that agree outside the names the lambda binds. -/
def agreeOutside (hidden : Name → Prop) : Coupling ω := { Related := State.AgreeOutside hidden }

/-- States that agree outside the hidden names show values in the same way. -/
theorem agreeOutside_shares (m : Machine ω) : (agreeOutside hidden).Shares m m where
  names := rfl
  host := rfl
  heap := fun related => related.heap
  world := fun related => related.world
  permits := .all
  excuses := fun _ _ excuse => excuse

/-- The frame of an invocation hides all names that the lambda binds, so its body runs
shielded.
-/
theorem agreeOutside_invoke (m : Machine ω) (fuel : Nat) (closure : Closure)
    (args : List Value)
    : (agreeOutside closure.Binds).Couples (m.invoke (m.run fuel) closure args)
        (m.invoke (m.run fuel) closure args) := by
  refine (agreeOutside_shares m).invoke args (·.depth) (·.limit) ?_
  intro s t frame related arity bound _
  have entered
      : (s.entered frame closure.this).Shielded closure.Binds 0
          (s.context.vars.depth + 1) (t.entered frame closure.this) :=
    {
      related.entered frame closure.this with
      this := rfl
      height := rfl
      frames := fun level above => by
        obtain rfl := Nat.le_zero.mp above
        rfl
      binds := fun name binds => Closure.frame_contains arity bound binds
    }
  refine ⟨_, entered, shielded_run m fuel 0 _ _, ?_⟩
  intro s' t' inside
  refine inside.toAgreeOutside.leave ?_ _ _
  rw [inside.height]
  exact Nat.succ_lt_succ (Nat.succ_pos _)

/-- Follows what the frames of the caller hold for some names. -/
def untouched (names : Name → Prop) (start : State ω) : Coupling ω :=
  invariant
    (fun later =>
      ∀ level name, names name
        → later.context.vars.binding? level name = start.context.vars.binding? level name)
    fun _ _ => True

/-- Whatever the body does, the frame of the invocation stays in front of the caller's bindings
for the names it binds, and what is hidden keeps its value.
-/
theorem untouched_invoke (m : Machine ω) (fuel : Nat) (start : State ω) (closure : Closure)
    (args : List Value)
    : (untouched closure.Binds start).Couples (m.invoke (m.run fuel) closure args)
        (m.invoke (m.run fuel) closure args) := by
  refine invariant_invoke m .all args fun {state frame} same arity bound _ => ?_
  refine ⟨
    (state.entered frame closure.this).Framed, .refl _, framed_run m fuel _ _,
    fun later body level name binds => ?_
  ⟩
  have depth : later.context.vars.depth = state.context.vars.depth + 1 := body.vars.depth
  have inner : 1 < later.context.vars.depth := by
    rw [depth]
    exact Nat.succ_lt_succ (Nat.succ_pos _)
  have hides : ((state.entered frame closure.this).context.vars.binding? 0 name).isSome := by
    rw [State.entered, Variables.binding?_pushed_zero]
    exact Closure.frame_contains arity bound binds
  calc (Machine.leave state.context.this later).context.vars.binding? level name
    _ = later.context.vars.binding? (level + 1) name := Variables.binding?_pop inner level name
    _ = (state.entered frame closure.this).context.vars.binding? (level + 1) name :=
      body.vars.hidden 0 (level + 1) name (Nat.succ_pos _) hides
    _ = state.context.vars.binding? level name := Variables.binding?_pushed_succ _ _ _ _
    _ = start.context.vars.binding? level name := same level name binds

end Coupling

-----------------------------------------------------------------------------------------
-- Invocations
-----------------------------------------------------------------------------------------

namespace Machine

/-- A lambda leaves the caller's bindings for the names it binds as they are, and two callers that
differ in these names and in the receiver alone get the same from it and still differ in nothing
else.
-/
theorem closure_isolation (m : Machine ω) (fuel : Nat) (closure : Closure) (args : List Value)
    : (∀ (state : State ω) (level : Nat) (name : Name), closure.Binds name
        → ((m.invoke (m.run fuel) closure args).run state).2.context.vars.binding? level name
          = state.context.vars.binding? level name)
      ∧ ∀ s t : State ω, s.AgreeOutside closure.Binds t
        → ((m.invoke (m.run fuel) closure args).run t).1
            = ((m.invoke (m.run fuel) closure args).run s).1
          ∧ ((m.invoke (m.run fuel) closure args).run s).2.AgreeOutside closure.Binds
              ((m.invoke (m.run fuel) closure args).run t).2 := by
  refine ⟨fun state level name binds => ?_, fun s t agree => ?_⟩
  · have invoked := Coupling.untouched_invoke m fuel state closure args
    exact (invoked.keeps fun _ _ _ => rfl).1 level name binds
  · exact (Coupling.agreeOutside_invoke m fuel closure args).agree (fun _ excuse => excuse) agree

/-- A lambda that overwrites its parameter. -/
def overwriting : Closure :=
  {
    params := [⟨3⟩]
    body := .expr ⟨2⟩
    arena := {
      exprs :=
        #[
          { kind := .ident ⟨3⟩ },
          { kind := .literal (.int 7) },
          { kind := .assign .assign ⟨0⟩ ⟨1⟩ }
        ]
    }
    captured := {}
    this := .null
    shape := ⟨.unaryNumeric .int, "applyAsInt"⟩
    target := "java.util.function.IntUnaryOperator"
  }

/-- A caller whose receiver is also in its only variable, which has the parameter's name. -/
def caller (value : Value) : State SampleHost.World :=
  {
    context := { this := value, vars := { active := ⟨[(⟨3⟩, value)]⟩, limit := 2 } }
    world := {}
  }

/-- What such a caller gets. -/
def overwrite (value : Value) : Except Stop Value × State SampleHost.World :=
  let m : Machine SampleHost.World := { names := {}, host := SampleHost.host }
  (m.invoke (m.run 2) overwriting [.int 1]).run (caller value)

/-- The lambda writes under a name that both callers hold, one of them with no number.
Witness: what the callers disagree on is hidden by the frame of the lambda, as it captures the name.
-/
theorem overwriting_isolation
    : overwriting.Binds ⟨3⟩
      ∧ (caller .null).AgreeOutside overwriting.Binds (caller (.int 5))
      ∧ (overwrite (.int 5)).2.context.vars.binding? 0 ⟨3⟩
        = (caller (.int 5)).context.vars.binding? 0 ⟨3⟩
      ∧ (overwrite (.int 5)).1 = (overwrite .null).1
      ∧ (overwrite .null).2.AgreeOutside overwriting.Binds (overwrite (.int 5)).2 := by
  have binds : overwriting.Binds ⟨3⟩ := .inr (by decide)
  have agree : (caller .null).AgreeOutside overwriting.Binds (caller (.int 5)) :=
    {
      heap := rfl
      world := rfl
      printout := rfl
      breakPending := rfl
      cancelled := rfl
      limit := rfl
      depth := rfl
      bindings := fun level name visible => by
        have other : (name == ⟨3⟩) = false := beq_false_of_ne fun same => visible (same ▸ binds)
        cases level with
        | zero =>
            simp [caller, Variables.binding?, Variables.frames, Frame.get?, List.lookup_cons,
              other]
        | succ level => rfl
    }
  obtain ⟨kept, alike⟩ :=
    closure_isolation { names := {}, host := SampleHost.host } 2 overwriting [.int 1]
  exact ⟨binds, agree, kept _ 0 _ binds, alike _ _ agree⟩

end Machine

end Scratchpad
