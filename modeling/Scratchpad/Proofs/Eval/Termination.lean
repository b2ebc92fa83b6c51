import Scratchpad.Host.Sample
import Scratchpad.Proofs.Eval.Fuel

/-! Every evaluation ends with a value or an error of the program, on fuel that is known when it
starts. A job nests inside another through a child node, which there are boundedly many of along
any path, or through a lambda, whose frame takes up room below the limit. Loops do not nest.
-/

namespace Scratchpad

variable {ω : Type}

-----------------------------------------------------------------------------------------
-- Bounded jobs
-----------------------------------------------------------------------------------------

/-- A lambda whose body is in a sound arena. -/
structure Closure.Sound (closure : Closure) : Prop where
  arena : closure.arena.Sound
  body : closure.arena.Holds closure.body.node

/-- All lambdas are sound. Each of them can be reached, since the host may hand out any. -/
def Heap.Sound (heap : Heap) : Prop := ∀ closure ∈ heap.closures, closure.Sound

/-- The job is on a node of limited depth. -/
def Job.Within (job : Job) (bound : Nat) : Prop := job.arena.Within bound job.node

/-- The job that a lambda runs is on its body. -/
theorem Closure.job_within {closure : Closure} {bound : Nat}
    (within : closure.arena.Within bound closure.body.node)
    : closure.job.Within bound := by
  unfold Closure.job
  split
  · next id body => simpa [Job.Within, Job.arena, Job.node, body, LambdaBody.node] using within
  · next id body => simpa [Job.Within, Job.arena, Job.node, body, LambdaBody.node] using within

/-- A state at a given depth of frames in which no lambda nests deeper than a given size. -/
structure State.Bounded (size depth limit : Nat) (state : State ω) : Prop where
  depth : state.context.vars.depth = depth
  limit : state.context.vars.limit = limit
  bodies : ∀ closure ∈ state.heap.closures, closure.job.Within size

namespace State.Bounded

variable {size depth limit : Nat} {state : State ω}

/-- The host leaves lambdas and frames alone, and so the bounds. -/
theorem hosted (bounded : state.Bounded size depth limit) {heap : Heap}
    (extended : state.heap.Extends heap) (world : ω) (output : Output)
    : (state.hosted heap world output).Bounded size depth limit :=
  { bounded with bodies := by simpa [State.hosted, extended.closures] using bounded.bodies }

/-- A new lambda whose body nests within the bound joins the others. -/
theorem withClosure (bounded : state.Bounded size depth limit) {closure : Closure}
    (within : closure.job.Within size)
    : (state.withClosure closure).Bounded size depth limit := by
  refine { bounded with bodies := fun other member => ?_ }
  rcases Array.mem_push.mp member with known | rfl
  · exact bounded.bodies other known
  · exact within

/-- Entering a frame takes one from the room that is left. -/
theorem entered (bounded : state.Bounded size depth limit) (frame : Frame) (this : Value)
    : (state.entered frame this).Bounded size (depth + 1) limit :=
  { bounded with depth := congrArg (· + 1) bounded.depth }

/-- Leaving a frame gives one back. -/
theorem leave (bounded : state.Bounded size (depth + 1) limit) (root : 0 < depth)
    (this : Value)
    : (Machine.leave this state).Bounded size depth limit where
  depth := Variables.depth_pop_of_eq bounded.depth root
  limit := (Variables.limit_pop _).trans bounded.limit
  bodies := bounded.bodies

end State.Bounded

-----------------------------------------------------------------------------------------
-- Evaluations
-----------------------------------------------------------------------------------------

namespace Coupling

variable {size depth limit : Nat}

/-- Follows a run that stops with errors of the program only. -/
def ending (size depth limit : Nat) : Coupling ω :=
  invariant (State.Bounded size depth limit) fun _ stop => ∃ error, stop = .error error

/-- Every stop that is an error is an end. -/
theorem ending_permits : Permits fun (_ : State ω) stop => ∃ error, stop = .error error :=
  .ofStops fun error => ⟨error, rfl⟩

/-- No effect of a statement changes the depth, the limit or the bodies of lambdas. -/
theorem bounded_invariant {m : Machine ω}
    : StatementInvariant m (State.Bounded size depth limit) where
  hosted := fun bounded extended _ world => bounded.hosted extended world _
  assign := fun bounded name value =>
    {
      bounded with
      depth := (Variables.depth_assign _ name value).trans bounded.depth
      limit := (Variables.limit_assign _ name value).trans bounded.limit
    }
  define := fun bounded _ _ => { bounded with }
  withBreak := fun bounded _ => { bounded with }

/-- An invocation ends if, where there is room for its frame, the jobs in that frame do.
Witness: a frame is entered only below the limit, where the body runs one frame deeper.
-/
theorem ending_invoke (m : Machine ω) {again : Job → Eval ω Value}
    (bodies
      : depth < limit
        → ∀ job : Job, job.Within size
          → (ending size (depth + 1) limit).Couples (again job) (again job))
    {closure : Closure} (within : closure.job.Within size) (args : List Value)
    : (ending size depth limit).Couples (m.invoke again closure args)
        (m.invoke again closure args) := by
  refine invariant_invoke m ending_permits args fun bounded _ _ room => ?_
  rw [bounded.depth, bounded.limit] at room
  have root : 0 < depth := bounded.depth ▸ Nat.succ_pos _
  exact ⟨
    State.Bounded size (depth + 1) limit, bounded.entered _ _, bodies room _ within,
    fun _ inside => inside.leave root _
  ⟩

/-- A job ends if those on the nodes below its own do, and those of lambdas in the next
frame.
-/
theorem ending_perform (m : Machine ω) {again : Job → Eval ω Value} {bound : Nat} {job : Job}
    (within : job.Within (bound + 1)) (small : bound ≤ size)
    (jobs
      : ∀ job : Job, job.Within bound
        → (ending size depth limit).Couples (again job) (again job))
    (bodies
      : depth < limit
        → ∀ job : Job, job.Within size
          → (ending size (depth + 1) limit).Couples (again job) (again job))
    : (ending size depth limit).Couples (m.perform again job) (m.perform again job) := by
  obtain ⟨held, below⟩ := within
  have effects : (ending size depth limit).StatementEffects m m :=
    bounded_invariant.effects ending_permits fun _ _ => ⟨_, rfl⟩
  refine effects.performNear (fun _ _ _ => trivial) (job.arena.Within bound) (absurd held)
    (fun _ within => absurd within.holds) below (fun _ within _ => within.child)
    (fun other same within => jobs other ?_)
    (fun related member args => ending_invoke m bodies (related.2.bodies _ member) args)
    fun params body type? within => ?_
  · rwa [Job.Within, same]
  · refine invariant_createLambda m ending_permits type? fun bounded same own => ?_
    refine bounded.withClosure (Closure.job_within ?_)
    rw [same, own]
    exact within.mono small

/-- A job ends on fuel for its own depth and, for every frame that there is room for, the depth of
any lambda; induction on the fuel.
-/
theorem ending_run (m : Machine ω) {fuel bound : Nat} {job : Job} (within : job.Within bound)
    (small : bound ≤ size) (enough : (limit - depth) * (size + 1) + bound ≤ fuel)
    : (ending size depth limit).Couples (m.run fuel job) (m.run fuel job) := by
  induction fuel generalizing bound depth job with
  | zero =>
      obtain rfl : bound = 0 := by omega
      exact within.elim
  | succ fuel ih =>
      cases bound with
      | zero => exact within.elim
      | succ bound =>
          refine ending_perform m within (by omega) (fun job nested => ?_) fun room job body => ?_
          · exact ih nested (by omega) (by omega)
          · -- The frame takes up room, which pays for a body of any size.
            refine ih body le_rfl ?_
            have rooms : limit - depth = limit - (depth + 1) + 1 := by omega
            rw [rooms, Nat.succ_mul] at enough
            omega

end Coupling

-----------------------------------------------------------------------------------------
-- Sufficient fuel
-----------------------------------------------------------------------------------------

namespace Machine

/-- The largest arena is the maximum of a list of sizes.
Witness: a maximum is no less than any member.
-/
theorem le_largestArena (arena : Arena) (heap : Heap)
    : arena.size ≤ largestArena arena heap
      ∧ ∀ closure ∈ heap.closures, closure.arena.size ≤ largestArena arena heap := by
  let sizes : List Nat := heap.closures.toList.map (·.arena.size)
  have maximum : (arena.size :: sizes).max? = some (largestArena arena heap) := by
    rw [List.max?_cons', List.foldl_map, Array.foldl_toList]
    rfl
  have bounds := (List.max?_eq_some_iff.mp maximum).2
  refine ⟨bounds _ (by simp), fun closure member => bounds _ ?_⟩
  exact List.mem_cons_of_mem _ (List.mem_map_of_mem (Array.mem_def.mp member))

/-- Fuel for a job pays for every frame below the limit and for the job itself. -/
theorem le_fuelFor (arena : Arena) (state : State ω)
    : (state.context.vars.limit - state.context.vars.depth)
          * (largestArena arena state.heap + 1)
        + largestArena arena state.heap
      ≤ fuelFor arena state := by
  have frames := Nat.mul_le_mul_right (largestArena arena state.heap + 1)
    (Nat.sub_le state.context.vars.limit state.context.vars.depth)
  rw [fuelFor, Nat.succ_mul]
  omega

/-- A job ends with a value or an error of the program: the fuel that evaluation provides suffices
for it, and more changes nothing.
-/
def Ends (m : Machine ω) (job : Job) (state : State ω) : Prop :=
  ∃ (result : Except EvalError Value) (later : State ω),
    ∀ fuel ≥ fuelFor job.arena state,
      (m.run fuel job).run state = (result.mapError Stop.error, later)

/-- A job on a node of a sound arena ends, since no node nests deeper than its arena is large.
Witness: nesting and frames bound the calls that can be open at once, and the fuel that is computed
for the state is enough for both.
-/
theorem ends_of_sound (m : Machine ω) (job : Job) (sound : job.arena.Sound)
    (held : job.arena.Holds job.node) {state : State ω} (heap : state.heap.Sound)
    : m.Ends job state := by
  obtain ⟨own, others⟩ := le_largestArena job.arena state.heap
  have bounded
      : state.Bounded (largestArena job.arena state.heap) state.context.vars.depth
          state.context.vars.limit :=
    {
      depth := rfl
      limit := rfl
      bodies := fun closure member => by
        obtain ⟨sound, body⟩ := heap closure member
        exact Closure.job_within ((sound.within body).mono (others closure member))
    }
  have ends := Coupling.ending_run m ((sound.within held).mono own) le_rfl
    (le_fuelFor job.arena state)
  obtain ⟨_, errors⟩ := ends.keeps bounded
  have same {fuel : Nat} (enough : fuel ≥ fuelFor job.arena state)
      : (m.run fuel job).run state = (m.run (fuelFor job.arena state) job).run state := by
    refine m.run_eq_of_le (fun spent => ?_) enough
    obtain ⟨error, stop⟩ := errors _ spent
    simp at stop
  rcases ended : (m.run (fuelFor job.arena state) job).run state with ⟨stop | value, later⟩
  · obtain ⟨error, rfl⟩ := errors stop (by rw [ended])
    exact ⟨.error error, later, fun fuel enough => (same enough).trans ended⟩
  · exact ⟨.ok value, later, fun fuel enough => (same enough).trans ended⟩

/-- Every expression and every statement of a sound arena ends, whatever the limits are and
whatever sound lambdas it reaches.
-/
theorem evaluation_terminates (m : Machine ω) {arena : Arena} (sound : arena.Sound)
    {state : State ω} (heap : state.heap.Sound)
    : (∀ id receiver, arena.Holds (.expr id) → m.Ends (.eval arena id receiver) state)
      ∧ ∀ id, arena.Holds (.stmt id) → m.Ends (.exec arena id) state := by
  refine ⟨fun id receiver held => ?_, fun id held => ?_⟩
  · exact m.ends_of_sound (.eval arena id receiver) sound held heap
  · exact m.ends_of_sound (.exec arena id) sound held heap

/-- The program `f.accept(f)`. -/
def selfApplication : Arena :=
  {
    exprs :=
      #[
        { kind := .ident ⟨3⟩ },
        { kind := .call ⟨4⟩ [⟨0⟩] },
        { kind := .chain [⟨0⟩, ⟨1⟩] }
      ]
  }

/-- A state in which `f` is the lambda `f -> f.accept(f)`. -/
def selfApplying : State SampleHost.World :=
  {
    context :=
      {
        this := .null
        vars := { active := ⟨[(⟨3⟩, .lambda ⟨0⟩)]⟩, limit := 40 }
      }
    heap :=
      {
        closures :=
          #[
            {
              params := [⟨3⟩]
              body := .expr ⟨2⟩
              arena := selfApplication
              captured := {}
              this := .null
              shape := ⟨.callback none, "accept"⟩
              target := "java.util.function.Consumer"
            }
          ]
      }
    world := {}
  }

/-- A lambda that applies itself, without an end in sight, ends.
Witness: arena and heap are sound, since every child stands before its parent; the limit on frames
then ends the recursion.
-/
theorem selfApplication_terminates
    : selfApplication.Sound
      ∧ selfApplying.heap.Sound
      ∧ selfApplication.Holds (.expr ⟨2⟩)
      ∧ Ends { names := .filled ["f", "accept"], host := SampleHost.host }
          (.eval selfApplication ⟨2⟩ none) selfApplying := by
  have held : selfApplication.Holds (.expr ⟨2⟩) := by decide
  have earlier
      : ∀ parent, ∀ child ∈ selfApplication.children parent,
          selfApplication.Holds child ∧ child.index < parent.index := by
    rintro (⟨⟨_ | _ | _ | index⟩⟩ | ⟨⟨index⟩⟩) child member
    all_goals
      simp [Arena.children, selfApplication, Arena.expr?, Arena.stmt?, ExprKind.children]
        at member
    · subst member
      decide
    · rcases member with rfl | rfl
      · decide
      · decide
  have sound : selfApplication.Sound :=
    ⟨
      fun parent child member => (earlier parent child member).1,
      NodeId.index, fun parent child member => (earlier parent child member).2
    ⟩
  have heap : selfApplying.heap.Sound := by
    intro closure member
    obtain rfl := Array.mem_singleton.mp member
    exact ⟨sound, held⟩
  exact ⟨sound, heap, held, (evaluation_terminates _ sound heap).1 ⟨2⟩ none held⟩

end Machine

end Scratchpad
