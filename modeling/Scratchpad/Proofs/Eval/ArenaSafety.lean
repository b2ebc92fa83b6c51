import Scratchpad.Proofs.Eval.Invocation

/-! Every node that an evaluation asks an arena for is there. A node is an index that means
something in one arena only, so a lambda brings its arena along; an evaluation that starts at a node
of a closed arena, among lambdas with closed arenas, stays at such nodes and makes such lambdas.
-/

namespace Scratchpad

variable {ω : Type}

-----------------------------------------------------------------------------------------
-- Rooted lambdas and jobs
-----------------------------------------------------------------------------------------

/-- A lambda whose body is in its arena, which is of the given kind. -/
structure Closure.Rooted (kind : Arena → Prop) (closure : Closure) : Prop where
  arena : kind closure.arena
  body : closure.arena.Holds closure.body.node

/-- All lambdas are rooted. Where a lambda is kept does not matter: a variable, an array or an
object of the host only refers to it.
-/
def Heap.Rooted (kind : Arena → Prop) (heap : Heap) : Prop :=
  ∀ closure ∈ heap.closures, closure.Rooted kind

/-- A job on a node of its arena, which is of the given kind. -/
structure Job.Rooted (kind : Arena → Prop) (job : Job) : Prop where
  arena : kind job.arena
  node : job.arena.Holds job.node

variable {kind : Arena → Prop}

/-- The job of a rooted closure is rooted, be its body an expression or a block. -/
theorem Closure.Rooted.job {closure : Closure} (rooted : closure.Rooted kind)
    : closure.job.Rooted kind := by
  obtain ⟨arena, body⟩ := rooted
  unfold Closure.job
  split
  · next id same => exact ⟨arena, by rwa [same] at body⟩
  · next id same => exact ⟨arena, by rwa [same] at body⟩

/-- The host can neither remove nor change a lambda. -/
theorem Heap.Rooted.extends {before after : Heap} (rooted : before.Rooted kind)
    (extended : before.Extends after)
    : after.Rooted kind := by
  intro closure member
  rw [extended.closures] at member
  exact rooted closure member

/-- A rooted closure joins the others. -/
theorem Heap.Rooted.addClosure {heap : Heap} (rooted : heap.Rooted kind) {closure : Closure}
    (own : closure.Rooted kind)
    : (heap.addClosure closure).2.Rooted kind := by
  intro other member
  rcases Array.mem_push.mp member with known | rfl
  · exact rooted other known
  · exact own

-----------------------------------------------------------------------------------------
-- Evaluations
-----------------------------------------------------------------------------------------

namespace Coupling

/-- Follows a run that asks for no node that is not there. -/
def anchored (kind : Arena → Prop) : Coupling ω :=
  invariant (·.heap.Rooted kind) fun _ stop => stop ≠ .danglingNode

/-- Whatever may stop an evaluation besides a missing node is permitted. -/
theorem anchored_permits : Permits fun (_ : State ω) stop => stop ≠ .danglingNode :=
  .ofStops fun _ => by simp

/-- Nothing but making a lambda touches the closures of a heap. -/
theorem anchored_invariant {m : Machine ω}
    : StatementInvariant m fun state => state.heap.Rooted kind where
  hosted := fun rooted extended _ _ => rooted.extends extended
  assign := fun rooted _ _ => rooted
  define := fun rooted _ _ => rooted
  withBreak := fun rooted _ => rooted

/-- An invocation of a rooted lambda asks for no unknown node if rooted jobs do not. -/
theorem anchored_invoke (m : Machine ω) {again : Job → Eval ω Value}
    (jobs
      : ∀ job : Job, job.Rooted kind → (anchored kind).Couples (again job) (again job))
    {closure : Closure} (rooted : closure.Rooted kind) (args : List Value)
    : (anchored kind).Couples (m.invoke again closure args) (m.invoke again closure args) := by
  refine invariant_invoke m anchored_permits args fun heap _ _ _ => ?_
  exact ⟨(·.heap.Rooted kind), heap, jobs _ rooted.job, fun _ later => later⟩

/-- A rooted job asks for no unknown node, by induction on the fuel: the nodes it refers to are in
its arena, which is closed.
-/
theorem anchored_run (closed : ∀ arena, kind arena → arena.Closed) (m : Machine ω) (fuel : Nat)
    {job : Job} (rooted : job.Rooted kind)
    : (anchored kind).Couples (m.run fuel job) (m.run fuel job) := by
  induction fuel generalizing job with
  | zero => exact .throw fun _ => nofun
  | succ fuel ih =>
      obtain ⟨own, held⟩ := rooted
      have effects : (anchored kind).StatementEffects m m :=
        anchored_invariant.effects anchored_permits fun _ _ => by simp
      have inside := closed job.arena own
      refine effects.performNear (fun _ _ _ => trivial) job.arena.Holds (absurd held)
        (fun _ => absurd) (inside job.node) (fun node _ => inside node)
        (fun other same held => ih ⟨same ▸ own, same ▸ held⟩)
        (fun related member args => anchored_invoke m (fun _ => ih) (related.2 _ member) args)
        fun params body type? held => ?_
      refine invariant_createLambda m anchored_permits type? fun heap same made => ?_
      refine heap.addClosure ⟨?_, ?_⟩
      · rwa [same]
      · rwa [same, made]

end Coupling

namespace Machine

/-- A rooted job leaves all lambdas rooted and asks for no unknown node. -/
theorem run_rooted (closed : ∀ arena, kind arena → arena.Closed) (m : Machine ω) (fuel : Nat)
    {job : Job} (rooted : job.Rooted kind) {state : State ω} (heap : state.heap.Rooted kind)
    : ((m.run fuel job).run state).2.heap.Rooted kind
      ∧ ((m.run fuel job).run state).1 ≠ .error .danglingNode := by
  obtain ⟨later, allowed⟩ := (Coupling.anchored_run closed m fuel rooted).keeps heap
  exact ⟨later, fun dangling => allowed _ dangling rfl⟩

/-- Invoking a rooted closure leaves all closures rooted and finds every node.
Witness: its job is rooted, and jobs keep the invariant on any fuel.
-/
theorem invoke_rooted (closed : ∀ arena, kind arena → arena.Closed) (m : Machine ω) (fuel : Nat)
    {closure : Closure} (rooted : closure.Rooted kind) (args : List Value) {state : State ω}
    (heap : state.heap.Rooted kind)
    : ((m.invoke (m.run fuel) closure args).run state).2.heap.Rooted kind
      ∧ ((m.invoke (m.run fuel) closure args).run state).1 ≠ .error .danglingNode := by
  have invoked := Coupling.anchored_invoke m
    (fun _ => Coupling.anchored_run closed m fuel) rooted args
  obtain ⟨later, allowed⟩ := invoked.keeps heap
  exact ⟨later, fun dangling => allowed _ dangling rfl⟩

end Machine

end Scratchpad
