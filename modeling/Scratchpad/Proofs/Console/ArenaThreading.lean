import Scratchpad.Proofs.Console.History

/-! The lambdas of a console over its history. A lambda is run in the arena of the unit that made
it, however much later and from wherever it is invoked; so as long as every unit brings a closed
arena with the roots of its statements, no evaluation ever asks an arena for a node that is not
there.
-/

namespace Scratchpad

variable {ω : Type}

/-- A request in order: a unit has a closed arena that holds its roots, and only a lambda that the
console has made is invoked. Where the lambda has been kept in the meantime does not matter.
-/
def Request.Fits (console : Console ω) : Request ω → Prop
  | .run _ unit => unit.Rooted Arena.Closed
  | .call _ closure _ => closure ∈ console.heap.closures
  | _ => True

namespace Console

variable {console : Console ω}

/-- A history of requests that are in order when their turn comes. -/
def Admits (console : Console ω) : List (Request ω) → Prop
  | [] => True
  | request :: rest => request.Fits console ∧ (console.serve request).Admits rest

/-- A request in order leaves all lambdas with closed arenas that hold their bodies.
Witness: by cases on the request; a unit or a lambda that is run has a closed arena, and the lambdas
that it makes get that arena.
-/
theorem rooted_serve {request : Request ω} (fits : request.Fits console)
    (heap : console.heap.Rooted Arena.Closed)
    : (console.serve request).heap.Rooted Arena.Closed := by
  have outward : Session.Outward fun state : State ω => state.heap.Rooted Arena.Closed :=
    fun _ heap _ => heap
  cases request with
  | run client unit =>
      obtain ⟨arena, roots⟩ := fits
      have job {statement : SourceStatement} (member : statement ∈ unit.statements)
          : (Job.exec unit.arena statement.root).Rooted Arena.Closed :=
        ⟨arena, roots statement member⟩
      obtain ⟨state, later, same⟩ := run_keeps outward heap fun statement member machine state =>
        fun heap => (machine.run_rooted (fun _ => id) _ (job member) heap).1
      rw [serve, same]
      exact later
  | call client closure args =>
      obtain ⟨state, later, same⟩ := invokeCallback_keeps outward fun machine => by
        rw [Machine.run_apply]
        exact (machine.invoke_rooted (fun _ => id) _ (heap closure fits) args heap).1
      rw [serve, same]
      exact later
  | host action => exact heap.extends (action console.heap console.world).extended
  | _ => exact heap

/-- A history in order does, too, by induction on it.
Witness: the first request is in order and leaves a heap from which the rest is in order.
-/
theorem rooted_after {history : List (Request ω)} (admitted : console.Admits history)
    (heap : console.heap.Rooted Arena.Closed)
    : (console.after history).heap.Rooted Arena.Closed := by
  induction history generalizing console with
  | nil => exact heap
  | cons request rest ih =>
      obtain ⟨fits, others⟩ := admitted
      exact ih others (rooted_serve fits heap)

/-- After every history in order, all lambdas have closed arenas that hold their bodies, and neither
a unit in order nor one of these lambdas asks an arena for a node that is not there. That does not
depend on how deep the evaluation is let to go, nor on who starts it.
-/
theorem arenas_hold_all_nodes {history : List (Request ω)}
    (heap : console.heap.Rooted Arena.Closed) (admitted : console.Admits history)
    : (console.after history).heap.Rooted Arena.Closed
      ∧ (∀ client unit, unit.Rooted Arena.Closed
        → ((console.after history).run client unit).1 ≠ .stuck .danglingNode)
      ∧ (∀ client, ∀ closure ∈ (console.after history).heap.closures, ∀ args,
        ((console.after history).invokeCallback client closure args).1 ≠ .error .danglingNode)
      ∧ ∀ (m : Machine ω) (fuel : Nat) (state : State ω),
          state.heap = (console.after history).heap
          → (∀ job : Job, job.Rooted Arena.Closed
              → ((m.run fuel job).run state).1 ≠ .error .danglingNode)
            ∧ ∀ closure ∈ state.heap.closures, ∀ args,
                ((m.invoke (m.run fuel) closure args).run state).1 ≠ .error .danglingNode := by
  have later := rooted_after admitted heap
  generalize console.after history = console at later ⊢
  refine ⟨later, fun client unit fits stuck => ?_, fun client closure member args => ?_,
    fun m fuel state same => ?_⟩
  · obtain ⟨log, outcome, final, runs⟩ :=
      Session.exists_runs console client unit.arena 0 unit.statements console.opened
    rw [run_eq runs] at stuck
    obtain rfl : outcome = .stuck .danglingNode := stuck
    obtain ⟨machine, state, root, held, lambdas, _, dangling⟩ :=
      runs.exists_stuck (fun _ => id) fits.arena fits.roots later
    have job : (Job.exec unit.arena root).Rooted Arena.Closed := ⟨fits.arena, held⟩
    exact (machine.run_rooted (fun _ => id) _ job lambdas).2 dangling
  · obtain ⟨machine, same⟩ := console.invokeCallback_fst client closure args
    rw [same, Machine.run_apply]
    exact (machine.invoke_rooted (fun _ => id) _ (later closure member) args later).2
  · rw [← same] at later
    exact ⟨
      fun job rooted => (m.run_rooted (fun _ => id) fuel rooted later).2,
      fun closure member args =>
        (m.invoke_rooted (fun _ => id) fuel (later closure member) args later).2
    ⟩

/-- A console that knows the names `f`, `x` and the interface of consumers. -/
def functional : Console SampleHost.World :=
  fresh (.filled ["f", "x", "java.util.function.Consumer"]) SampleHost.host {} .null {} {}

/-- The statement `Consumer f = x -> x;`. -/
def lambdaDeclaration : SourceUnit :=
  {
    arena :=
      {
        exprs :=
          #[
            { kind := .ident ⟨4⟩ },
            { kind := .lambda [⟨4⟩] (.expr ⟨0⟩), type? := some (.classType ⟨5⟩) }
          ]
        stmts := #[{ kind := .varDecl (.classType ⟨5⟩) [⟨⟨3⟩, some ⟨1⟩⟩] }]
      }
    statements := [{ root := ⟨0⟩ }]
  }

/-- The lambda is made by one unit, and another one with a smaller arena runs after it. -/
def twoUnits : List (Request SampleHost.World) :=
  [.run (fun _ => false) lambdaDeclaration, .run (fun _ => false) strayBreak]

/-- The latest unit has no node at the index of the lambda's body; the lambda is invoked all the
same.
-/
theorem twoUnits_hold_all_nodes
    : (functional.after twoUnits).heap.closures.size = 1
      ∧ ¬strayBreak.arena.Holds (.expr ⟨0⟩)
      ∧ ∀ client, ∀ closure ∈ (functional.after twoUnits).heap.closures, ∀ args,
          ((functional.after twoUnits).invokeCallback client closure args).1
          ≠ .error .danglingNode := by
  have heap : functional.heap.Rooted Arena.Closed := by
    intro closure member
    simp [functional, fresh] at member
  have admitted : functional.Admits twoUnits :=
    ⟨⟨by decide, by decide⟩, ⟨by decide, by decide⟩, trivial⟩
  obtain ⟨_, _, callbacks, _⟩ := arenas_hold_all_nodes heap admitted
  exact ⟨by rfl, by decide, callbacks⟩

end Console

end Scratchpad
