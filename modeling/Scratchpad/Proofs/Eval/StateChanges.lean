import Scratchpad.Proofs.Eval.StatementCoupling
import Scratchpad.Proofs.Variables.Levels

/-! How the actions that change the state change it. A coupling whose relation survives these
changes couples every evaluation, so that a property of all programs comes down to a handful of
changes of state and to the entry and exit of a lambda.
-/

namespace Scratchpad

variable {ω α : Type}

-----------------------------------------------------------------------------------------
-- Changes of state
-----------------------------------------------------------------------------------------

/-- What printing changes: the printout, and whether cancellation was requested. -/
structure Output where
  printout : Printout
  cancelled : Bool

namespace State

def output (state : State ω) : Output := ⟨state.printout, state.context.cancelled⟩

/-- The state after the host has acted. -/
def hosted (state : State ω) (heap : Heap) (world : ω) (output : Output) : State ω :=
  {
    context := { state.context with cancelled := output.cancelled }
    heap
    world
    printout := output.printout
  }

def withVars (state : State ω) (vars : Variables) : State ω :=
  { state with context := { state.context with vars } }

def withBreak (state : State ω) (breakPending : Bool) : State ω :=
  { state with context := { state.context with breakPending } }

/-- The state in which the body of a lambda starts. -/
def entered (state : State ω) (frame : Frame) (this : Value) : State ω :=
  { state with context := { state.context with vars := state.context.vars.pushed frame, this } }

/-- The state after a lambda has been made. -/
def withClosure (state : State ω) (closure : Closure) : State ω :=
  { state with heap := (state.heap.addClosure closure).2 }

end State

-----------------------------------------------------------------------------------------
-- Actions as changes of state
-----------------------------------------------------------------------------------------

/-- Storing an element keeps every array at its component and length.
Witness: one element of one array is replaced, which changes neither its component nor its size.
-/
theorem Heap.store?_extends {heap later : Heap} {ref : ArrayRef} {index : Int32} {value : Value}
    (stored : heap.store? ref index value = some later)
    : heap.Extends later := by
  simp only [Heap.store?] at stored
  split at stored
  · simp at stored
  · obtain rfl := Option.some.inj stored
    refine ⟨rfl, fun position object known => ?_⟩
    by_cases changed : ref.index = position
    · refine ⟨
        { object with elements := object.elements.setIfInBounds index.toNatClampNeg value },
        ?_, rfl, Array.size_setIfInBounds
      ⟩
      rw [Array.getElem?_modify, if_pos changed, known, Option.map_some]
    · exact ⟨object, by rwa [Array.getElem?_modify, if_neg changed], rfl, rfl⟩

/-- A new array goes behind the others. -/
theorem Heap.addArray_extends (heap : Heap) (object : ArrayObject)
    : heap.Extends (heap.addArray object).2 := by
  refine ⟨rfl, fun index known found => ⟨known, ?_, rfl, rfl⟩⟩
  obtain ⟨inside, _⟩ := Array.getElem?_eq_some_iff.mp found
  simpa [Heap.addArray, Array.getElem?_push, Nat.ne_of_lt inside] using found

namespace Machine

/-- What printing makes of the output: it changes what is unfinished and delivers lines, each of
which the observer may answer with a request to cancel.
-/
inductive Prints (m : Machine ω) (before : Output) : Output → Prop
  | none : m.Prints before before
  | buffer {printout cancelled} (start : m.Prints before ⟨printout, cancelled⟩)
    (buffers : LineBuffers)
    : m.Prints before ⟨{ printout with buffers }, cancelled⟩
  | deliver {buffers lines cancelled} (start : m.Prints before ⟨⟨buffers, lines⟩, cancelled⟩)
    (line : OutputLine)
    : m.Prints before ⟨⟨buffers, line :: lines⟩, cancelled || m.observer (line :: lines)⟩

variable (m : Machine ω)

/-- Delivering lines changes the output alone, and by the output alone; induction on the
lines.
-/
theorem exists_deliver_hosted (lines : List OutputLine) {before output : Output}
    (start : m.Prints before output)
    : ∃ later, m.Prints before later
        ∧ ∀ (state : State ω) (heap : Heap) (world : ω),
            lines.foldl m.deliver (state.hosted heap world output)
            = state.hosted heap world later := by
  induction lines generalizing output with
  | nil => exact ⟨output, start, fun _ _ _ => rfl⟩
  | cons line rest ih => exact ih (start.deliver line)

/-- Printing pieces of text changes the output alone, and by the output alone; induction on the
pieces.
-/
theorem exists_print_hosted (written : List (Stream × String)) {before output : Output}
    (start : m.Prints before output)
    : ∃ later, m.Prints before later
        ∧ ∀ (state : State ω) (heap : Heap) (world : ω),
            written.foldl (fun state piece => m.print state piece.1 piece.2)
              (state.hosted heap world output)
            = state.hosted heap world later := by
  induction written generalizing output with
  | nil => exact ⟨output, start, fun _ _ _ => rfl⟩
  | cons piece rest ih =>
      rcases complete : output.printout.buffers.push piece.1 piece.2 with ⟨lines, buffers⟩
      obtain ⟨middle, started, delivered⟩ := m.exists_deliver_hosted lines (start.buffer buffers)
      obtain ⟨later, prints, printed⟩ := ih started
      refine ⟨later, prints, fun state heap world => ?_⟩
      rw [List.foldl_cons, ← printed, ← delivered]
      simp only [Machine.print, State.hosted, complete]

/-- What is printed changes the output alone. -/
theorem exists_print (state : State ω) (stream : Stream) (text : String)
    : ∃ later, m.Prints state.output later
        ∧ m.print state stream text = state.hosted state.heap state.world later := by
  obtain ⟨later, prints, printed⟩ := m.exists_print_hosted [(stream, text)] .none
  exact ⟨later, prints, printed state state.heap state.world⟩

/-- Flushing writes out what is pending on each stream and changes the output alone. -/
theorem exists_flush (state : State ω)
    : ∃ later, m.Prints state.output later
        ∧ m.flush state = state.hosted state.heap state.world later := by
  have emptied : m.Prints state.output ⟨{ state.printout with buffers := {} }, _⟩ :=
    Prints.none.buffer {}
  obtain ⟨later, prints, delivered⟩ :=
    m.exists_deliver_hosted state.printout.buffers.flush emptied
  exact ⟨later, prints, delivered state state.heap state.world⟩

/-- What the host does depends on the heap, the world and the output, and it changes only those.
Witness: the host answers from heap and world, and what it wrote is printed afterwards.
-/
theorem exists_run_callHost (action : HostAction ω α) (state : State ω)
    : ∃ output,
        m.Prints state.output output
        ∧ ∀ other : State ω,
            other.heap = state.heap
            → other.world = state.world
            → other.output = state.output
            → (m.callHost action).run other
              = (.ok (action state.heap state.world).answer,
                  other.hosted (action state.heap state.world).heap
                    (action state.heap state.world).world output) := by
  obtain ⟨later, prints, same⟩ :=
    m.exists_print_hosted (action state.heap state.world).written .none
  refine ⟨later, prints, fun other heap world output => ?_⟩
  rw [← same other, ← output]
  obtain ⟨context, otherHeap, otherWorld, printout⟩ := other
  obtain rfl : otherHeap = state.heap := heap
  obtain rfl : otherWorld = state.world := world
  rfl

end Machine

namespace Coupling

variable {c : Coupling ω} {m m' : Machine ω} {again again' : Job → Eval ω Value}

/-- The relation survives the changes of state that expressions make. -/
structure Stable (c : Coupling ω) (m : Machine ω) : Prop where
  printout : ∀ {s t}, c.Related s t → t.printout = s.printout
  hosted
    : ∀ {s t heap output}, c.Related s t
      → s.heap.Extends heap
      → m.Prints s.output output
      → ∀ world, c.Related (s.hosted heap world output) (t.hosted heap world output)
  assign
    : ∀ {s t}, c.Related s t
      → ∀ name value,
          c.Related (s.withVars (s.context.vars.assign name value))
            (t.withVars (t.context.vars.assign name value))

/-- The relation survives the changes of state that statements make, too. -/
structure StatementStable (c : Coupling ω) (m : Machine ω) : Prop extends c.Stable m where
  define
    : ∀ {s t}, c.Related s t
      → ∀ name value,
          c.Related (s.withVars (s.context.vars.define name value))
            (t.withVars (t.context.vars.define name value))
  withBreak
    : ∀ {s t}, c.Related s t → ∀ pending, c.Related (s.withBreak pending) (t.withBreak pending)

/-- A heap in which arrays are added or changed keeps the relation.
Witness: it is a call of the host that changes the heap and prints nothing.
-/
theorem Stable.heap (stable : c.Stable m) (observes : c.Observes m m') {s t : State ω}
    {heap : Heap} (related : c.Related s t) (extended : s.heap.Extends heap)
    : c.Related { s with heap } { t with heap } := by
  have changed := stable.hosted related extended .none s.world
  have same : t.hosted heap s.world s.output = { t with heap } := by
    rw [State.output, State.hosted, ← observes.world related, ← observes.cancelled related,
      ← stable.printout related]
  rwa [same] at changed

/-- A call of the host keeps the relation, since it does the same to both states. -/
theorem Stable.callHost (stable : c.Stable m) (observes : c.Observes m m')
    (observer : m'.observer = m.observer) (action : HostAction ω α)
    : c.Couples (m.callHost action) (m'.callHost action) := by
  intro s t related
  obtain ⟨output, prints, runs⟩ := m.exists_run_callHost action s
  have second : (m'.callHost action).run t = (m.callHost action).run t := by
    obtain ⟨names, host, limits, observer'⟩ := m'
    obtain rfl : observer' = m.observer := observer
    rfl
  rw [second, runs s rfl rfl rfl, runs t (observes.heap related) (observes.world related)]
  · exact .value (stable.hosted related (action s.heap s.world).extended prints _)
  · rw [State.output, State.output, observes.cancelled related, stable.printout related]

/-- Storing an element keeps the relation, or fails in both runs. -/
theorem Stable.storeElement (stable : c.Stable m) (observes : c.Observes m m') (ref : ArrayRef)
    (index : Int32) (value : Value)
    : c.Couples (Machine.storeElement ref index value)
        (Machine.storeElement ref index value) := by
  intro s t related
  simp only [Machine.storeElement, Eval.run_get_bind, observes.heap related]
  cases stored : s.heap.store? ref index value with
  | none => exact observes.outOfBounds ref index s t related
  | some heap => exact .value (stable.heap observes related (Heap.store?_extends stored))

/-- Allocating an array keeps the relation. -/
theorem Stable.allocate (stable : c.Stable m) (observes : c.Observes m m') (object : ArrayObject)
    : c.Couples (Machine.allocate object) (Machine.allocate object) := by
  intro s t related
  simp only [Machine.allocate, Eval.run_get_bind, observes.heap related]
  exact .value (stable.heap observes related (s.heap.addArray_extends object))

/-- Expressions change the state in no other way.
Witness: it calls the host, assigns variables, stores elements and allocates arrays.
-/
theorem Stable.effects (stable : c.Stable m) (observes : c.Observes m m')
    (observer : m'.observer = m.observer)
    : c.Effects m m' :=
  {
    observes with
    callHost := fun _ => stable.callHost observes observer _
    assign := fun name value _ _ related => .value (stable.assign related name value)
    writeElement := fun op _ => observes.writeElement (stable.storeElement observes) op
    newArray := fun component init => observes.newArray (stable.allocate observes) component init
  }

/-- Statements change the state in no other way, and loops are coupled as they may be.
Witness: besides what expressions do, it binds names and sets or takes a break.
-/
theorem StatementStable.effectsOfLoop (stable : c.StatementStable m) (observes : c.Observes m m')
    (observer : m'.observer = m.observer)
    (loop
      : ∀ {ι : Type} {pass pass' : ι → Eval ω (Option ι)} (start : ι),
          (∀ carried, c.Couples (pass carried) (pass' carried))
          → c.Couples (m.loop pass start) (m'.loop pass' start))
    : c.StatementEffects m m' :=
  {
    stable.toStable.effects observes observer with
    define := fun name value _ _ related => .value (stable.define related name value)
    takeBreak := by
      refine .read fun s t related => ?_
      rw [observes.breakPending related]
      exact Couples.bind (fun _ _ related => .value (stable.withBreak related false))
        fun _ => .pure _
    requestBreak := fun _ _ related => .value (stable.withBreak related true)
    loop := loop
  }

/-- Under one limit, coupled passes make coupled loops. -/
theorem StatementStable.effects (stable : c.StatementStable m) (observes : c.Observes m m')
    (observer : m'.observer = m.observer) (limits : m'.limits = m.limits)
    (ceiling : ∀ limit state, c.Allowed state (.error { cause := .loopLimitExceeded limit }))
    : c.StatementEffects m m' :=
  stable.effectsOfLoop observes observer (observes.loop limits ceiling)

-----------------------------------------------------------------------------------------
-- Invariants
-----------------------------------------------------------------------------------------

/-- What holds of a state survives the changes that expressions make to it. -/
structure ExpressionInvariant (m : Machine ω) (holds : State ω → Prop) : Prop where
  hosted
    : ∀ {state heap output}, holds state
      → state.heap.Extends heap
      → m.Prints state.output output
      → ∀ world, holds (state.hosted heap world output)
  assign
    : ∀ {state}, holds state
      → ∀ name value, holds (state.withVars (state.context.vars.assign name value))

/-- What holds of a state survives the changes that statements make to it, too. -/
structure StatementInvariant (m : Machine ω) (holds : State ω → Prop) : Prop extends
    ExpressionInvariant m holds where
  define
    : ∀ {state}, holds state
      → ∀ name value, holds (state.withVars (state.context.vars.define name value))
  withBreak : ∀ {state}, holds state → ∀ pending, holds (state.withBreak pending)

variable {holds : State ω → Prop} {allowed : State ω → Stop → Prop}

/-- What holds of a state under all its changes is kept by a run that is coupled with itself. -/
theorem ExpressionInvariant.stable (kept : ExpressionInvariant m holds)
    : (invariant holds allowed).Stable m where
  printout := fun related => congrArg State.printout related.1.symm
  hosted := fun related extended prints world => by
    obtain ⟨rfl, start⟩ := related
    exact ⟨rfl, kept.hosted start extended prints world⟩
  assign := fun related name value => by
    obtain ⟨rfl, start⟩ := related
    exact ⟨rfl, kept.assign start name value⟩

/-- What holds of a state under all changes that statements make is kept in the same way. -/
theorem StatementInvariant.stable (kept : StatementInvariant m holds)
    : (invariant holds allowed).StatementStable m :=
  {
    kept.toExpressionInvariant.stable with
    define := fun related name value => by
      obtain ⟨rfl, start⟩ := related
      exact ⟨rfl, kept.define start name value⟩
    withBreak := fun related pending => by
      obtain ⟨rfl, start⟩ := related
      exact ⟨rfl, kept.withBreak start pending⟩
  }

/-- Expressions keep such an invariant wherever the jobs inside do. -/
theorem ExpressionInvariant.effects (kept : ExpressionInvariant m holds)
    (permits : Permits allowed)
    : (invariant holds allowed).Effects m m :=
  kept.stable.effects (invariant_observes m holds permits) rfl

/-- Statements keep such an invariant wherever the jobs inside do. -/
theorem StatementInvariant.effects (kept : StatementInvariant m holds)
    (permits : Permits allowed)
    (ceiling : ∀ limit state, allowed state (.error { cause := .loopLimitExceeded limit }))
    : (invariant holds allowed).StatementEffects m m :=
  kept.stable.effects (invariant_observes m holds permits) rfl rfl ceiling

end Coupling

end Scratchpad
