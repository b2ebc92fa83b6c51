import Scratchpad.Proofs.Eval.Invocation
import Scratchpad.Proofs.Operation.AlikeScenes
import Scratchpad.Proofs.Program.Likeness

/-! Two runs of like programs, on machines and in worlds of their own. A correspondence says what
the runs share while they go on and what they share when they stop. Where the actions of one run
correspond to those of the other, so do the runs.
-/

namespace Scratchpad

variable {ω ω' α β γ δ : Type}

/-- Printing leaves the world as it is. -/
theorem Machine.world_printAll (m : Machine ω) (written : List (Stream × String))
    (state : State ω)
    : (written.foldl (fun later piece => m.print later piece.1 piece.2) state).world
      = state.world := by
  have start : m.Prints state.output state.output := .none
  obtain ⟨later, _, printed⟩ := m.exists_print_hosted written start
  rw [show state = state.hosted state.heap state.world state.output from rfl, printed]
  rfl

namespace Likeness

structure Contexts (l : Likeness) (first second : Context) : Prop where
  this : second.this = first.this
  vars : l.Vars first.vars second.vars
  breakPending : second.breakPending = first.breakPending
  cancelled : second.cancelled = first.cancelled

/-- States that are alike, apart from their worlds. -/
structure States (l : Likeness) (first : State ω) (second : State ω') : Prop where
  context : l.Contexts first.context second.context
  heap : l.Heaps first.heap second.heap
  printout : second.printout = first.printout

/-- Jobs on one node of alike arenas, and on one receiver. -/
inductive Jobs (l : Likeness) : Job → Job → Prop
  | eval {arena arena' id receiver} (alike : l.Arenas arena arena')
    : l.Jobs (.eval arena id receiver) (.eval arena' id receiver)
  | exec {arena arena' id} (alike : l.Arenas arena arena')
    : l.Jobs (.exec arena id) (.exec arena' id)

/-- Alike closures have alike jobs, be their body an expression or a block. -/
theorem Closures.job {l : Likeness} {closure closure' : Closure}
    (alike : l.Closures closure closure')
    : l.Jobs closure.job closure'.job := by
  simp only [Closure.job, alike.body]
  split
  · exact .eval alike.arena
  · exact .exec alike.arena

end Likeness

/-- How two runs compare: what is alike in their programs, which worlds correspond, and which stops
do, in the worlds they leave.
-/
structure Correspondence (ω ω' : Type) extends Likeness where
  Worlds : ω → ω' → Prop
  Stops : ω → ω' → Stop → Stop → Prop

namespace Correspondence

/-- States between two steps. -/
structure Related (c : Correspondence ω ω') (first : State ω) (second : State ω') : Prop
    extends c.States first second where
  world : c.Worlds first.world second.world

/-- Both runs have values, or both stop. -/
inductive Outcome (c : Correspondence ω ω') (R : α → β → Prop)
    : Except Stop α × State ω → Except Stop β × State ω' → Prop
  | value {value value' first second} (same : R value value') (related : c.Related first second)
    : c.Outcome R (.ok value, first) (.ok value', second)
  | stop {stop stop' first second} (stops : c.Stops first.world second.world stop stop')
    (states : c.States first second)
    : c.Outcome R (.error stop, first) (.error stop', second)

/-- From related states, two actions end alike, with values as the relation says. -/
def SimulatesBy (c : Correspondence ω ω') (R : α → β → Prop) (first : Eval ω α)
    (second : Eval ω' β)
    : Prop :=
  ∀ s t, c.Related s t → c.Outcome R (first.run s) (second.run t)

/-- From related states, two actions end alike and with the same value. -/
abbrev Simulates (c : Correspondence ω ω') (first : Eval ω α) (second : Eval ω' α) : Prop :=
  c.SimulatesBy (fun value value' => value' = value) first second

variable {c : Correspondence ω ω'} {R : α → β → Prop} {S : γ → δ → Prop}

-----------------------------------------------------------------------------------------
-- Sequences
-----------------------------------------------------------------------------------------

/-- Related values are given without touching the states. -/
theorem SimulatesBy.pure {value : α} {value' : β} (same : R value value')
    : c.SimulatesBy R (pure value) (pure value') :=
  fun _ _ related => .value same related

/-- What follows is compared on the states that the first actions leave.
Witness: a stop of the first actions is the stop of the whole, and related values go on to the rest.
-/
theorem SimulatesBy.bind {first : Eval ω α} {second : Eval ω' β} {next : α → Eval ω γ}
    {next' : β → Eval ω' δ} (start : c.SimulatesBy R first second)
    (rest : ∀ value value', R value value' → c.SimulatesBy S (next value) (next' value'))
    : c.SimulatesBy S (first >>= next) (second >>= next') := by
  intro s t related
  have outcome := start s t related
  rw [Eval.run_bind, Eval.run_bind]
  generalize first.run s = left at outcome
  generalize second.run t = right at outcome
  cases outcome with
  | value same related => exact rest _ _ same _ _ related
  | stop stops states => exact .stop stops states

/-- After actions with the same value the rest goes on from that value. -/
theorem Simulates.bind {first : Eval ω α} {second : Eval ω' α} {next : α → Eval ω γ}
    {next' : α → Eval ω' δ} (start : c.Simulates first second)
    (rest : ∀ value, c.SimulatesBy S (next value) (next' value))
    : c.SimulatesBy S (first >>= next) (second >>= next') := by
  refine SimulatesBy.bind start fun value value' same => ?_
  rw [same]
  exact rest value

/-- What is made of a common value is common. -/
theorem Simulates.map {first : Eval ω α} {second : Eval ω' α} (f : α → γ)
    (start : c.Simulates first second)
    : c.Simulates (f <$> first) (f <$> second) := by
  rw [map_eq_pure_bind, map_eq_pure_bind]
  exact start.bind fun _ => .pure rfl

/-- What reads the states is compared for all related ones. -/
theorem SimulatesBy.read {next : State ω → Eval ω α} {next' : State ω' → Eval ω' β}
    (rest : ∀ s t, c.Related s t → c.SimulatesBy R (next s) (next' t))
    : c.SimulatesBy R (get >>= next) (get >>= next') :=
  fun s t related => rest s t related s t related

/-- Changes of the state that keep it related. -/
theorem Simulates.change {first : Eval ω Unit} {second : Eval ω' Unit}
    {change : State ω → State ω} {change' : State ω' → State ω'}
    (ran : ∀ state, first.run state = (.ok (), change state))
    (ran' : ∀ state, second.run state = (.ok (), change' state))
    (keeps : ∀ s t, c.Related s t → c.Related (change s) (change' t))
    : c.Simulates first second := by
  intro s t related
  rw [ran, ran']
  exact .value rfl (keeps s t related)

/-- Simulated actions are simulated over a list, by induction on it. -/
theorem Simulates.mapM {κ : Type} {items : List κ} {act : κ → Eval ω α} {act' : κ → Eval ω' α}
    (each : ∀ item ∈ items, c.Simulates (act item) (act' item))
    : c.Simulates (items.mapM act) (items.mapM act') := by
  induction items with
  | nil => exact .pure rfl
  | cons item rest ih =>
      rw [List.mapM_cons, List.mapM_cons]
      refine (each item (by simp)).bind fun value => ?_
      refine (ih fun later member => each later (by simp [member])).bind fun values => ?_
      exact .pure rfl

/-- Simulated actions are simulated over a list, by induction on it, also where only their effects
count.
-/
theorem Simulates.forM {κ : Type} {items : List κ} {act : κ → Eval ω PUnit}
    {act' : κ → Eval ω' PUnit} (each : ∀ item ∈ items, c.Simulates (act item) (act' item))
    : c.Simulates (items.forM act) (items.forM act') := by
  induction items with
  | nil => exact .pure rfl
  | cons item rest ih =>
      exact (each item (by simp)).bind fun _ =>
        ih fun later member => each later (by simp [member])

-----------------------------------------------------------------------------------------
-- Hosts and machines
-----------------------------------------------------------------------------------------

/-- On like heaps and corresponding worlds, two actions of hosts answer the same, print the same and
leave the same arrays.
-/
structure Actions (c : Correspondence ω ω') (first : HostAction ω α) (second : HostAction ω' α)
    : Prop where
  answer
    : ∀ {heap heap' world world'}, c.Heaps heap heap' → c.Worlds world world'
      → (second heap' world').answer = (first heap world).answer
  world
    : ∀ {heap heap' world world'}, c.Heaps heap heap' → c.Worlds world world'
      → c.Worlds (first heap world).world (second heap' world').world
  arrays
    : ∀ {heap heap' world world'}, c.Heaps heap heap' → c.Worlds world world'
      → (second heap' world').heap.arrays = (first heap world).heap.arrays
  written
    : ∀ {heap heap' world world'}, c.Heaps heap heap' → c.Worlds world world'
      → (second heap' world').written = (first heap world).written

/-- Two hosts that like programs cannot tell apart. -/
structure Hosts (c : Correspondence ω ω') (host : Host ω) (host' : Host ω') : Prop where
  className
    : ∀ {world world'}, c.Worlds world world' → host'.className world' = host.className world
  text
    : ∀ {heap heap' world world'}, c.Heaps heap heap' → c.Worlds world world'
      → host'.text heap' world' = host.text heap world
  hasProperties
    : ∀ {world world'}, c.Worlds world world'
      → host'.hasProperties world' = host.hasProperties world
  resolveClass
    : ∀ {world world'}, c.Worlds world world'
      → host'.resolveClass world' = host.resolveClass world
  field : ∀ ref name, c.Actions (host.field ref name) (host'.field ref name)
  getProperty : ∀ ref name, c.Actions (host.getProperty ref name) (host'.getProperty ref name)
  setProperty
    : ∀ ref name value,
        c.Actions (host.setProperty ref name value) (host'.setProperty ref name value)
  iterate : ∀ ref, c.Actions (host.iterate ref) (host'.iterate ref)
  newInstance : ∀ name, c.Actions (host.newInstance name) (host'.newInstance name)
  staticField
    : ∀ className name,
        c.Actions (host.staticField className name) (host'.staticField className name)
  invokeMethod
    : ∀ decl target args,
        c.Actions (host.invokeMethod decl target args) (host'.invokeMethod decl target args)
  invokeConstructor
    : ∀ decl args,
        c.Actions (host.invokeConstructor decl args) (host'.invokeConstructor decl args)

/-- What is read of two declarations is the same. -/
inductive ReadsAlike (read read' : Name → String) : Declaration Name → Declaration Name → Prop
  | method {decl decl'} (same : decl'.map read' = decl.map read)
    : ReadsAlike read read' (.method decl) (.method decl')
  | constructor {decl decl'} (same : decl'.map read' = decl.map read)
    : ReadsAlike read read' (.constructor decl) (.constructor decl')
  | field {decl decl'} (declaring : read' decl'.declaring = read decl.declaring)
    (isStatic : decl'.isStatic = decl.isStatic)
    : ReadsAlike read read' (.field decl) (.field decl')
  | variable {decl decl'} : ReadsAlike read read' (.variable decl) (.variable decl')
  | classDecl {name name'} (same : read' name' = read name)
    : ReadsAlike read read' (.classDecl name) (.classDecl name')
  | package {name name'} (same : read' name' = read name)
    : ReadsAlike read read' (.package name) (.package name')

/-- Two machines on which like programs run alike: like things read as the same texts, limits and
observers are the same, hosts cannot be told apart, and a failure counts as the same before its
place is noted.
-/
structure Machines (c : Correspondence ω ω') (m : Machine ω) (m' : Machine ω') : Prop where
  faithful : c.Faithful
  text : ∀ {name name'}, c.Names name name' → m'.names.text name' = m.names.text name
  literal : ∀ {value value'}, c.Literals value value' → m'.literal value' = m.literal value
  type
    : ∀ {type type'}, c.Types type type' → type'.map m'.names.text = type.map m.names.text
  decl
    : ∀ {decl decl'}, c.Decls decl decl' → ReadsAlike m.names.text m'.names.text decl decl'
  limits : m'.limits = m.limits
  observer : m'.observer = m.observer
  host : c.Hosts m.host m'.host
  fails
    : ∀ cause {world world'}, c.Worlds world world'
      → c.Stops world world' (.error { cause }) (.error { cause })
  dangles
    : ∀ {world world'}, c.Worlds world world' → c.Stops world world' .danglingNode .danglingNode

namespace Machines

variable {m : Machine ω} {m' : Machine ω'} (machines : c.Machines m m')

include machines

/-- Both programs fail with the same cause. -/
theorem fail (cause : Cause) : c.SimulatesBy R (Eval.fail cause) (Eval.fail cause) :=
  fun _ _ related => .stop (machines.fails cause related.world) related.toStates

/-- Both programs stop at a missing node. -/
theorem dangling : c.SimulatesBy R (throw .danglingNode) (throw .danglingNode) :=
  fun _ _ related => .stop (machines.dangles related.world) related.toStates

/-- A result without effects is the same in both programs. -/
theorem ofExcept {result result' : Except Cause α} (same : result' = result)
    : c.Simulates (Eval.ofExcept result) (Eval.ofExcept result') := by
  rw [same]
  cases result with
  | ok value => exact .pure rfl
  | error cause => exact machines.fail cause

/-- Types that correspond are the same primitive type or none, since reading their names does not
change that.
-/
theorem primitive? {type type' : ResolvedType Name} (same : c.Types type type')
    : type'.primitive? = type.primitive? := by
  have kept {ν : Type} (read : Name → ν) (type : ResolvedType Name)
      : (type.map read).primitive? = type.primitive? := by
    cases type <;> rfl
  rw [← kept m'.names.text, machines.type same, kept]

-----------------------------------------------------------------------------------------
-- Scenes
-----------------------------------------------------------------------------------------

/-- Related states show values in the same way.
Witness: arrays are the same, and closures have the same targets.
-/
theorem alike {s : State ω} {t : State ω'} (related : c.Related s t)
    : (m.sceneOf s).Alike (m'.sceneOf t) := by
  refine ⟨related.heap.arrays, fun ref => ?_, ?_, ?_⟩
  · have known := related.heap.closure? ref
    simp only [Scene.target, Machine.sceneOf, Host.scene]
    generalize s.heap.closure? ref = found at known ⊢
    generalize t.heap.closure? ref = found' at known ⊢
    cases known with
    | none => rfl
    | some same => exact same.target
  · exact machines.host.className related.world
  · exact machines.host.text related.heap related.world

/-- Both programs take their scene from related states. -/
theorem scene : c.SimulatesBy Scene.Alike m.scene m'.scene :=
  .read fun _ _ related => .pure (machines.alike related)

/-- A conversion ends alike, as it looks at the scene only. -/
theorem coerce (value : Value) (type : PrimitiveType)
    : c.Simulates (m.coerce value type) (m'.coerce value type) :=
  machines.scene.bind fun _ _ alike => machines.ofExcept (alike.coerce value type)

/-- A conversion to corresponding types ends alike. -/
theorem coerceToType (value : Value) {type type' : ResolvedType Name} (same : c.Types type type')
    : c.Simulates (m.coerceToType value type) (m'.coerceToType value type') :=
  machines.scene.bind fun _ _ alike =>
    machines.ofExcept (alike.coerceToType value (machines.primitive? same))

/-- The demand for a truth value ends alike. -/
theorem requireBool (value : Value) (role : String)
    : c.Simulates (m.requireBool value role) (m'.requireBool value role) :=
  machines.scene.bind fun _ _ alike => machines.ofExcept (alike.toBool value role)

/-- A class resolves alike, since the host is told the same text in corresponding worlds. -/
theorem resolveClass {name name' : Name} (same : m'.names.text name' = m.names.text name)
    : c.Simulates (m.resolveClass name) (m'.resolveClass name') := by
  refine .read fun s t related => ?_
  rw [machines.host.resolveClass related.world, same]
  cases m.host.resolveClass s.world (m.names.text name) with
  | none => exact machines.fail _
  | some className => exact .pure rfl

-----------------------------------------------------------------------------------------
-- Calls of the host
-----------------------------------------------------------------------------------------

/-- A line is delivered alike, and the observers answer alike. -/
theorem deliver {s : State ω} {t : State ω'} (states : c.States s t) (line : OutputLine)
    : c.States (m.deliver s line) (m'.deliver t line) := by
  refine ⟨⟨states.context.this, states.context.vars, states.context.breakPending, ?_⟩,
    states.heap, ?_⟩
  · simp only [Machine.deliver, states.printout, states.context.cancelled, machines.observer]
  · simp only [Machine.deliver, states.printout]

/-- Lines are delivered alike, one after the other. -/
theorem deliverAll {s : State ω} {t : State ω'} (states : c.States s t) (lines : List OutputLine)
    : c.States (lines.foldl m.deliver s) (lines.foldl m'.deliver t) := by
  induction lines generalizing s t with
  | nil => exact states
  | cons line rest ih => exact ih (machines.deliver states line)

/-- A text is printed alike: the same lines are completed, and the same rest is pending. -/
theorem print {s : State ω} {t : State ω'} (states : c.States s t) (stream : Stream)
    (text : String)
    : c.States (m.print s stream text) (m'.print t stream text) := by
  simp only [Machine.print, states.printout]
  refine machines.deliverAll ?_ _
  exact ⟨states.context, states.heap, rfl⟩

/-- Texts are printed alike, one after the other. -/
theorem printAll {s : State ω} {t : State ω'} (states : c.States s t)
    (written : List (Stream × String))
    : c.States (written.foldl (fun later piece => m.print later piece.1 piece.2) s)
        (written.foldl (fun later piece => m'.print later piece.1 piece.2) t) := by
  induction written generalizing s t with
  | nil => exact states
  | cons piece rest ih => exact ih (machines.print states piece.1 piece.2)

/-- A call of the host ends alike if the two actions correspond.
Witness: they give the same answer, write the same, and leave alike heaps in corresponding worlds.
-/
theorem callHost {action : HostAction ω α} {action' : HostAction ω' α}
    (actions : c.Actions action action')
    : c.Simulates (m.callHost action) (m'.callHost action') := by
  refine .read fun s t related => ?_
  intro _ _ _
  have same := actions.written related.heap related.world
  refine .value (actions.answer related.heap related.world) ⟨?_, ?_⟩
  · show c.States _ ((action' t.heap t.world).written.foldl _ _)
    rw [same]
    refine machines.printAll ?_ _
    refine ⟨related.context, ?_, related.printout⟩
    exact related.heap.of_arrays (actions.arrays related.heap related.world)
      (action s.heap s.world).extended.closures (action' t.heap t.world).extended.closures
  · show c.Worlds (State.world (List.foldl _ _ _)) (State.world (List.foldl _ _ _))
    rw [m.world_printAll, m'.world_printAll]
    exact actions.world related.heap related.world

/-- A call of the host that may throw ends alike; an exception becomes a failure in both programs.
-/
theorem invokeHost {action : HostAction ω (Except HostException α)}
    {action' : HostAction ω' (Except HostException α)} (actions : c.Actions action action')
    : c.Simulates (m.invokeHost action) (m'.invokeHost action') := by
  refine (machines.callHost actions).bind fun answer => ?_
  cases answer with
  | ok value => exact .pure rfl
  | error exception => exact machines.fail _

end Machines

end Correspondence

end Scratchpad
