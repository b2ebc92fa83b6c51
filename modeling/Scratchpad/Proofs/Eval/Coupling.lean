import Scratchpad.Eval.Run
import Scratchpad.Proofs.Operation.Causes

/-! Two runs compared step by step. A coupling says what the states of the two runs share; an
action is coupled with another if they end alike and their states still share it. Sequencing
keeps actions coupled, so an evaluation is as soon as the actions it is made of are.
-/

namespace Scratchpad

variable {ω α β : Type}

-----------------------------------------------------------------------------------------
-- Running actions
-----------------------------------------------------------------------------------------

namespace Eval

/-- Giving a value leaves the state alone. -/
@[simp]
theorem run_pure (value : α) (state : State ω)
    : (pure value : Eval ω α).run state = (.ok value, state) :=
  rfl

/-- A stop leaves the state alone. -/
@[simp]
theorem run_throw (stop : Stop) (state : State ω)
    : (throw stop : Eval ω α).run state = (.error stop, state) :=
  rfl

/-- A failure is a stop with an error that has no place yet. -/
@[simp]
theorem run_fail (cause : Cause) (state : State ω)
    : (fail cause : Eval ω α).run state = (.error (.error { cause }), state) :=
  rfl

/-- Reading gives the state. -/
@[simp]
theorem run_get (state : State ω)
    : (get : Eval ω (State ω)).run state = (.ok state, state) :=
  rfl

/-- Writing replaces the state. -/
@[simp]
theorem run_set (state later : State ω)
    : (set later : Eval ω Unit).run state = (.ok (), later) :=
  rfl

/-- Changing the context leaves the rest of the state alone. -/
@[simp]
theorem run_modifyContext (change : Context → Context) (state : State ω)
    : (modifyContext change).run state
      = (.ok (), { state with context := change state.context }) :=
  rfl

/-- Changing the variables leaves the rest of the state alone. -/
@[simp]
theorem run_modifyVars (change : Variables → Variables) (state : State ω)
    : (modifyVars change).run state
      = (.ok (),
          { state with context := { state.context with vars := change state.context.vars } }) :=
  rfl

/-- Taking a pending break clears it. -/
@[simp]
theorem run_takeBreak (state : State ω)
    : (takeBreak : Eval ω Bool).run state
      = (.ok state.context.breakPending,
          { state with context := { state.context with breakPending := false } }) :=
  rfl

/-- What follows an action runs on the state it leaves, unless the action stops. -/
theorem run_bind (action : Eval ω α) (next : α → Eval ω β) (state : State ω)
    : (action >>= next).run state
      = match action.run state with
        | (.ok value, later) => (next value).run later
        | (.error stop, later) => (.error stop, later) := by
  show ExceptT.bindCont next (action.run state).1 (action.run state).2 = _
  rcases action.run state with ⟨_ | _, later⟩ <;> rfl

/-- A sequence that has a value has one of each action. -/
theorem exists_of_run_bind {first : Eval ω α} {next : α → Eval ω β} {state later : State ω}
    {value : β} (ran : (first >>= next).run state = (.ok value, later))
    : ∃ middle between,
        first.run state = (.ok middle, between)
        ∧ (next middle).run between = (.ok value, later) := by
  rw [run_bind] at ran
  split at ran
  · next middle between started => exact ⟨middle, between, started, ran⟩
  · cases ran

/-- What follows a reading is run on the state that is read. -/
@[simp]
theorem run_get_bind (next : State ω → Eval ω β) (state : State ω)
    : (get >>= next).run state = (next state).run state :=
  rfl

/-- A span is noted on a stop and changes nothing else. -/
theorem run_atSpan (span : Span) (action : Eval ω α) (state : State ω)
    : (atSpan span action).run state
      = match action.run state with
        | (.ok value, later) => (.ok value, later)
        | (.error stop, later) => (.error (stop.withSpan span), later) := by
  show ((action.run state).1.mapError _, (action.run state).2) = _
  rcases action.run state with ⟨_ | _, later⟩ <;> rfl

/-- A closing change is made however the action ends. -/
@[simp]
theorem run_andThen (action : Eval ω α) (change : State ω → State ω) (state : State ω)
    : (andThen action change).run state
      = ((action.run state).1, change (action.run state).2) :=
  rfl

/-- Whatever value an action has, it is as it should be. -/
def Gives (holds : α → Prop) (action : Eval ω α) : Prop :=
  ∀ state value later, action.run state = (.ok value, later) → holds value

/-- What an action gives is what its last part gives. -/
theorem Gives.bind {holds : β → Prop} {first : Eval ω α} {next : α → Eval ω β}
    (rest : ∀ value, (next value).Gives holds)
    : (first >>= next).Gives holds := by
  intro state value later ran
  obtain ⟨middle, between, _, ended⟩ := exists_of_run_bind ran
  exact rest middle between value later ended

/-- The values of elementwise actions are as they should be, by induction on the list.
Witness: the first value is given by the first action, and the others by the rest.
-/
theorem Gives.mapM {κ : Type} {holds : α → Prop} {act : κ → Eval ω α}
    (each : ∀ item, (act item).Gives holds) (items : List κ)
    : (items.mapM act).Gives (∀ value ∈ ·, holds value) := by
  induction items with
  | nil =>
      intro state values later ran
      cases ran
      simp
  | cons item rest ih =>
      rw [List.mapM_cons]
      intro state values later ran
      obtain ⟨value, _, first, ran⟩ := exists_of_run_bind ran
      obtain ⟨others, _, second, ran⟩ := exists_of_run_bind ran
      cases ran
      exact List.forall_mem_cons.mpr ⟨each item _ _ _ first, ih _ _ _ second⟩

end Eval

-----------------------------------------------------------------------------------------
-- Couplings
-----------------------------------------------------------------------------------------

/-- How two runs are compared: what their states share, which stops of the first run end the
comparison, and which stops may occur apart from those, in which state of the first run.
-/
structure Coupling (ω : Type) where
  Related : State ω → State ω → Prop
  Excused : Stop → Prop := fun _ => False
  Allowed : State ω → Stop → Prop := fun _ _ => True

namespace Coupling

/-- Both runs end alike, in states that share what they must, unless the first one is
excused.
-/
inductive Outcome (c : Coupling ω)
    : Except Stop α × State ω → Except Stop α × State ω → Prop
  | excused {stop state second} (excuse : c.Excused stop)
    : c.Outcome (.error stop, state) second
  | value {value first second} (related : c.Related first second)
    : c.Outcome (.ok value, first) (.ok value, second)
  | stop {stop first second} (allowed : c.Allowed first stop) (related : c.Related first second)
    : c.Outcome (.error stop, first) (.error stop, second)

/-- From states that share what they must, two actions have a common outcome. -/
def Couples (c : Coupling ω) (first second : Eval ω α) : Prop :=
  ∀ s t, c.Related s t → c.Outcome (first.run s) (second.run t)

variable {c : Coupling ω}

/-- A value is the same in both runs. -/
theorem Couples.pure (value : α) : c.Couples (pure value) (pure value) :=
  fun _ _ related => .value related

/-- Both runs may stop with what is allowed. -/
theorem Couples.throw {stop : Stop} (allowed : ∀ state, c.Allowed state stop)
    : c.Couples (throw stop : Eval ω α) (throw stop) :=
  fun s _ related => .stop (allowed s) related

/-- Sequencing keeps actions coupled: after an excused stop nothing is compared, and after a
common value the continuations are, which may use what is known of the value.
-/
theorem Couples.bind_of_gives {holds : α → Prop} {first second : Eval ω α}
    {next next' : α → Eval ω β} (start : c.Couples first second) (gives : first.Gives holds)
    (rest : ∀ value, holds value → c.Couples (next value) (next' value))
    : c.Couples (first >>= next) (second >>= next') := by
  intro s t related
  have outcome := start s t related
  rw [Eval.run_bind, Eval.run_bind]
  generalize ran : first.run s = left at outcome
  generalize second.run t = right at outcome
  cases outcome with
  | excused excuse => exact .excused excuse
  | value related => exact rest _ (gives _ _ _ ran) _ _ related
  | stop allowed related => exact .stop allowed related

/-- Coupled actions can be put one after the other. -/
theorem Couples.bind {first second : Eval ω α} {next next' : α → Eval ω β}
    (start : c.Couples first second) (rest : ∀ value, c.Couples (next value) (next' value))
    : c.Couples (first >>= next) (second >>= next') :=
  start.bind_of_gives (fun _ _ _ _ => trivial) fun value (_ : True) => rest value

/-- What is made of the value of coupled actions is the same in both runs. -/
theorem Couples.map {first second : Eval ω α} (f : α → β) (start : c.Couples first second)
    : c.Couples (f <$> first) (f <$> second) := by
  rw [map_eq_pure_bind, map_eq_pure_bind]
  exact start.bind fun value => .pure (f value)

/-- What reads the states is coupled if it is for all states that share what they must. -/
theorem Couples.read {next next' : State ω → Eval ω α}
    (rest : ∀ s t, c.Related s t → c.Couples (next s) (next' t))
    : c.Couples (get >>= next) (get >>= next') :=
  fun s t related => rest s t related s t related

/-- Without excuses, coupled actions end alike.
Witness: an outcome is a common value, a common stop, or excused.
-/
theorem Couples.agree {first second : Eval ω α} (couples : c.Couples first second)
    (unexcused : ∀ stop, ¬c.Excused stop) {s t : State ω} (related : c.Related s t)
    : (second.run t).1 = (first.run s).1 ∧ c.Related (first.run s).2 (second.run t).2 := by
  have outcome := couples s t related
  generalize first.run s = left at outcome
  generalize second.run t = right at outcome
  cases outcome with
  | excused excuse => exact absurd excuse (unexcused _)
  | value related => exact ⟨rfl, related⟩
  | stop _ related => exact ⟨rfl, related⟩

/-- Coupled elementwise actions are coupled over a list, by induction on it.
Witness: the first actions are coupled, and the rest runs on the states that they leave.
-/
theorem Couples.mapM {κ : Type} {items : List κ} {act act' : κ → Eval ω α}
    (each : ∀ item ∈ items, c.Couples (act item) (act' item))
    : c.Couples (items.mapM act) (items.mapM act') := by
  induction items with
  | nil => exact .pure []
  | cons item rest ih =>
      rw [List.mapM_cons, List.mapM_cons]
      exact (each item (by simp)).bind fun value =>
        (ih fun later member => each later (by simp [member])).bind fun values =>
          .pure (value :: values)

/-- Coupled actions are coupled over a list, by induction on it. -/
theorem Couples.forM {κ : Type} {items : List κ} {act act' : κ → Eval ω PUnit}
    (each : ∀ item ∈ items, c.Couples (act item) (act' item))
    : c.Couples (items.forM act) (items.forM act') := by
  induction items with
  | nil => exact .pure PUnit.unit
  | cons item rest ih =>
      exact (each item (by simp)).bind fun _ =>
        ih fun later member => each later (by simp [member])

-----------------------------------------------------------------------------------------
-- What evaluation can see
-----------------------------------------------------------------------------------------

/-- Stops that are in order: an error that interrupts no loop anywhere, an interruption on request
where there is one, and what was in order before its place was noted or a lambda was left.
-/
structure Permits (allowed : State ω → Stop → Prop) : Prop where
  errors : ∀ error, error.cause.interrupts = false → ∀ state, allowed state (.error error)
  cancels
    : ∀ state, state.context.cancelled = true → allowed state (.error { cause := .cancelled })
  spans : ∀ span {state stop}, allowed state stop → allowed state (stop.withSpan span)
  leaves : ∀ this {state stop}, allowed state stop → allowed (Machine.leave this state) stop

/-- Where errors are in order whatever the state is, a place makes none of them worse.
Witness: noting where an error arose gives an error again, and other stops have no place.
-/
theorem Permits.ofStops {allowed : Stop → Prop} (errors : ∀ error, allowed (.error error))
    : Permits fun (_ : State ω) stop => allowed stop where
  errors := fun error _ _ => errors error
  cancels := fun _ _ => errors _
  spans := fun _ _ stop start => by
    cases stop with
    | error error => exact errors _
    | danglingNode => exact start
    | outOfFuel => exact start
  leaves := fun _ _ _ start => start

/-- Where everything is allowed, everything that may stop an evaluation is permitted. -/
theorem Permits.all : Permits fun (_ : State ω) _ => True := .ofStops fun _ => trivial

/-- The two machines know the same names and the same host, related states have one heap and one
world, and a place excuses no stop.
-/
structure Shares (c : Coupling ω) (m m' : Machine ω) : Prop where
  names : m'.names = m.names
  host : m'.host = m.host
  heap : ∀ {s t}, c.Related s t → t.heap = s.heap
  world : ∀ {s t}, c.Related s t → t.world = s.world
  permits : Permits c.Allowed
  excuses : ∀ span {stop}, c.Excused stop → c.Excused (stop.withSpan span)

/-- Related contexts look the same to an evaluation, whatever else differs in them. -/
structure Observes (c : Coupling ω) (m m' : Machine ω) : Prop extends c.Shares m m' where
  this : ∀ {s t}, c.Related s t → t.context.this = s.context.this
  lookup
    : ∀ {s t}, c.Related s t
      → ∀ name, t.context.vars.lookup name = s.context.vars.lookup name
  breakPending : ∀ {s t}, c.Related s t → t.context.breakPending = s.context.breakPending
  cancelled : ∀ {s t}, c.Related s t → t.context.cancelled = s.context.cancelled

namespace Shares

variable {m m' : Machine ω} (shares : c.Shares m m')

include shares

/-- Both runs fail with the same ordinary cause. -/
theorem fail {cause : Cause} (ordinary : cause.interrupts = false)
    : c.Couples (Eval.fail cause : Eval ω α) (Eval.fail cause) :=
  .throw (shares.permits.errors _ ordinary)

/-- A result without effects is the same in both runs, be it a value or an ordinary failure. -/
theorem ofExcept {result : Except Cause α} (ordinary : Ordinary result)
    : c.Couples (Eval.ofExcept result) (Eval.ofExcept result) := by
  cases result with
  | ok value => exact .pure value
  | error cause => exact shares.fail ordinary

/-- A span on both sides keeps actions coupled.
Witness: a common value stays, and a common stop gets its place in both runs.
-/
theorem atSpan (span : Span) {first second : Eval ω α} (start : c.Couples first second)
    : c.Couples (Eval.atSpan span first) (Eval.atSpan span second) := by
  intro s t related
  have outcome := start s t related
  rw [Eval.run_atSpan, Eval.run_atSpan]
  generalize first.run s = left at outcome
  generalize second.run t = right at outcome
  cases outcome with
  | excused excuse => exact .excused (shares.excuses span excuse)
  | value related => exact .value related
  | stop allowed related => exact .stop (shares.permits.spans span allowed) related

/-- Related states show values in the same way, as host, heap and world agree. -/
theorem sceneOf {s t : State ω} (related : c.Related s t) : m'.sceneOf t = m.sceneOf s := by
  rw [Machine.sceneOf, Machine.sceneOf, shares.host, shares.heap related,
    shares.world related]

/-- The current scene is the same in both runs, so what follows gets one scene. -/
theorem scene : c.Couples m.scene m'.scene := by
  refine .read fun s t related => ?_
  rw [shares.sceneOf related]
  exact .pure _

/-- A class resolves alike in both runs, since names, host and world agree. -/
theorem resolveClass (name : Name) : c.Couples (m.resolveClass name) (m'.resolveClass name) := by
  refine .read fun s t related => ?_
  rw [shares.host, shares.names, shares.world related]
  cases m.host.resolveClass s.world (m.names.text name) with
  | none => exact shares.fail rfl
  | some className => exact .pure className

/-- A conversion is coupled, as it looks at the scene only. -/
theorem coerce (value : Value) (type : PrimitiveType)
    : c.Couples (m.coerce value type) (m'.coerce value type) :=
  shares.scene.bind fun scene => shares.ofExcept (scene.ordinary_coerce _ _)

/-- A conversion to a declared type is coupled, as it looks at the scene only. -/
theorem coerceToType (value : Value) (type : ResolvedType Name)
    : c.Couples (m.coerceToType value type) (m'.coerceToType value type) :=
  shares.scene.bind fun scene => shares.ofExcept (scene.ordinary_coerceToType _ _)

/-- The demand for a truth value is coupled, as it looks at the scene only. -/
theorem requireBool (value : Value) (role : String)
    : c.Couples (m.requireBool value role) (m'.requireBool value role) :=
  shares.scene.bind fun scene => shares.ofExcept (scene.ordinary_toBool _ _)

end Shares

-----------------------------------------------------------------------------------------
-- One run compared with itself
-----------------------------------------------------------------------------------------

/-- A run compared with itself, to follow an invariant and the ways to stop through it. -/
def invariant (holds : State ω → Prop) (allowed : State ω → Stop → Prop) : Coupling ω :=
  { Related := fun s t => s = t ∧ holds s, Allowed := allowed }

/-- A run is coupled with itself by any invariant, where both sides are the same state. -/
theorem invariant_observes (m : Machine ω) (holds : State ω → Prop)
    {allowed : State ω → Stop → Prop} (permits : Permits allowed)
    : (invariant holds allowed).Observes m m where
  names := rfl
  host := rfl
  heap := fun related => congrArg State.heap related.1.symm
  world := fun related => congrArg State.world related.1.symm
  permits := permits
  excuses := fun _ _ excuse => excuse
  this := fun related => congrArg (·.context.this) related.1.symm
  lookup := fun related name => congrArg (·.context.vars.lookup name) related.1.symm
  breakPending := fun related => congrArg (·.context.breakPending) related.1.symm
  cancelled := fun related => congrArg (·.context.cancelled) related.1.symm

/-- An action keeps the invariant and ends as it may.
Witness: both sides of the coupling are the same run, so its outcome is a value or an allowed stop.
-/
theorem Couples.keeps {holds : State ω → Prop} {allowed : State ω → Stop → Prop}
    {action : Eval ω α} (couples : (invariant holds allowed).Couples action action)
    {state : State ω} (start : holds state)
    : holds (action.run state).2
      ∧ ∀ stop, (action.run state).1 = .error stop → allowed (action.run state).2 stop := by
  have outcome := couples state state ⟨rfl, start⟩
  generalize action.run state = left at outcome
  generalize same : left = right at outcome
  cases outcome with
  | excused excuse => exact False.elim excuse
  | value related => exact ⟨related.2, by simp⟩
  | stop allowed related =>
      refine ⟨related.2, fun stop same => ?_⟩
      cases same
      exact allowed

end Coupling

end Scratchpad
