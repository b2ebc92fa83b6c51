import Scratchpad.Proofs.Host.Beans

/-! Properties of beans, written and read by calls that no declaration resolves. The name of an
accessor spells its property, and a getter reads what a setter wrote exactly if both spell the same
one.
-/

namespace Scratchpad

-----------------------------------------------------------------------------------------
-- Names of accessors
-----------------------------------------------------------------------------------------

/-- What comes after the beginning of a text is the rest of it. -/
theorem textAfter?_append (beginning rest : String)
    : textAfter? beginning (beginning ++ rest) = some rest := by
  simp [textAfter?, ← String.length_toList]

namespace Accessor

variable {name : String}

/-- A method `get` with a name reads the property of that name. -/
theorem ofMethod?_get (named : name ≠ "")
    : ofMethod? ("get" ++ name) = some (.getter (decapitalize name)) := by
  simp [ofMethod?, textAfter?_append, Option.filter, named]

/-- So does a method `is` with a name.
Witness: it does not begin with `get`.
-/
theorem ofMethod?_is (named : name ≠ "")
    : ofMethod? ("is" ++ name) = some (.getter (decapitalize name)) := by
  have get : textAfter? "get" ("is" ++ name) = none := by simp [textAfter?]
  simp [ofMethod?, textAfter?_append, get, Option.filter, named]

/-- A method `set` with a name writes the property of that name.
Witness: it begins neither with `get` nor with `is`.
-/
theorem ofMethod?_set (named : name ≠ "")
    : ofMethod? ("set" ++ name) = some (.setter (decapitalize name)) := by
  have get : textAfter? "get" ("set" ++ name) = none := by simp [textAfter?]
  have is : textAfter? "is" ("set" ++ name) = none := by simp [textAfter?]
  simp [ofMethod?, textAfter?_append, get, is, Option.filter, named]

end Accessor

-----------------------------------------------------------------------------------------
-- Calls by name
-----------------------------------------------------------------------------------------

namespace Machine

variable {ω : Type}

/-- A call of a method that no declaration resolves. -/
structure NamedCall (m : Machine ω) (method : String) (args : List ExprId) where
  arena : Arena
  id : ExprId
  expr : Expr
  name : Name
  found : arena.expr? id = some expr
  kind : expr.kind = .call name args
  spelled : m.names.text name = method
  undeclared : ∀ decl, expr.decl? ≠ some (.method decl)

namespace NamedCall

variable {m : Machine ω} {method : String} {args : List ExprId}

def job (call : m.NamedCall method args) (receiver : Option Value) : Job :=
  .eval call.arena call.id receiver

/-- On an object such a call can only be an accessor.
Witness: no method of the host has the name, so that resolution falls through to the accessors; an
object is neither an array nor a lambda.
-/
theorem run_job (call : m.NamedCall method args) (fuel : Nat) {state : State ω}
    {receiver : Option Value} {ref : ObjectRef}
    (target : receiver.getD state.context.this = .object ref)
    : (m.run (fuel + 1) (call.job receiver)).run state
      = (Eval.atSpan call.expr.span
          (m.callAccessor (m.run fuel) call.arena method (.object ref) args)).run state := by
  have called
      : (m.evalExpr (m.run fuel) call.arena call.expr receiver).run state
        = (m.callAccessor (m.run fuel) call.arena method (.object ref) args).run state := by
    simp only [evalExpr, call.kind, callMethod, Eval.run_get_bind, target, Heap.callable?,
      call.spelled]
    split
    · next decl resolved => exact absurd resolved (call.undeclared decl)
    · rfl
  rw [job, run, perform]
  simp only [call.found]
  rw [Eval.run_atSpan, Eval.run_atSpan, called]

end NamedCall

-----------------------------------------------------------------------------------------
-- Accessors of beans
-----------------------------------------------------------------------------------------

open SampleHost (World)

variable {m : Machine World} {state evaluated : State World} {ref : ObjectRef}
  {shape : String × List String} {method property : String} {value : Value}

/-- No run adds a property to a bean or removes one. -/
theorem shape?_of_run (sample : m.host = SampleHost.host)
    (bean : state.world.shape? ref = some shape) {fuel : Nat} {job : Job}
    {result : Except Stop Value} {later : State World}
    (ran : (m.run fuel job).run state = (result, later))
    : later.world.shape? ref = some shape := by
  have after := run_preserves (sample ▸ SampleHost.preserves_shape ref shape) fuel job bean
  rwa [ran] at after

/-- A bean of the sample host has properties. -/
theorem hasProperties_of_shape? (sample : m.host = SampleHost.host)
    (bean : state.world.shape? ref = some shape)
    : m.host.hasProperties state.world ref = true := by
  obtain ⟨properties, found, _⟩ := World.exists_of_shape? bean
  simp [sample, SampleHost.host, World.hasProperties, found]

/-- What a bean does not have is reported as a method missing from its class.
Witness: the class of the bean is the one in its shape.
-/
theorem run_methodNotFound (sample : m.host = SampleHost.host)
    (bean : state.world.shape? ref = some shape)
    : (m.methodNotFound method (.object ref) : Eval World Value).run state
      = (.error (.error { cause := .methodNotFound method shape.1 }), state) := by
  obtain ⟨properties, found, _⟩ := World.exists_of_shape? bean
  have own : m.host.className state.world ref = shape.1 := by
    simp [sample, SampleHost.host, World.className, found, SampleHost.SampleObject.className]
  rw [← own]
  rfl

/-- Reading a property gives its value or reports a missing method, without a change to the state.
Witness: the answer of the sample host is the value in its world.
-/
theorem run_readProperty (sample : m.host = SampleHost.host)
    : (m.readProperty ref method property).run state
      = match state.world.property? ref property with
        | some value => (.ok value, state)
        | none => (m.methodNotFound method (.object ref)).run state := by
  have answered
      : (m.callHost (m.host.getProperty ref property)).run state
        = (.ok (state.world.property? ref property), state) := by
    rw [sample]
    rfl
  rw [readProperty, Eval.run_bind, answered]
  cases state.world.property? ref property <;> rfl

/-- Writing a property changes the world, or reports a missing method where there is none.
Witness: the answer of the sample host says whether the world was changed.
-/
theorem run_writeProperty (sample : m.host = SampleHost.host)
    : (m.writeProperty ref method property value).run state
      = match state.world.setProperty? ref property value with
        | some world => (.ok .void, { state with world })
        | none => (m.methodNotFound method (.object ref)).run state := by
  have answered
      : (m.callHost (m.host.setProperty ref property value)).run state
        = match state.world.setProperty? ref property value with
          | some world => (.ok true, { state with world })
          | none => (.ok false, state) := by
    rw [sample]
    simp only [callHost, Eval.run_get_bind, SampleHost.host]
    cases state.world.setProperty? ref property value <;> rfl
  rw [writeProperty, Eval.run_bind, answered]
  cases state.world.setProperty? ref property value <;> rfl

namespace NamedCall

/-- The call returns the value and changes nothing, whether the object is its explicit receiver or
the ambient one.
-/
def Yields (call : m.NamedCall method []) (ref : ObjectRef) (state : State World) (value : Value)
    : Prop :=
  ∀ fuel receiver, receiver.getD state.context.this = .object ref
    → (m.run (fuel + 1) (call.job receiver)).run state = (.ok value, state)

/-- A getter yields what the property is.
Witness: any run with fuel for the call reads the property, so that one run tells its value, and its
value tells all runs.
-/
theorem yields_iff (sample : m.host = SampleHost.host)
    (bean : state.world.shape? ref = some shape) (call : m.NamedCall method [])
    (spells : Accessor.ofMethod? method = some (.getter property))
    : call.Yields ref state value ↔ state.world.property? ref property = some value := by
  have runs (fuel : Nat) (receiver : Option Value)
      (target : receiver.getD state.context.this = .object ref)
      : (m.run (fuel + 1) (call.job receiver)).run state
        = (Eval.atSpan call.expr.span (m.readProperty ref method property)).run state := by
    rw [call.run_job fuel target, Eval.run_atSpan, Eval.run_atSpan, callAccessor,
      Eval.run_get_bind]
    simp only [hasProperties_of_shape? sample bean, if_true, spells]
  constructor
  · intro yields
    have ran := yields 0 (some (.object ref)) rfl
    rw [runs 0 _ rfl, Eval.run_atSpan, run_readProperty sample] at ran
    cases found : state.world.property? ref property with
    | some known =>
        simp only [found] at ran
        cases ran
        rfl
    | none =>
        simp only [found, run_methodNotFound sample bean] at ran
        cases ran
  · intro found fuel receiver target
    rw [runs fuel receiver target, Eval.run_atSpan, run_readProperty sample]
    simp only [found]

/-- A call of a setter writes the property after its argument has been evaluated. -/
theorem run_setter (sample : m.host = SampleHost.host)
    (bean : state.world.shape? ref = some shape) {arg : ExprId} (call : m.NamedCall method [arg])
    (spells : Accessor.ofMethod? method = some (.setter property)) {fuel : Nat}
    (evaluates : (m.run fuel (.eval call.arena arg none)).run state = (.ok value, evaluated))
    {receiver : Option Value} (target : receiver.getD state.context.this = .object ref)
    : (m.run (fuel + 1) (call.job receiver)).run state
      = (Eval.atSpan call.expr.span (m.writeProperty ref method property value)).run evaluated := by
  rw [call.run_job fuel target, Eval.run_atSpan, Eval.run_atSpan, callAccessor,
    Eval.run_get_bind]
  simp only [hasProperties_of_shape? sample bean, if_true, spells, ambient, Eval.run_bind,
    evaluates]

section Setter

variable {name : String} {arg : ExprId} {fuel : Nat} {receiver : Option Value}
  (sample : m.host = SampleHost.host) (bean : state.world.shape? ref = some shape)
  (named : name ≠ "") (call : m.NamedCall ("set" ++ name) [arg])
  (evaluates : (m.run fuel (.eval call.arena arg none)).run state = (.ok value, evaluated))
  (target : receiver.getD state.context.this = .object ref)

include sample bean named evaluates target

/-- Setting a property that is there gives `void`, writes it and leaves the others alone.
Witness: evaluating the argument keeps the shape of the bean, so that the property is still there.
-/
theorem run_setter_of_mem (present : decapitalize name ∈ shape.2)
    : ∃ world,
        (m.run (fuel + 1) (call.job receiver)).run state = (.ok .void, { evaluated with world })
        ∧ world.shape? ref = some shape
        ∧ world.property? ref (decapitalize name) = some value
        ∧ ∀ other, other ≠ decapitalize name
          → world.property? ref other = evaluated.world.property? ref other := by
  have kept := shape?_of_run sample bean evaluates
  obtain ⟨world, written, others, own⟩ := World.setProperty?_of_mem kept present value
  refine ⟨world, ?_, World.shape?_setProperty? written kept, own, others⟩
  rw [call.run_setter sample bean (Accessor.ofMethod?_set named) evaluates target,
    Eval.run_atSpan, run_writeProperty sample, written]

/-- Setting a property that is not there fails in the state that the argument left.
Witness: evaluating the argument keeps the shape of the bean, so that the property is still missing.
-/
theorem run_setter_of_notMem (absent : decapitalize name ∉ shape.2)
    : ∃ error,
        (m.run (fuel + 1) (call.job receiver)).run state = (.error (.error error), evaluated)
        ∧ error.cause = .methodNotFound ("set" ++ name) shape.1 := by
  have kept := shape?_of_run sample bean evaluates
  have refused := World.setProperty?_of_notMem kept absent value
  let error : EvalError := { cause := .methodNotFound ("set" ++ name) shape.1 }
  refine ⟨error.withSpan call.expr.span, ?_, error.cause_withSpan _⟩
  rw [call.run_setter sample bean (Accessor.ofMethod?_set named) evaluates target,
    Eval.run_atSpan, run_writeProperty sample, refused]
  simp only [run_methodNotFound sample kept]
  rfl

end Setter

/-- Whatever a setter by the given name is called with from the state, the call returns it
afterwards.
-/
def ReadsBack (getter : m.NamedCall method []) (setter : String) (ref : ObjectRef)
    (state : State World)
    : Prop :=
  ∀ {arg : ExprId} (call : m.NamedCall setter [arg]) {fuel receiver value evaluated written},
    receiver.getD state.context.this = .object ref
    → (m.run fuel (.eval call.arena arg none)).run state = (.ok value, evaluated)
    → (m.run (fuel + 1) (call.job receiver)).run state = (.ok .void, written)
    → getter.Yields ref written value

/-- A call by the same name, with a literal as its argument. -/
def onLiteral {args : List ExprId} (call : m.NamedCall method args) (flag : Bool)
    : m.NamedCall method [⟨0⟩] where
  arena :=
    { exprs := #[{ kind := .literal (.bool flag) }, { kind := .call call.name [⟨0⟩] }] }
  id := ⟨1⟩
  expr := { kind := .call call.name [⟨0⟩] }
  name := call.name
  found := rfl
  kind := rfl
  spelled := call.spelled
  undeclared := nofun

/-- A getter reads what a setter writes if both spell the same property. Otherwise it returns the
same whatever is written, and so misses one of two values.
-/
theorem readsBack_iff (sample : m.host = SampleHost.host)
    (bean : state.world.shape? ref = some shape) {name other : String} (named : name ≠ "")
    (different : other ≠ "") (present : decapitalize name ∈ shape.2) {arg : ExprId}
    (call : m.NamedCall ("set" ++ name) [arg]) (getter : m.NamedCall ("get" ++ other) [])
    : getter.ReadsBack ("set" ++ name) ref state ↔ decapitalize other = decapitalize name := by
  have spells := Accessor.ofMethod?_get different
  constructor
  · intro reads
    by_contra apart
    have known (flag : Bool)
        : state.world.property? ref (decapitalize other) = some (.bool flag) := by
      have target : (some (.object ref)).getD state.context.this = .object ref := rfl
      have evaluates
          : (m.run 1 (.eval (call.onLiteral flag).arena ⟨0⟩ none)).run state
            = (.ok (.bool flag), state) :=
        rfl
      obtain ⟨world, ran, kept, _, others⟩ :=
        run_setter_of_mem sample bean named (call.onLiteral flag) evaluates target present
      have yields := reads (call.onLiteral flag) target evaluates ran
      rwa [yields_iff sample kept getter spells, others _ apart] at yields
    have same := (known true).symm.trans (known false)
    simp at same
  · intro same arg call fuel receiver value evaluated written target evaluates ran
    obtain ⟨world, wrote, kept, own, _⟩ :=
      run_setter_of_mem sample bean named call evaluates target present
    obtain rfl : written = { evaluated with world } := (Prod.ext_iff.mp (ran.symm.trans wrote)).2
    exact (yields_iff sample kept getter spells).mpr (same ▸ own)

end NamedCall

/-- The accessors of a property agree on a bean, where `outcome` is how its setter ended after the
argument was evaluated to the value.
-/
structure AccessorsAgree (m : Machine World) (name : String) (ref : ObjectRef) (className : String)
    (properties : List (String × Value)) (state evaluated : State World) (value : Value)
    (outcome : Except Stop Value × State World)
    : Prop where
  returns : outcome.1 = .ok .void ↔ decapitalize name ∈ properties.map Prod.fst
  refuses
    : decapitalize name ∉ properties.map Prod.fst
      → ∃ error, outcome = (.error (.error error), evaluated)
          ∧ error.cause = .methodNotFound ("set" ++ name) className
  reads
    : outcome.1 = .ok .void
      → ∀ method ∈ ["get" ++ name, "is" ++ name], ∀ getter : m.NamedCall method [],
          getter.Yields ref outcome.2 value
  others
    : outcome.1 = .ok .void
      → ∀ property, property ≠ decapitalize name
        → outcome.2.world.property? ref property = evaluated.world.property? ref property
  getters
    : ∀ other, other ≠ ""
      → ∀ (getter : m.NamedCall ("get" ++ other) []) result,
          getter.Yields ref outcome.2 result
          ↔ outcome.2.world.property? ref (decapitalize other) = some result
  readers
    : outcome.1 = .ok .void
      → ∀ other, other ≠ ""
        → ∀ getter : m.NamedCall ("get" ++ other) [],
            getter.ReadsBack ("set" ++ name) ref state ↔ decapitalize other = decapitalize name
  fixed
    : ∀ jobs, ∃ later,
        (m.runAll jobs state).world.object? ref = some (.bean className later)
        ∧ later.map Prod.fst = properties.map Prod.fst

/-- A call of a setter on a bean writes the property that it spells if the bean has it, and fails
otherwise; the accessors of the property then return what was written. No sequence of runs changes
which properties there are.
-/
theorem accessors_meet_in_their_property (sample : m.host = SampleHost.host) {className : String}
    {properties : List (String × Value)}
    (bean : state.world.object? ref = some (.bean className properties)) {name : String}
    (named : name ≠ "") {arg : ExprId} (setter : m.NamedCall ("set" ++ name) [arg]) {fuel : Nat}
    (evaluates : (m.run fuel (.eval setter.arena arg none)).run state = (.ok value, evaluated))
    {receiver : Option Value} (target : receiver.getD state.context.this = .object ref)
    : m.AccessorsAgree name ref className properties state evaluated value
        ((m.run (fuel + 1) (setter.job receiver)).run state) := by
  have shaped : state.world.shape? ref = some (className, properties.map Prod.fst) := by
    rw [World.shape?, bean, Option.bind_some, SampleHost.SampleObject.shape?]
  have refuses := setter.run_setter_of_notMem sample shaped named evaluates target
  have writes := setter.run_setter_of_mem sample shaped named evaluates target
  have present
      (returned : ((m.run (fuel + 1) (setter.job receiver)).run state).1 = .ok .void)
      : decapitalize name ∈ properties.map Prod.fst := by
    by_contra absent
    obtain ⟨error, failed, _⟩ := refuses absent
    rw [failed] at returned
    cases returned
  constructor
  case returns =>
    refine ⟨present, fun has => ?_⟩
    obtain ⟨world, wrote, _⟩ := writes has
    rw [wrote]
  case refuses => exact refuses
  case reads =>
    intro returned method member getter
    obtain ⟨world, wrote, kept, own, _⟩ := writes (present returned)
    have spells : Accessor.ofMethod? method = some (.getter (decapitalize name)) := by
      rcases List.mem_pair.mp member with rfl | rfl
      · exact Accessor.ofMethod?_get named
      · exact Accessor.ofMethod?_is named
    rw [wrote, NamedCall.yields_iff sample kept getter spells]
    exact own
  case others =>
    intro returned property apart
    obtain ⟨world, wrote, _, _, others⟩ := writes (present returned)
    rw [wrote]
    exact others property apart
  case getters =>
    intro other different getter result
    have kept := run_preserves (sample ▸ SampleHost.preserves_shape ref _) (fuel + 1)
      (setter.job receiver) shaped
    exact NamedCall.yields_iff sample kept getter (Accessor.ofMethod?_get different)
  case readers =>
    intro returned other different getter
    exact NamedCall.readsBack_iff sample shaped named different (present returned) setter getter
  case fixed =>
    intro jobs
    exact World.exists_of_shape?
      (runAll_preserves (sample ▸ SampleHost.preserves_shape ref _) jobs shaped)

/-- The call `setName(setActive(true)."Ada")`, whose argument writes another property first. -/
def nameArena : Arena :=
  {
    exprs :=
      #[
        { kind := .literal (.bool true) },
        { kind := .call ⟨4⟩ [⟨0⟩] },
        { kind := .literal (.str ⟨5⟩) },
        { kind := .chain [⟨1⟩, ⟨2⟩] },
        { kind := .call ⟨3⟩ [⟨3⟩] }
      ]
  }

def personMachine : Machine World :=
  { names := .filled ["setName", "setActive", "Ada"], host := SampleHost.host }

/-- A state whose ambient receiver is a person without a name. -/
def onPerson (active : Bool) : State World :=
  {
    context := { this := .object ⟨0⟩, vars := .withLimit 1 }
    world :=
      { objects := #[.bean "com.example.Person" [("name", .null), ("active", .bool active)]] }
  }

def activeSetter : personMachine.NamedCall ("set" ++ "Active") [⟨0⟩] where
  arena := nameArena
  id := ⟨1⟩
  expr := { kind := .call ⟨4⟩ [⟨0⟩] }
  name := ⟨4⟩
  found := rfl
  kind := rfl
  spelled := rfl
  undeclared := nofun

def nameSetter : personMachine.NamedCall ("set" ++ "Name") [⟨3⟩] where
  arena := nameArena
  id := ⟨4⟩
  expr := { kind := .call ⟨3⟩ [⟨3⟩] }
  name := ⟨3⟩
  found := rfl
  kind := rfl
  spelled := rfl
  undeclared := nofun

/-- The setter of the first segment makes the person active.
Witness: its argument is a literal, and the property is there.
-/
theorem run_activeSetter
    : (personMachine.run 2 (activeSetter.job none)).run (onPerson false)
      = (.ok .void, onPerson true) := by
  have spells : Accessor.ofMethod? ("set" ++ "Active") = some (.setter "active") := by
    have lower : decapitalize "Active" = "active" := rfl
    rw [← lower]
    exact Accessor.ofMethod?_set (by decide)
  have bean
      : (onPerson false).world.shape? ⟨0⟩ = some ("com.example.Person", ["name", "active"]) :=
    rfl
  rw [activeSetter.run_setter rfl bean spells rfl rfl, Eval.run_atSpan, run_writeProperty rfl]
  rfl

/-- The argument of the setter changes another property of the same bean, and the accessors still
agree.
Witness: the chain in the argument is evaluated with its setter first.
-/
theorem personName_accessors
    : (personMachine.run 3 (.eval nameArena ⟨3⟩ none)).run (onPerson false)
        = (.ok (.str "Ada"), onPerson true)
      ∧ decapitalize "Name" ∈ [("name", Value.null), ("active", .bool false)].map Prod.fst
      ∧ personMachine.AccessorsAgree "Name" ⟨0⟩ "com.example.Person"
          [("name", .null), ("active", .bool false)] (onPerson false) (onPerson true) (.str "Ada")
          ((personMachine.run 4 (nameSetter.job none)).run (onPerson false)) := by
  have evaluates
      : (personMachine.run 3 (.eval nameArena ⟨3⟩ none)).run (onPerson false)
        = (.ok (.str "Ada"), onPerson true) := by
    have first
        : (personMachine.run 2 (.eval nameArena ⟨1⟩ none)).run (onPerson false)
          = (.ok .void, onPerson true) :=
      run_activeSetter
    show (Eval.atSpan _ (chain (personMachine.run 2) nameArena none [⟨1⟩, ⟨2⟩])).run _ = _
    rw [Eval.run_atSpan, chain, Eval.run_bind, first]
    rfl
  have named : decapitalize "Name" = "name" := rfl
  refine ⟨evaluates, by simp [named], ?_⟩
  exact accessors_meet_in_their_property rfl rfl (by decide) nameSetter evaluates rfl

end Machine

end Scratchpad
