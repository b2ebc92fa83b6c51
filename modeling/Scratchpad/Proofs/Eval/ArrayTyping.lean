import Mathlib
import Scratchpad.Host.Sample
import Scratchpad.Proofs.Eval.Invocation
import Scratchpad.Proofs.Operation.Kinds

/-! The elements of primitive arrays. Allocation and plain assignment convert to the component of
an array, and compound assignment narrows to the kind of the element that is there. So elements keep
the kind of their component, except that `+=` puts a text in the place of an element when it appends
one; a program that assigns to no element by `+=` keeps all of them.
-/

namespace Scratchpad

variable {ω α : Type} {texts : Bool}

-----------------------------------------------------------------------------------------
-- Typed heaps
-----------------------------------------------------------------------------------------

/-- The elements of an array of primitives fit its component. -/
def ArrayObject.Typed (texts : Bool) (object : ArrayObject) : Prop :=
  ∀ type, object.component.primitive? = some type
    → ∀ value ∈ object.elements, value.Fits texts type

/-- All arrays are typed. Each of them can be reached, since the host may hand out any. -/
def Heap.Typed (texts : Bool) (heap : Heap) : Prop :=
  ∀ object ∈ heap.arrays, object.Typed texts

/-- A new array is typed before anything is stored in it.
Witness: every element is the zero of the component, and the zero of a primitive is of its kind.
-/
theorem ArrayObject.typed_ofLength (component : Component) (length : Nat)
    : (ofLength component length).Typed texts := by
  intro type primitive value member
  obtain ⟨_, rfl⟩ := Array.mem_replicate.mp member
  cases component with
  | primitive own =>
      obtain rfl := Option.some.inj primitive
      exact .inl (Value.primitive?_zero own)
  | reference name => simp [ofLength, Component.primitive?] at primitive

/-- What is read from an array is one of its elements. -/
theorem ArrayObject.mem_of_get? {object : ArrayObject} {index : Int32} {value : Value}
    (found : object.get? index = some value)
    : value ∈ object.elements := by
  unfold get? at found
  split at found
  · simp at found
  · exact Array.mem_of_getElem? found

namespace Heap.Typed

variable {heap : Heap} (typed : heap.Typed texts)

include typed

/-- What a reference stands for is typed, also if it is from elsewhere.
Witness: an array of the heap is typed by assumption, and the empty one that stands for any other
has no elements.
-/
theorem array (ref : ArrayRef) : (heap.array ref).Typed texts := by
  unfold Heap.array Array.getD
  split
  · exact typed _ (Array.getElem_mem _)
  · intro type primitive
    simp [Component.primitive?] at primitive

/-- Adding a typed array keeps the arrays typed.
Witness: an array after it is either one from before or the new one.
-/
theorem addArray {object : ArrayObject} (fresh : object.Typed texts)
    : (heap.addArray object).2.Typed texts := by
  intro other member
  rcases Array.mem_push.mp member with known | rfl
  · exact typed other known
  · exact fresh

/-- Storing a value that fits keeps the arrays typed.
Witness: the only array that changes is the one behind the reference, and an element of it after the
store is an old one or the value.
-/
theorem store {ref : ArrayRef} {index : Int32} {value : Value} {later : Heap}
    (stored : heap.store? ref index value = some later)
    (fits
      : ∀ type, (heap.array ref).component.primitive? = some type → value.Fits texts type)
    : later.Typed texts := by
  simp only [Heap.store?] at stored
  split at stored
  · simp at stored
  · obtain rfl := Option.some.inj stored
    intro object member
    obtain ⟨position, found⟩ := Array.mem_iff_getElem?.mp member
    rw [Array.getElem?_modify] at found
    split at found
    · next changed =>
      obtain ⟨old, known, rfl⟩ := Option.map_eq_some_iff.mp found
      have own : heap.array ref = old := by
        rw [Heap.array, Array.getD_eq_getD_getElem?, changed, known, Option.getD_some]
      intro type primitive element inside
      rcases Array.mem_or_eq_of_mem_setIfInBounds inside with kept | rfl
      · exact typed old (Array.mem_of_getElem? known) type primitive element kept
      · exact fits type (own ▸ primitive)
    · exact typed object (Array.mem_of_getElem? found)

end Heap.Typed

-----------------------------------------------------------------------------------------
-- Hosts, programs and states
-----------------------------------------------------------------------------------------

/-- The host keeps arrays typed in whatever it does. -/
def Host.KeepsTyped (texts : Bool) (host : Host ω) : Prop :=
  ∀ {α : Type} {action : HostAction ω α}, host.Offers action
    → ∀ heap world, heap.Typed texts → (action heap world).heap.Typed texts

/-- The arena assigns to elements by `+=` only where texts may take their place. -/
def Arena.Admits (texts : Bool) (arena : Arena) : Prop :=
  ∀ id expr, arena.expr? id = some expr
    → ∀ op ∈ arena.elementOps expr.kind, texts = true ∨ op ≠ .add

/-- An arena may do anything where texts may take the place of elements. -/
theorem Arena.admits_texts (arena : Arena) : arena.Admits true := fun _ _ _ _ _ => .inl rfl

/-- Arrays are typed, and no lambda will change that. -/
structure State.Typed (texts : Bool) (state : State ω) : Prop where
  arrays : state.heap.Typed texts
  lambdas : ∀ closure ∈ state.heap.closures, closure.arena.Admits texts

-----------------------------------------------------------------------------------------
-- Values of actions
-----------------------------------------------------------------------------------------

/-- The component of an array is primitive where its declared type is.
Witness: by the form of the type; its names do not matter.
-/
theorem Component.primitive?_ofType {ν : Type} (type : ResolvedType ν) (text : ν → String)
    : (ofType (type.map text)).primitive? = type.primitive? := by
  cases type <;> rfl

namespace Machine

variable (m : Machine ω)

/-- What is converted to a primitive type is of its kind.
Witness: a failed conversion gives no value, and a successful one has the kind of its type.
-/
theorem coerceToType_gives (value : Value) (type : ResolvedType Name)
    : (m.coerceToType value type).Gives fun result =>
        ∀ primitive, type.primitive? = some primitive → result.primitive? = some primitive := by
  refine .bind fun scene => ?_
  intro state result later ran primitive declared
  cases coerced : scene.coerceToType value type with
  | error cause =>
      rw [coerced] at ran
      cases ran
  | ok converted =>
      rw [coerced] at ran
      cases ran
      exact Scene.primitive?_coerceToType declared coerced

/-- The value for an element is computed without a change to the state, and it fits.
Witness: a plain assignment converts to the component. A compound one combines with the element that
is there, which keeps the kind of the element unless `+=` appends a text.
-/
theorem run_elementValue {op : AssignOp} (admitted : texts = true ∨ op ≠ .add) {state : State ω}
    (typed : state.heap.Typed texts) (ref : ArrayRef) (index : Int32) (operand : Value)
    : ∃ result : Except Cause Value,
        (m.elementValue op ref index operand).run state = (Eval.ofExcept result).run state
        ∧ ∀ value, result = .ok value
          → ∀ type, (state.heap.array ref).component.primitive? = some type
            → value.Fits texts type := by
  unfold elementValue
  split
  · next operator compound =>
    unfold loadElement
    rw [bind_assoc, Eval.run_get_bind]
    cases found : (state.heap.array ref).get? index with
    | none => exact ⟨.error (.indexOutOfBounds index _), rfl, nofun⟩
    | some current =>
        refine ⟨(m.sceneOf state).combine operator current operand, rfl, ?_⟩
        intro value combined type primitive
        have fits : current.Fits texts type :=
          typed.array ref type primitive current (ArrayObject.mem_of_get? found)
        exact Scene.fits_combine compound admitted fits combined
  · rw [Eval.run_get_bind]
    split
    · next own primitive =>
      refine ⟨(m.sceneOf state).coerce operand own, rfl, fun value coerced type same => ?_⟩
      obtain rfl : own = type := Option.some.inj (primitive.symm.trans same)
      exact .inl (Scene.primitive?_coerce coerced)
    · next reference =>
      refine ⟨.ok operand, rfl, fun value _ type primitive => ?_⟩
      simp [reference] at primitive

end Machine

-----------------------------------------------------------------------------------------
-- Evaluations
-----------------------------------------------------------------------------------------

namespace Coupling

variable {m : Machine ω}

/-- Follows a run that keeps arrays typed. -/
def typed (texts : Bool) : Coupling ω := invariant (State.Typed texts) fun _ _ => True

/-- What is read of a typed state does not tell it from itself. -/
theorem typed_observes (m : Machine ω) : (typed texts).Observes m m :=
  invariant_observes m _ .all

/-- A call of the host keeps arrays typed if the host does.
Witness: what the host does to the heap is done by the action, and the lambdas of the heap are those
from before.
-/
theorem typed_callHost (host : m.host.KeepsTyped texts) {action : HostAction ω α}
    (offered : m.host.Offers action)
    : (typed texts).Couples (m.callHost action) (m.callHost action) := by
  rintro s _ ⟨rfl, start⟩
  obtain ⟨output, _, runs⟩ := m.exists_run_callHost action s
  rw [runs s rfl rfl rfl]
  refine .value ⟨rfl, host offered s.heap s.world start.arrays, ?_⟩
  simpa [State.hosted, (action s.heap s.world).extended.closures] using start.lambdas

/-- The context holds no elements. -/
theorem typed_modifyContext (change : Context → Context)
    : (typed texts : Coupling ω).Couples (Eval.modifyContext change)
        (Eval.modifyContext change) := by
  rintro s _ ⟨rfl, start⟩
  exact .value ⟨rfl, { start with }⟩

/-- Assigning to an element keeps arrays typed where the operator is admitted.
Witness: the value is computed without a change to the state, so that it fits the array that it is
then stored in.
-/
theorem typed_writeElement (m : Machine ω) {op : AssignOp} (admitted : texts = true ∨ op ≠ .add)
    (ref : ArrayRef) (index : Int32) (operand : Value)
    : (typed texts).Couples
        (do
          let value ← m.elementValue op ref index operand
          Machine.storeElement ref index value
          pure value)
        (do
          let value ← m.elementValue op ref index operand
          Machine.storeElement ref index value
          pure value) := by
  rintro s _ ⟨rfl, start⟩
  obtain ⟨result, ran, fits⟩ := m.run_elementValue admitted start.arrays ref index operand
  rw [Eval.run_bind, ran]
  cases result with
  | error cause => exact .stop trivial ⟨rfl, start⟩
  | ok value =>
      show (typed texts).Outcome
        ((Machine.storeElement ref index value >>= fun _ => pure value).run s)
        ((Machine.storeElement ref index value >>= fun _ => pure value).run s)
      unfold Machine.storeElement
      rw [bind_assoc, Eval.run_get_bind]
      cases stored : s.heap.store? ref index value with
      | none => exact .stop trivial ⟨rfl, start⟩
      | some heap =>
          refine .value ⟨rfl, start.arrays.store stored (fits value rfl), ?_⟩
          simpa [(Heap.store?_extends stored).closures] using start.lambdas

/-- Allocating a typed array keeps arrays typed. -/
theorem typed_allocate {object : ArrayObject} (fresh : object.Typed texts)
    : (typed texts : Coupling ω).Couples (Machine.allocate object)
        (Machine.allocate object) := by
  rintro s _ ⟨rfl, start⟩
  exact .value ⟨rfl, start.arrays.addArray fresh, start.lambdas⟩

/-- The elements of a new array are converted to its component or fresh.
Witness: given elements are converted one after the other, and the elements of an array of some
dimension are zeros.
-/
theorem typed_newArray (m : Machine ω) {again again' : Job → Eval ω Value} {arena : Arena}
    (component : ResolvedType Name) (init : ArrayInit)
    (items
      : ∀ id ∈ init.items,
          (typed texts).Couples (ambient again arena id) (ambient again' arena id))
    : (typed texts).Couples (m.newArray again arena component init)
        (m.newArray again' arena component init) := by
  have observes : (typed texts).Observes m m := typed_observes m
  unfold Machine.newArray
  cases init with
  | elements ids =>
      refine (Couples.mapM fun id member => ?_).bind_of_gives
        (.mapM (fun id => .bind fun value => m.coerceToType_gives value component) ids)
        fun values converted => typed_allocate ?_
      · exact (items id member).bind fun value => observes.coerceToType value component
      · intro type primitive value member
        rw [Component.primitive?_ofType] at primitive
        exact .inl (converted value (List.mem_toArray.mp member) type primitive)
  | dimension size =>
      refine (items size (by simp [ArrayInit.items])).bind fun value => ?_
      refine (observes.arraySize value).bind fun length => typed_allocate ?_
      exact ArrayObject.typed_ofLength _ _

/-- Every effect of expressions and statements keeps arrays typed, if the operators of element
assignments are admitted.
Witness: the state is left alone, only the context is changed, or one of the lemmas above applies.
-/
theorem typed_effects (host : m.host.KeepsTyped texts)
    : (typed texts).StatementEffects m m fun op => texts = true ∨ op ≠ .add :=
  {
    typed_observes m with
    callHost := typed_callHost host
    assign := fun _ _ => typed_modifyContext _
    writeElement := fun _ => typed_writeElement m
    newArray := typed_newArray m
    define := fun _ _ => typed_modifyContext _
    takeBreak := by
      refine .read fun s t related => ?_
      obtain ⟨rfl, _⟩ := related
      exact (typed_modifyContext _).bind fun _ => .pure _
    requestBreak := typed_modifyContext _
    loop := (typed_observes m).loop rfl fun _ _ => trivial
  }

/-- Calling a lambda keeps arrays typed if its body does.
Witness: entering and leaving the frame of the call does not touch the heap.
-/
theorem typed_invoke {again : Job → Eval ω Value} {closure : Closure}
    (body : (typed texts).Couples (again closure.job) (again closure.job)) (args : List Value)
    : (typed texts).Couples (m.invoke again closure args) (m.invoke again closure args) := by
  refine invariant_invoke m .all args fun start _ _ _ => ?_
  exact ⟨State.Typed texts, { start with }, body, fun _ later => { later with }⟩

/-- A job of an admitted arena keeps arrays typed, by induction on the fuel.
Witness: each step is one of the effects above; a lambda that is called is one of the heap, so that
its arena is admitted too, and one that is created is of the arena at hand.
-/
theorem typed_run (host : m.host.KeepsTyped texts) (fuel : Nat) {job : Job}
    (admitted : job.arena.Admits texts)
    : (typed texts).Couples (m.run fuel job) (m.run fuel job) := by
  induction fuel generalizing job with
  | zero => exact .throw fun _ => trivial
  | succ fuel ih =>
      refine (typed_effects host).performNear (admitted _ _) (fun _ => True)
        (fun _ _ => trivial) (fun _ _ _ _ => trivial) (fun _ _ => trivial)
        (fun _ _ _ _ => trivial) (fun other same _ => ih (same ▸ admitted))
        (fun {s _ closure} related member args => ?_) fun params body type? _ => ?_
      · refine typed_invoke (ih ?_) args
        rw [closure.job_arena]
        exact related.2.lambdas closure member
      · refine invariant_createLambda m .all type? fun start same _ => ⟨start.arrays, ?_⟩
        intro other member
        rcases Array.mem_push.mp member with known | rfl
        · exact start.lambdas other known
        · exact same ▸ admitted

end Coupling

namespace Machine

/-- Evaluation and invocation keep every element of a primitive array at the kind of its component
or a text. In a program and with lambdas that assign to no element by `+=`, they keep every element
at the kind of its component.
-/
theorem elements_keep_their_kind (m : Machine ω) (fuel : Nat) (state : State ω)
    : (m.host.KeepsTyped true
        → state.heap.Typed true
        → (∀ job, ((m.run fuel job).run state).2.heap.Typed true)
          ∧ ∀ closure args,
              ((m.invoke (m.run fuel) closure args).run state).2.heap.Typed true)
      ∧ (m.host.KeepsTyped false
        → state.Typed false
        → (∀ job : Job, job.arena.Admits false
            → ((m.run fuel job).run state).2.heap.Typed false)
          ∧ ∀ closure : Closure, closure.arena.Admits false
            → ∀ args, ((m.invoke (m.run fuel) closure args).run state).2.heap.Typed false) := by
  have kept {texts : Bool} (host : m.host.KeepsTyped texts) (start : state.Typed texts)
      : (∀ job : Job, job.arena.Admits texts
          → ((m.run fuel job).run state).2.heap.Typed texts)
        ∧ ∀ closure : Closure, closure.arena.Admits texts
          → ∀ args, ((m.invoke (m.run fuel) closure args).run state).2.heap.Typed texts := by
    refine ⟨fun job admitted => ?_, fun closure admitted args => ?_⟩
    · exact ((Coupling.typed_run host fuel admitted).keeps start).1.arrays
    · rw [← closure.job_arena] at admitted
      have body := Coupling.typed_run host fuel admitted
      exact ((Coupling.typed_invoke body args).keeps start).1.arrays
  refine ⟨fun host heap => ?_, kept⟩
  obtain ⟨jobs, invocations⟩ := kept host ⟨heap, fun closure _ => closure.arena.admits_texts⟩
  exact ⟨
    fun job => jobs job job.arena.admits_texts,
    fun closure => invocations closure closure.arena.admits_texts
  ⟩

end Machine

-----------------------------------------------------------------------------------------
-- Appending to an element
-----------------------------------------------------------------------------------------

/-- The sample host has no method that writes to an array.
Witness: by the kind of the action; where it changes something, it changes the world.
-/
theorem SampleHost.heap_of_offers {action : HostAction SampleHost.World α}
    (offered : SampleHost.host.Offers action) (heap : Heap) (world : SampleHost.World)
    : (action heap world).heap = heap := by
  cases offered with
  | field | getProperty | iterate | staticField | invokeConstructor => rfl
  | setProperty ref name value =>
      simp only [host]
      split <;> rfl
  | newInstance name =>
      simp only [host, newInstance]
      split
      · rfl
      · split <;> rfl
  | invokeMethod decl target args =>
      simp only [host, invokeMethod]
      split
      · split <;> rfl
      · rfl

/-- The sample host keeps arrays typed.
Witness: it leaves the heap as it is.
-/
theorem SampleHost.keepsTyped : SampleHost.host.KeepsTyped texts := by
  intro α action offered heap world typed
  rwa [SampleHost.heap_of_offers offered]

namespace Machine

/-- The expression `a[0] op= operand`, at index 4. -/
def elementUpdate (op : AssignOp) (operand : Literal Name) : Arena :=
  {
    exprs :=
      #[
        { kind := .ident ⟨3⟩ },
        { kind := .literal (.int 0) },
        { kind := .index ⟨0⟩ ⟨1⟩ },
        { kind := .literal operand },
        { kind := .assign op ⟨2⟩ ⟨3⟩ }
      ]
  }

/-- A state in which `a` is an array of one `int`, with the given value as element. -/
def oneElement (value : Value) : State SampleHost.World :=
  {
    context := { this := .null, vars := { active := ⟨[(⟨3⟩, .array ⟨0⟩)]⟩, limit := 1 } }
    heap := { arrays := #[{ component := .primitive .int, elements := #[value] }] }
    world := {}
  }

def sampleMachine : Machine SampleHost.World :=
  { names := .filled ["a", "x"], host := SampleHost.host }

/-- The array of the state is typed if its element fits.
Witness: the heap holds one array of one element, and no lambdas.
-/
theorem typed_oneElement {value : Value} (fits : value.Fits texts .int)
    : (oneElement value).Typed texts := by
  refine ⟨fun object member type primitive other inside => ?_, fun closure member => ?_⟩
  · obtain rfl := Array.mem_singleton.mp member
    obtain rfl := Option.some.inj primitive
    obtain rfl := Array.mem_singleton.mp inside
    exact fits
  · exact absurd member (Array.not_mem_empty closure)

/-- An `int` does not stay one when a text is appended to it: the element becomes the text `1x`.
Witness: the assignment is run to its end; the only element of the `int` array is then a text.
-/
theorem appending_loses_the_kind
    : SampleHost.host.KeepsTyped false
      ∧ (oneElement (.int 1)).Typed false
      ∧ ¬((sampleMachine.run 3 (.eval (elementUpdate .add (.str ⟨4⟩)) ⟨4⟩ none)).run
            (oneElement (.int 1))).2.heap.Typed false := by
  refine ⟨SampleHost.keepsTyped, typed_oneElement (.inl rfl), fun typed => ?_⟩
  have appended
      : (sampleMachine.run 3 (.eval (elementUpdate .add (.str ⟨4⟩)) ⟨4⟩ none)).run
          (oneElement (.int 1))
        = (.ok (.str "1x"), oneElement (.str "1x")) := by
    cbv
  rw [appended] at typed
  rcases typed _ (Array.mem_singleton.mpr rfl) .int rfl _ (Array.mem_singleton.mpr rfl) with
    kind | ⟨texts, _⟩
  · simp [Value.primitive?] at kind
  · simp at texts

/-- An update by an operator other than `+=` is admitted where elements have to keep their kind.
Witness: of the five expressions of the arena, only the assignment has an operator.
-/
theorem admits_elementUpdate {op : AssignOp} (other : op ≠ .add) (operand : Literal Name)
    : (elementUpdate op operand).Admits false := by
  intro id expr found used member
  have held : expr ∈ (elementUpdate op operand).exprs := Array.mem_of_getElem? found
  simp only [elementUpdate, List.mem_toArray, List.mem_cons, List.not_mem_nil, or_false] at held
  rcases held with rfl | rfl | rfl | rfl | rfl
  · simp [Arena.elementOps] at member
  · simp [Arena.elementOps] at member
  · simp [Arena.elementOps] at member
  · simp [Arena.elementOps] at member
  · obtain rfl : used = op := by simpa [Arena.elementOps, elementUpdate, Arena.expr?] using member
    exact .inr other

/-- Appending a text leaves the element of an `int[]` a text, and multiplying it by a `double`
leaves it an `int`.
-/
theorem updates_keep_their_kind
    : ((sampleMachine.run 3 (.eval (elementUpdate .add (.str ⟨4⟩)) ⟨4⟩ none)).run
        (oneElement (.int 1))).2.heap.Typed true
      ∧ ((sampleMachine.run 3
          (.eval (elementUpdate .mul (.double 0x3FF8000000000000)) ⟨4⟩ none)).run
        (oneElement (.int 1))).2.heap.Typed false := by
  obtain ⟨lenient, strict⟩ :=
    elements_keep_their_kind sampleMachine 3 (oneElement (.int 1))
  obtain ⟨anyJob, _⟩ := lenient SampleHost.keepsTyped (typed_oneElement (.inl rfl)).arrays
  obtain ⟨plainJob, _⟩ := strict SampleHost.keepsTyped (typed_oneElement (.inl rfl))
  exact ⟨anyJob _, plainJob (.eval _ ⟨4⟩ none) (admits_elementUpdate (by decide) _)⟩

end Machine

end Scratchpad
