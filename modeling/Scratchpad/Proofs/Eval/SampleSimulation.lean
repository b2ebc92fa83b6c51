import Scratchpad.Host.Sample
import Scratchpad.Proofs.Eval.Simulation

/-! The sample host sees of a lambda only the interface that it implements. So it acts the same
for two runs whose lambdas are alike.
-/

namespace Scratchpad

namespace SampleHost

variable {l : Likeness} {heap heap' : Heap} {world : World}

/-- Scenes of like heaps agree if their objects are written the same.
Witness: arrays are the same, and a lambda is known in both heaps or in neither, with one target.
-/
theorem alike_of_heaps (heaps : l.Heaps heap heap') {className : ObjectRef → String}
    {objectText objectText' : ObjectRef → String} (same : objectText' = objectText)
    : Scene.Alike ⟨heap, className, objectText⟩ ⟨heap', className, objectText'⟩ := by
  refine ⟨heaps.arrays, fun ref => ?_, rfl, same⟩
  have known := heaps.closure? ref
  simp only [Scene.target]
  generalize heap.closure? ref = found at known ⊢
  generalize heap'.closure? ref = found' at known ⊢
  cases known with
  | none => rfl
  | some same => exact same.target

/-- The texts of objects agree, by induction on how deep lists may nest.
Witness: with one level less objects have the same texts, and so have the elements of a list.
-/
theorem textWithin_eq (heaps : l.Heaps heap heap') (fuel : Nat)
    : world.textWithin heap' fuel = world.textWithin heap fuel := by
  induction fuel with
  | zero => rfl
  | succ fuel ih =>
      funext ref
      simp only [World.textWithin]
      have texts : Scene.display ⟨heap', world.className, world.textWithin heap' fuel⟩
          = Scene.display ⟨heap, world.className, world.textWithin heap fuel⟩ :=
        funext (alike_of_heaps heaps ih).display
      rw [texts]

/-- Objects have the same text over alike heaps. -/
theorem text_eq (heaps : l.Heaps heap heap') : world.text heap' = world.text heap :=
  textWithin_eq heaps _

/-- A world shows values in the same way over alike heaps. -/
theorem scene_alike (heaps : l.Heaps heap heap')
    : (world.scene heap).Alike (world.scene heap') :=
  alike_of_heaps heaps (text_eq heaps)

/-- A receiver is taken alike, refusals included. -/
theorem receiverObject_eq (heaps : l.Heaps heap heap') {α : Type} (receiver : Value)
    (view? : SampleObject → Option α)
    : receiverObject heap' world receiver view? = receiverObject heap world receiver view? := by
  cases receiver <;> simp only [receiverObject, (scene_alike heaps).typeName]

/-- A value is taken as a double alike, refusals included. -/
theorem asDouble_eq (heaps : l.Heaps heap heap') (value : Value)
    : asDouble (world.scene heap') value = asDouble (world.scene heap) value := by
  simp only [asDouble, (scene_alike heaps).typeName]

/-- No method looks into a lambda.
Witness: by the table of methods; values are shown alike, and receivers are taken alike.
-/
theorem method_eq (heaps : l.Heaps heap heap') {className name : String} {method : Method}
    (known : method? className name = some method) (receiver : Value) (args : List Value)
    : method heap' world receiver args = method heap world receiver args := by
  unfold method? at known
  split at known
  all_goals cases known
  all_goals
    simp only [print, mathMax, mathAbs, mathSqrt, parseInt, stringLength, stringUpper, stringCharAt,
      pointTranslate, pointGetX, listAdd, listSize, listGet, counterIncrement, counterGet, toText,
      receiverObject_eq heaps, asDouble_eq heaps, (scene_alike heaps).display]

variable {c : Correspondence World World}

/-- An action that leaves the heap alone, and does the same on like heaps.
Witness: equal worlds stay equal, and alike heaps that are left alone stay alike.
-/
theorem actions_of_same {α : Type} {action : HostAction World α}
    (worlds : ∀ {first second}, c.Worlds first second ↔ second = first)
    (keeps : ∀ heap world, (action heap world).heap = heap)
    (same : ∀ {heap heap'}, c.Heaps heap heap' → ∀ world,
      (action heap' world).answer = (action heap world).answer
      ∧ (action heap' world).world = (action heap world).world
      ∧ (action heap' world).written = (action heap world).written)
    : c.Actions action action := by
  constructor
  · intro heap heap' world world' heaps related
    obtain rfl := worlds.mp related
    exact (same heaps _).1
  · intro heap heap' world world' heaps related
    obtain rfl := worlds.mp related
    exact worlds.mpr (same heaps _).2.1
  · intro heap heap' world world' heaps related
    rw [keeps, keeps]
    exact heaps.arrays
  · intro heap heap' world world' heaps related
    obtain rfl := worlds.mp related
    exact (same heaps _).2.2

/-- A property is written alike over alike heaps, which it leaves alone. -/
theorem actions_setProperty (worlds : ∀ {first second}, c.Worlds first second ↔ second = first)
    (ref : ObjectRef) (name : String) (value : Value)
    : c.Actions (host.setProperty ref name value) (host.setProperty ref name value) := by
  refine actions_of_same worlds (fun heap world => ?_) fun heaps world => ?_
  all_goals
    simp only [host]
    cases world.setProperty? ref name value <;> simp

/-- An instance is made alike over alike heaps, which it leaves alone. -/
theorem actions_newInstance (worlds : ∀ {first second}, c.Worlds first second ↔ second = first)
    (className : String)
    : c.Actions (newInstance className) (newInstance className) := by
  refine actions_of_same worlds (fun heap world => ?_) fun heaps world => ?_
  all_goals
    simp only [newInstance]
    cases initialObject? className with
    | some object => simp
    | none => by_cases text : className = "java.lang.String" <;> simp [text]

/-- A method is invoked alike over alike heaps, which it leaves alone.
Witness: the same method is found, and no method looks into a lambda.
-/
theorem actions_invokeMethod (worlds : ∀ {first second}, c.Worlds first second ↔ second = first)
    (decl : MethodDecl String) (receiver : Value) (args : List Value)
    : c.Actions (invokeMethod decl receiver args) (invokeMethod decl receiver args) := by
  refine actions_of_same worlds (fun heap world => ?_) fun {heap heap'} heaps world => ?_
  · simp only [invokeMethod]
    split
    · split <;> rfl
    · rfl
  · simp only [invokeMethod]
    cases known : method? decl.declaring decl.name with
    | none => simp
    | some method =>
        simp only [method_eq heaps known]
        cases method heap world.countCall receiver args <;> simp

/-- In corresponding worlds, which are equal ones, the sample host cannot tell like programs
apart.
-/
theorem hosts (worlds : ∀ {first second}, c.Worlds first second ↔ second = first)
    : c.Hosts host host where
  className := fun related => by rw [worlds.mp related]
  text := fun heaps related => by
    rw [worlds.mp related]
    exact text_eq heaps
  hasProperties := fun related => by rw [worlds.mp related]
  resolveClass := fun related => by rw [worlds.mp related]
  field := fun ref name => actions_of_same worlds (fun _ _ => rfl) fun _ _ => ⟨rfl, rfl, rfl⟩
  getProperty := fun ref name =>
    actions_of_same worlds (fun _ _ => rfl) fun _ _ => ⟨rfl, rfl, rfl⟩
  setProperty := actions_setProperty worlds
  iterate := fun ref => actions_of_same worlds (fun _ _ => rfl) fun _ _ => ⟨rfl, rfl, rfl⟩
  newInstance := actions_newInstance worlds
  staticField := fun className name =>
    actions_of_same worlds (fun _ _ => rfl) fun _ _ => ⟨rfl, rfl, rfl⟩
  invokeMethod := actions_invokeMethod worlds
  invokeConstructor := fun decl args =>
    actions_of_same worlds (fun _ _ => rfl) fun _ _ => ⟨rfl, rfl, rfl⟩

end SampleHost

end Scratchpad
