import Scratchpad.Host.Sample
import Scratchpad.Proofs.Eval.WorldKeeping

/-! A bean of the sample host has the properties that it was made with. Their values change when
they are written, but no action of the host adds a property or removes one.
-/

namespace Scratchpad

namespace Bindings

variable {κ α : Type} [DecidableEq κ] {key : κ} {entries : List (κ × α)}

/-- A key has a value exactly if it is among the keys. -/
theorem isSome_lookup : (entries.lookup key).isSome ↔ key ∈ entries.map Prod.fst := by
  simp [List.lookup_isSome_iff]

/-- Writing to a key that is there keeps the keys as they are, by induction on the entries.
Witness: the first entry is the one that is replaced, or it stays and the rest is changed.
-/
theorem map_fst_insert (value : α) (present : key ∈ entries.map Prod.fst)
    : (insert key value entries).map Prod.fst = entries.map Prod.fst := by
  induction entries with
  | nil => simp at present
  | cons entry rest ih =>
      obtain ⟨held, old⟩ := entry
      by_cases same : held = key
      · simp [insert, same]
      · have later : key ∈ rest.map Prod.fst := by
          rcases List.mem_cons.mp present with first | later
          · exact absurd first.symm same
          · exact later
        simp [insert, same, ih later]

end Bindings

namespace SampleHost

/-- The class of a bean and the names of its properties. -/
def SampleObject.shape? : SampleObject → Option (String × List String)
  | .bean className properties => some (className, properties.map Prod.fst)
  | _ => none

namespace World

def shape? (world : World) (ref : ObjectRef) : Option (String × List String) :=
  (world.object? ref).bind SampleObject.shape?

variable {world : World} {ref other : ObjectRef} {shape : String × List String}

/-- A bean is found where a world shows a shape, and its properties are those of the shape. -/
theorem exists_of_shape? (bean : world.shape? ref = some shape)
    : ∃ properties, world.object? ref = some (.bean shape.1 properties)
        ∧ properties.map Prod.fst = shape.2 := by
  obtain ⟨object, found, own⟩ := Option.bind_eq_some_iff.mp bean
  cases object with
  | bean className properties =>
      obtain rfl := Option.some.inj own
      exact ⟨properties, found, rfl⟩
  | _ => cases own

/-- A new object goes behind the others and leaves every bean as it is. -/
theorem shape?_add (object : SampleObject) (bean : world.shape? ref = some shape)
    : (world.add object).2.shape? ref = some shape := by
  obtain ⟨known, found, own⟩ := Option.bind_eq_some_iff.mp bean
  obtain ⟨inside, _⟩ := Array.getElem?_eq_some_iff.mp found
  have kept : (world.add object).2.object? ref = some known := by
    simpa [add, object?, Array.getElem?_push, Nat.ne_of_lt inside] using found
  rw [shape?, kept, Option.bind_some, own]

/-- Replacing an object is seen at its own place alone, and only if there was one. -/
theorem object?_set (object : SampleObject)
    : (world.set other object).object? ref
      = if other = ref then (world.object? ref).map fun _ => object else world.object? ref := by
  obtain ⟨index⟩ := ref
  obtain ⟨position⟩ := other
  simp only [set, object?, Array.getElem?_setIfInBounds, ObjectRef.mk.injEq]
  by_cases same : position = index
  · subst same
    by_cases inside : position < world.objects.size <;> simp [inside]
  · simp [same]

/-- An object that is no bean can be replaced.
Witness: where the bean stands there is another object than the one that is replaced.
-/
theorem shape?_set (plain : world.shape? other = none) (object : SampleObject)
    (bean : world.shape? ref = some shape)
    : (world.set other object).shape? ref = some shape := by
  have apart : other ≠ ref := by
    intro same
    rw [same, bean] at plain
    cases plain
  rw [shape?, object?_set, if_neg apart]
  exact bean

/-- Writing a property that a bean has changes that property alone.
Witness: the properties are a list of entries, where inserting changes the value of one key.
-/
theorem setProperty?_of_mem {name : String} (bean : world.shape? ref = some shape)
    (present : name ∈ shape.2) (value : Value)
    : ∃ later, world.setProperty? ref name value = some later
        ∧ (∀ other, other ≠ name → later.property? ref other = world.property? ref other)
        ∧ later.property? ref name = some value := by
  obtain ⟨properties, found, names⟩ := exists_of_shape? bean
  have has : (properties.lookup name).isSome := by
    rwa [Bindings.isSome_lookup, names]
  refine ⟨_, by simp only [setProperty?, found, has, if_true]; rfl, ?_, ?_⟩
  · intro other apart
    simp only [property?, object?_set, found, if_true, Option.map_some]
    rw [Bindings.lookup_insert, if_neg apart]
  · simp only [property?, object?_set, found, if_true, Option.map_some]
    rw [Bindings.lookup_insert, if_pos rfl]

/-- A bean refuses a property that it was not made with. -/
theorem setProperty?_of_notMem {name : String} (bean : world.shape? ref = some shape)
    (absent : name ∉ shape.2) (value : Value)
    : world.setProperty? ref name value = none := by
  obtain ⟨properties, found, names⟩ := exists_of_shape? bean
  have missing : ¬(properties.lookup name).isSome := by
    rwa [Bindings.isSome_lookup, names]
  simp [setProperty?, found, missing]

/-- Writing a property keeps the shapes of all beans.
Witness: the bean that is written to keeps its keys, since the property is one of them; others stay.
-/
theorem shape?_setProperty? {name : String} {value : Value} {later : World}
    (written : world.setProperty? other name value = some later)
    (bean : world.shape? ref = some shape)
    : later.shape? ref = some shape := by
  unfold setProperty? at written
  split at written
  · next className properties found =>
    split at written
    · next has =>
      obtain rfl := Option.some.inj written
      by_cases same : other = ref
      · subst same
        rw [← bean, shape?, shape?, object?_set, if_pos rfl, found, Option.map_some,
          Option.bind_some, Option.bind_some, SampleObject.shape?, SampleObject.shape?,
          Bindings.map_fst_insert value (Bindings.isSome_lookup.mp has)]
      · rw [shape?, object?_set, if_neg same]
        exact bean
    · cases written
  · cases written

end World

-----------------------------------------------------------------------------------------
-- What the host does to beans
-----------------------------------------------------------------------------------------

variable {heap : Heap} {world : World} {receiver : Value} {args : List Value}

/-- What a method can do to the world: nothing, or replace an object that is no bean. -/
inductive Touches (world : World) : World → Prop
  | nothing : Touches world world
  | replace {ref} (plain : world.shape? ref = none) (object : SampleObject)
    : Touches world (world.set ref object)

/-- Whatever touches a world in these ways keeps its beans in shape. -/
theorem Touches.shape? {ref : ObjectRef} {shape : String × List String} {later : World}
    (touches : Touches world later) (bean : world.shape? ref = some shape)
    : later.shape? ref = some shape := by
  cases touches with
  | nothing => exact bean
  | replace plain object => exact World.shape?_set plain object bean

/-- A receiver with a view that no bean has is no bean.
Witness: the view is taken of the object that the receiver refers to.
-/
theorem plain_of_receiverObject {α : Type} {view? : SampleObject → Option α} {ref : ObjectRef}
    {view : α} (found : receiverObject heap world receiver view? = .ok (ref, view))
    (beans : ∀ className properties, view? (.bean className properties) = none)
    : world.shape? ref = none := by
  unfold receiverObject at found
  split at found
  · split at found
    · next known =>
      cases found
      obtain ⟨object, there, seen⟩ := Option.bind_eq_some_iff.mp known
      rw [World.shape?, there, Option.bind_some]
      cases object with
      | bean className properties => simp [beans] at seen
      | _ => rfl
    · cases found
  · cases found
  · cases found

/-- Whatever a method has done by the time it returns, it has spared the beans. -/
def Spares (world : World) (result : Except HostException Effect) : Prop :=
  ∀ effect, result = .ok effect → Touches world effect.world

/-- A call that throws touches nothing. -/
theorem spares_error (exception : HostException) : Spares world (.error exception) := nofun

/-- A call that leaves the world alone touches nothing. -/
theorem spares_of_same (value : Value) (written : List (Stream × String))
    : Spares world (.ok { value, world, written }) := by
  intro effect same
  cases same
  exact .nothing

/-- A call may replace its receiver, if that is no bean. -/
theorem spares_of_replace {ref : ObjectRef} (plain : world.shape? ref = none) (value : Value)
    (object : SampleObject)
    : Spares world (.ok { value, world := world.set ref object }) := by
  intro effect same
  cases same
  exact .replace plain object

/-- A call that first reads its operands touches the world as its rest does. -/
theorem spares_bind {α : Type} {first : Except HostException α}
    {next : α → Except HostException Effect}
    (rest : ∀ value, first = .ok value → Spares world (next value))
    : Spares world (first >>= next) := by
  cases first with
  | error exception => exact spares_error exception
  | ok value => exact rest value rfl

/-- Moving a point replaces that point. -/
theorem spares_pointTranslate : Spares world (pointTranslate heap world receiver args) := by
  refine spares_bind fun (ref, x, y) found => ?_
  dsimp only
  split
  · exact spares_of_replace (plain_of_receiverObject found fun _ _ => rfl) _ _
  · exact spares_error _

/-- Adding to a list replaces that list. -/
theorem spares_listAdd : Spares world (listAdd heap world receiver args) := by
  refine spares_bind fun (ref, elements) found => ?_
  exact spares_of_replace (plain_of_receiverObject found fun _ _ => rfl) _ _

/-- Counting up replaces that counter. -/
theorem spares_counterIncrement : Spares world (counterIncrement heap world receiver args) := by
  refine spares_bind fun (ref, count) found => ?_
  exact spares_of_replace (plain_of_receiverObject found fun _ _ => rfl) _ _

/-- No method of the host touches a bean.
Witness: by the table of methods; the three that change an object change one of another kind.
-/
theorem spares_method {className name : String} {method : Method}
    (known : method? className name = some method)
    : Spares world (method heap world receiver args) := by
  unfold method? at known
  split at known
  all_goals cases known
  all_goals
    first
    | exact spares_pointTranslate
    | exact spares_listAdd
    | exact spares_counterIncrement
    | -- On each of their branches, the others throw or return the world as it was.
      simp only [print, mathMax, mathAbs, mathSqrt, parseInt, stringLength, stringUpper,
        stringCharAt, pointGetX, listSize, listGet, counterGet, toText]
      repeat'
        first
        | exact spares_of_same _ _
        | exact spares_error _
        | refine spares_bind fun _ _ => ?_
        | split

/-- A bean keeps its shape in whatever the host does.
Witness: by the action: reading changes nothing, a property is written without changing the keys, a
new object goes behind the others, and no method touches a bean.
-/
theorem preserves_shape (ref : ObjectRef) (shape : String × List String)
    : host.Preserves fun world => world.shape? ref = some shape := by
  intro α action offered heap world bean
  cases offered with
  | field | getProperty | iterate => exact bean
  | setProperty other name value =>
      simp only [host]
      split
      · next written => exact World.shape?_setProperty? written bean
      · exact bean
  | newInstance name =>
      simp only [host, newInstance]
      split
      · exact World.shape?_add _ bean
      · split <;> exact bean
  | staticField className name =>
      simp only [host, staticField]
      split
      · exact World.shape?_add _ bean
      · exact World.shape?_add _ bean
      · exact bean
      · exact bean
      · exact bean
  | invokeMethod decl target args =>
      simp only [host, invokeMethod]
      split
      · next known =>
        split
        · next effect ran => exact (spares_method known effect ran).shape? bean
        · exact bean
      · exact bean
  | invokeConstructor decl args =>
      simp only [host, invokeConstructor]
      split
      · split
        · exact World.shape?_add _ bean
        · exact bean
      · split
        · exact World.shape?_add _ bean
        · exact bean
      · split <;> exact bean
      · exact bean

end SampleHost

end Scratchpad
