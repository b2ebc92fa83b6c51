import Scratchpad.Program.Arena
import Scratchpad.Program.FunctionalShape
import Scratchpad.Variables

/-! The heap of arrays and lambdas. Every alias of an array sees a write to it; its length and
component are fixed, and lambdas never change.
-/

namespace Scratchpad

structure ArrayObject where
  component : Component := .reference ""
  elements : Array Value := #[]
deriving Inhabited

namespace ArrayObject

/-- The type of the array as it is written. -/
def typeName (object : ArrayObject) : String := object.component.display ++ "[]"

/-- The element at an index, which is none of them if it is negative or too large. -/
def get? (object : ArrayObject) (index : Int32) : Option Value :=
  if index < 0 then none else object.elements[index.toNatClampNeg]?

/-- An array of the given length with fresh elements. -/
def ofLength (component : Component) (length : Nat) : ArrayObject :=
  { component, elements := Array.replicate length component.initial }

end ArrayObject

/-- A lambda: its body and everything needed to run it later, namely the arena of the body, the
variables and the receiver at its creation, and the interface that it implements.
-/
structure Closure where
  params : List Name
  body : LambdaBody
  arena : Arena
  captured : Frame
  this : Value
  shape : FunctionalShape
  /-- The qualified name of the interface. -/
  target : String
deriving Inhabited

structure Heap where
  arrays : Array ArrayObject := #[]
  closures : Array Closure := #[]
deriving Inhabited

namespace Heap

/-- The array behind a reference; a reference from elsewhere reads as an empty array. -/
def array (heap : Heap) (ref : ArrayRef) : ArrayObject := heap.arrays.getD ref.index {}

def closure? (heap : Heap) (ref : LambdaRef) : Option Closure := heap.closures[ref.index]?

def addArray (heap : Heap) (object : ArrayObject) : ArrayRef × Heap :=
  (⟨heap.arrays.size⟩, { heap with arrays := heap.arrays.push object })

def addClosure (heap : Heap) (closure : Closure) : LambdaRef × Heap :=
  (⟨heap.closures.size⟩, { heap with closures := heap.closures.push closure })

/-- Stores one element, if the index is one of the array's. -/
def store? (heap : Heap) (ref : ArrayRef) (index : Int32) (value : Value) : Option Heap :=
  let length := (heap.array ref).elements.size
  if index < 0 ∨ length ≤ index.toNatClampNeg then none
  else
    some
      {
        heap with
        arrays :=
          heap.arrays.modify ref.index fun object =>
            { object with elements := object.elements.setIfInBounds index.toNatClampNeg value }
      }

/-- The lambda that a value refers to, if the method of its interface has the given name. -/
def callable? (heap : Heap) (method : String) : Value → Option Closure
  | .lambda ref => (heap.closure? ref).filter (·.shape.method == method)
  | _ => none

/-- The array part of a heap may grow and its elements may change; everything else stays. -/
structure Extends (before after : Heap) : Prop where
  closures : after.closures = before.closures
  arrays :
    ∀ (index : Nat) (object : ArrayObject), before.arrays[index]? = some object →
      ∃ later : ArrayObject, after.arrays[index]? = some later
        ∧ later.component = object.component
        ∧ later.elements.size = object.elements.size

/-- A heap extends itself. -/
theorem Extends.refl (heap : Heap) : heap.Extends heap :=
  ⟨rfl, fun _ object known => ⟨object, known, rfl, rfl⟩⟩

/-- Extensions compose, array by array. -/
theorem Extends.trans {first second third : Heap} (early : first.Extends second)
    (late : second.Extends third)
    : first.Extends third := by
  refine ⟨late.closures.trans early.closures, fun index object known => ?_⟩
  obtain ⟨middle, kept, component, size⟩ := early.arrays index object known
  obtain ⟨last, found, component', size'⟩ := late.arrays index middle kept
  exact ⟨last, found, component'.trans component, size'.trans size⟩

end Heap

end Scratchpad
