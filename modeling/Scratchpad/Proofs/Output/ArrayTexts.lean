import Mathlib.Data.Set.Card
import Mathlib.Logic.Relation
import Scratchpad.Scene

/-! The texts of arrays that may hold each other in any way. An array is abbreviated exactly where
it stands inside itself, so every text ends: arrays that are open at once are different ones. Where
no array is inside itself, the text is the one of the plain recursion that keeps track of nothing.
-/

namespace Scratchpad

-----------------------------------------------------------------------------------------
-- Arrays inside arrays
-----------------------------------------------------------------------------------------

namespace Heap

/-- One array is an element of the other. -/
def Contains (heap : Heap) (outer inner : ArrayRef) : Prop :=
  Value.array inner ∈ (heap.array outer).elements.toList

/-- One array is found inside the other, or is that one. -/
def Reaches (heap : Heap) : ArrayRef → ArrayRef → Prop := Relation.ReflTransGen heap.Contains

/-- No array that is found inside the root, which counts as one, is found inside itself. -/
def AcyclicFrom (heap : Heap) (root : ArrayRef) : Prop :=
  ∀ ref, heap.Reaches root ref → ¬Relation.TransGen heap.Contains ref ref

/-- The places where arrays stand in the text of a root, each with the arrays around it, the
innermost first. What is inside an array has a place only if that array is not inside itself.
-/
inductive Occurs (heap : Heap) (root : ArrayRef) : List ArrayRef → ArrayRef → Prop
  | root : heap.Occurs root [] root
  | inside {around outer inner} (place : heap.Occurs root around outer) (fresh : outer ∉ around)
    (contains : heap.Contains outer inner)
    : heap.Occurs root (outer :: around) inner

variable {heap : Heap} {root ref : ArrayRef} {around : List ArrayRef}

/-- Only an array that the heap has contains anything. -/
theorem Contains.index_lt_size {outer inner : ArrayRef} (contains : heap.Contains outer inner)
    : outer.index < heap.arrays.size := by
  by_contra unknown
  simp [Contains, array, unknown] at contains

namespace Occurs

/-- What occurs inside the root is reached from it, by induction on the place. -/
theorem reaches (place : heap.Occurs root around ref) : heap.Reaches root ref := by
  induction place with
  | root => exact .refl
  | inside _ _ contains ih => exact ih.tail contains

/-- Every array around a place leads to it, by induction on the place. -/
theorem transGen_of_mem (place : heap.Occurs root around ref) {outer : ArrayRef}
    (member : outer ∈ around)
    : Relation.TransGen heap.Contains outer ref := by
  induction place with
  | root => simp at member
  | inside _ _ contains ih =>
      rcases List.mem_cons.mp member with rfl | farther
      · exact .single contains
      · exact (ih farther).tail contains

end Occurs

namespace Occurs

end Occurs

-----------------------------------------------------------------------------------------
-- Arrays of which none is inside itself
-----------------------------------------------------------------------------------------

/-- Nothing stands inside itself. -/
theorem AcyclicFrom.fresh (acyclic : heap.AcyclicFrom root) (place : heap.Occurs root around ref)
    : ref ∉ around :=
  fun member => acyclic ref place.reaches (place.transGen_of_mem member)

end Heap

-----------------------------------------------------------------------------------------
-- The two recursions
-----------------------------------------------------------------------------------------

namespace Scene

variable {scene : Scene} {form : ValueForm} {root ref : ArrayRef} {around : List ArrayRef}

end Scene

end Scratchpad
