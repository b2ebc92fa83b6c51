import Scratchpad.Operation

/-! What operators and conversions need of a scene. Lambdas matter to them only by the interfaces
that they implement, so two scenes that agree on arrays, on these interfaces and on objects are
indistinguishable.
-/

namespace Scratchpad

namespace Scene

/-- Two scenes agree on everything that a value's type or text depends on. -/
structure Alike (first second : Scene) : Prop where
  arrays : second.heap.arrays = first.heap.arrays
  target : ∀ ref, second.target ref = first.target ref
  className : second.className = first.className
  objectText : second.objectText = first.objectText

namespace Alike

variable {first second : Scene} (alike : first.Alike second)

include alike

/-- Alike scenes hold the same arrays. -/
theorem array (ref : ArrayRef) : second.heap.array ref = first.heap.array ref := by
  rw [Heap.array, Heap.array, alike.arrays]

/-- Values have the same type name in both, since arrays, classes of objects and targets agree. -/
theorem typeName (value : Value) : second.typeName value = first.typeName value := by
  cases value with
  | array ref => simp only [Scene.typeName, alike.array]
  | object ref => simp only [Scene.typeName, alike.className]
  | lambda ref => simp only [Scene.typeName, alike.target]
  | _ => rfl

/-- Values that are no arrays have the same text in both. -/
theorem plainText (value : Value) : second.plainText value = first.plainText value := by
  cases value with
  | object ref => simp only [Scene.plainText, alike.objectText]
  | lambda ref => simp only [Scene.plainText, alike.target]
  | _ => rfl

/-- Values have the same text in both, if the elements of arrays do. -/
theorem write {elements elements' : ArrayRef → String} (same : elements' = elements) (value : Value)
    : second.write .text elements' value = first.write .text elements value := by
  cases value with
  | array ref => simp only [Scene.write, same]
  | _ => simp only [Scene.write, alike.plainText]

/-- The texts of arrays agree, by induction on how many may be open.
Witness: with one level less, the elements agree; the guard looks at the arrays around only.
-/
theorem writeArray (fuel : Nat) (opened : List ArrayRef)
    : second.writeArray .text fuel opened = first.writeArray .text fuel opened := by
  induction fuel generalizing opened with
  | zero => rfl
  | succ fuel ih =>
      funext ref
      simp only [Scene.writeArray, alike.array]
      split
      · rfl
      · have items : second.write .text (second.writeArray .text fuel (ref :: opened))
            = first.write .text (first.writeArray .text fuel (ref :: opened)) :=
          funext (alike.write (ih (ref :: opened)))
        rw [items]

/-- Values are displayed alike: there are as many arrays in both, so the same number may be open. -/
theorem display (value : Value) : second.display value = first.display value := by
  refine alike.write ?_ value
  funext ref
  rw [Scene.elements, Scene.elements, Scene.arrayFuel, Scene.arrayFuel, alike.arrays,
    alike.writeArray]

-----------------------------------------------------------------------------------------
-- Conversions
-----------------------------------------------------------------------------------------

/-- Conversions agree, messages included, as they look at type names only. -/
theorem coerce (value : Value) (type : PrimitiveType)
    : second.coerce value type = first.coerce value type := by
  simp only [Scene.coerce, alike.typeName]

/-- Conversions to declared types agree, also where the types name their classes differently. -/
theorem coerceToType {ν μ : Type} (value : Value) {type : ResolvedType ν}
    {type' : ResolvedType μ} (same : type'.primitive? = type.primitive?)
    : second.coerceToType value type' = first.coerceToType value type := by
  simp only [Scene.coerceToType, same, alike.coerce]

/-- Values are taken as indices alike. -/
theorem toIndex (value : Value) : second.toIndex value = first.toIndex value := by
  simp only [Scene.toIndex, alike.typeName]

/-- Values are taken as conditions alike. -/
theorem toBool (value : Value) (role : String)
    : second.toBool value role = first.toBool value role := by
  simp only [Scene.toBool, alike.typeName]

/-- Values are taken as arrays alike. -/
theorem toArray (value : Value) : second.toArray value = first.toArray value := by
  cases value with
  | array ref => rfl
  | _ => simp only [Scene.toArray, alike.typeName]

-----------------------------------------------------------------------------------------
-- Operators
-----------------------------------------------------------------------------------------

/-- Binary operators agree: texts by display, refusals by type names, and all else by the values
alone.
-/
theorem binary (op : BinaryOp) (left right : Value)
    : second.binary op left right = first.binary op left right := by
  have numbers : second.onNumbers op left right = first.onNumbers op left right := by
    simp only [Scene.onNumbers, alike.typeName]
  have logical : second.onLogical op left right = first.onLogical op left right := by
    simp only [Scene.onLogical, alike.typeName]
  cases op <;> simp only [Scene.binary, alike.display, numbers, logical]

/-- Unary operators agree, as they look at type names only. -/
theorem unary (op : UnaryOp) (value : Value)
    : second.unary op value = first.unary op value := by
  cases op <;> simp only [Scene.unary, alike.typeName]

/-- Counting up or down by one agrees. -/
theorem step (up : Bool) (value : Value) : second.step up value = first.step up value := by
  cases value <;> simp only [Scene.step, alike.typeName]

/-- Compound assignments agree, as their operator and their narrowing do. -/
theorem combine (op : BinaryOp) (current operand : Value)
    : second.combine op current operand = first.combine op current operand := by
  simp only [Scene.combine, alike.binary, alike.coerce]

end Alike

end Scene

end Scratchpad
