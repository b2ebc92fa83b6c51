import Scratchpad.Eval.Lambda
import Scratchpad.Operation

/-! How computations on values end. Two causes end a loop between its passes: its limit, and a
request to cancel. No computation on values fails with either of them, and of the operators only
`+` gives texts.
-/

namespace Scratchpad

variable {α : Type}

/-- Whether a cause ends a loop between two passes. -/
def Cause.interrupts : Cause → Bool
  | .loopLimitExceeded _ | .cancelled => true
  | _ => false

/-- Noting where an error arose does not change what it was. -/
@[simp]
theorem EvalError.cause_withSpan (error : EvalError) (span : Span)
    : (error.withSpan span).cause = error.cause := by
  unfold withSpan
  split <;> rfl

/-- A computation that, if it fails, does so without an interruption. -/
def Ordinary : Except Cause α → Prop
  | .ok _ => True
  | .error cause => cause.interrupts = false

/-- What succeeds does not interrupt. -/
@[simp]
theorem ordinary_ok (value : α) : Ordinary (.ok value) := trivial

/-- A failure is ordinary exactly if its cause does not interrupt. -/
@[simp]
theorem ordinary_error (cause : Cause)
    : Ordinary (.error cause : Except Cause α) ↔ cause.interrupts = false :=
  Iff.rfl

-----------------------------------------------------------------------------------------
-- Operators
-----------------------------------------------------------------------------------------

/-- A computation that gives no text and, if it fails, does so without an interruption. -/
def Textless : Except Cause Value → Prop
  | .ok value => value.isText = false
  | .error cause => cause.interrupts = false

/-- What gives no text fails only in ordinary ways. -/
theorem Textless.ordinary {result : Except Cause Value} (textless : Textless result)
    : Ordinary result := by
  cases result with
  | ok value => trivial
  | error cause => exact textless

/-- A refused operator gives no text and does not interrupt. -/
@[simp]
theorem textless_invalidOperator (op : BinaryOp) (typeName : String)
    : Textless (invalidOperator op typeName) :=
  rfl

/-- Comparisons by order give a truth value or refuse the operator. -/
@[simp]
theorem textless_compareBy (op : BinaryOp) (kind : PrimitiveType) (order : Ordering)
    : Textless (compareBy op kind order) := by
  unfold compareBy
  split <;> rfl

/-- Comparisons of floats give a truth value or refuse the operator, with or without an order. -/
@[simp]
theorem textless_compareFloats (op : BinaryOp) (kind : PrimitiveType)
    (order? : Option Ordering)
    : Textless (compareFloats op kind order?) := by
  unfold compareFloats
  split
  · simp
  · split <;> rfl

/-- A division fails only by zero. -/
theorem textless_division {zero : Bool} {result : Value} (number : result.isText = false)
    : Textless (if zero then .error .divisionByZero else .ok result) := by
  cases zero with
  | true => rfl
  | false => exact number

/-- Operators on 32-bit integers give no text, by cases on the operator. -/
@[simp]
theorem textless_onInts (op : BinaryOp) (left right : Int32)
    : Textless (onInts op left right) := by
  cases op with
  | add | sub | mul | bitAnd | bitOr | bitXor => rfl
  | div | rem => exact textless_division rfl
  | _ => simp [onInts]

/-- Operators on 64-bit integers give no text, by cases on the operator. -/
@[simp]
theorem textless_onLongs (op : BinaryOp) (left right : Int64)
    : Textless (onLongs op left right) := by
  cases op with
  | add | sub | mul | bitAnd | bitOr | bitXor => rfl
  | div | rem => exact textless_division rfl
  | _ => simp [onLongs]

/-- Operators on floats give no text, by cases on the operator. -/
@[simp]
theorem textless_onFloats (op : BinaryOp) (left right : Float32)
    : Textless (onFloats op left right) := by
  cases op with
  | add | sub | mul | div | rem => rfl
  | _ => simp [onFloats]

/-- Operators on doubles give no text, by cases on the operator. -/
@[simp]
theorem textless_onDoubles (op : BinaryOp) (left right : Float)
    : Textless (onDoubles op left right) := by
  cases op with
  | add | sub | mul | div | rem => rfl
  | _ => simp [onDoubles]

/-- Shifts give an integer or refuse their operands. -/
@[simp]
theorem textless_onShift (op : BinaryOp) (value distance : Numeric)
    : Textless (onShift op value distance) := by
  unfold onShift
  split
  · split <;> rfl
  · split <;> rfl
  · rfl
  · rfl

/-- Operators on promoted numbers give no text, as none does at the rank they are promoted to. -/
@[simp]
theorem textless_onNumerics (op : BinaryOp) (left right : Numeric)
    : Textless (onNumerics op left right) := by
  unfold onNumerics
  split
  · simp
  · split <;> simp

namespace Scene

variable (scene : Scene)

/-- Logical operators on truth values give a truth value or refuse their operands. -/
theorem textless_onLogical (op : BinaryOp) (left right : Value)
    : Textless (scene.onLogical op left right) := by
  unfold onLogical
  split
  · split <;> rfl
  · rfl
  · rfl

/-- Operators on numbers give no text: they refuse what is no number and end as promoted numbers do.
-/
theorem textless_onNumbers (op : BinaryOp) (left right : Value)
    : Textless (scene.onNumbers op left right) := by
  unfold onNumbers
  split
  · rfl
  · split
    · rfl
    · simp

/-- No operator but `+` gives a text.
Witness: by cases on the operator, which leaves the results on truth values and on numbers.
-/
theorem textless_binary {op : BinaryOp} (other : op ≠ .add) (left right : Value)
    : Textless (scene.binary op left right) := by
  unfold binary
  split
  · exact absurd rfl other
  · rfl
  · rfl
  · split
    · exact scene.textless_onLogical _ _ _
    · exact scene.textless_onNumbers _ _ _

/-- No binary operator interrupts.
Witness: `+` with a text always succeeds, and everything else gives no text.
-/
theorem ordinary_binary (op : BinaryOp) (left right : Value)
    : Ordinary (scene.binary op left right) := by
  by_cases concatenates : op = .add
  · subst concatenates
    simp only [binary]
    split
    · trivial
    · exact (scene.textless_onNumbers _ _ _).ordinary
  · exact (scene.textless_binary concatenates left right).ordinary

/-- No unary operator interrupts, by cases on the operator and its operand. -/
theorem ordinary_unary (op : UnaryOp) (value : Value) : Ordinary (scene.unary op value) := by
  unfold unary
  dsimp only
  split <;> (try split) <;> simp [Cause.interrupts]

/-- Counting up or down by one does not interrupt, by cases on the value. -/
theorem ordinary_step (up : Bool) (value : Value) : Ordinary (scene.step up value) := by
  cases value <;> simp [step, Cause.interrupts]

-----------------------------------------------------------------------------------------
-- Conversions
-----------------------------------------------------------------------------------------

/-- A conversion succeeds or reports a mismatch of types. -/
theorem ordinary_coerce (value : Value) (type : PrimitiveType)
    : Ordinary (scene.coerce value type) := by
  unfold coerce
  dsimp only
  split
  · trivial
  · rfl
  · split
    · split
      · trivial
      · rfl
    · rfl

/-- A conversion to a declared type is one to a primitive type or leaves the value alone. -/
theorem ordinary_coerceToType {ν : Type} (value : Value) (type : ResolvedType ν)
    : Ordinary (scene.coerceToType value type) := by
  unfold coerceToType
  split
  · exact scene.ordinary_coerce value _
  · trivial

/-- A compound assignment fails as its operator or as its narrowing does.
Witness: what the operator computed is a text and is kept, or is narrowed by a conversion.
-/
theorem ordinary_combine (op : BinaryOp) (current operand : Value)
    : Ordinary (scene.combine op current operand) := by
  unfold combine
  split
  · next cause failed =>
    have ordinary := scene.ordinary_binary op current operand
    rwa [failed] at ordinary
  · split
    · split
      · exact scene.ordinary_coerce _ _
      · trivial
    · trivial

/-- An index is converted or refused, and neither interrupts. -/
theorem ordinary_toIndex (value : Value) : Ordinary (scene.toIndex value) := by
  unfold toIndex
  dsimp only
  split
  · split
    · trivial
    · rfl
  · rfl

/-- A condition is a truth value or a mismatch of types. -/
theorem ordinary_toBool (value : Value) (role : String) : Ordinary (scene.toBool value role) := by
  unfold toBool
  split
  · trivial
  · rfl

/-- What is indexed is an array or a mismatch of types. -/
theorem ordinary_toArray (value : Value) : Ordinary (scene.toArray value) := by
  unfold toArray
  split
  · trivial
  · rfl

end Scene

-----------------------------------------------------------------------------------------
-- Lambdas
-----------------------------------------------------------------------------------------

/-- Arguments fail to be bound only where one fails to be converted, by induction on them.
Witness: each entry is bound after one conversion, and the rest is bound in the frame it leaves.
-/
theorem Closure.ordinary_bindArguments (scene : Scene) (type? : Option PrimitiveType)
    (frame : Frame) (entries : List (Name × Value))
    : Ordinary (bindArguments scene type? frame entries) := by
  induction entries generalizing frame with
  | nil => trivial
  | cons entry rest ih =>
      unfold bindArguments
      split
      · next type =>
        have ordinary := scene.ordinary_coerce entry.2 type
        split
        · exact ih _
        · next failed => rwa [failed] at ordinary
      · exact ih _

/-- The frame of a call fails to be built only where an argument fails to be converted. -/
theorem Closure.ordinary_frame (closure : Closure) (scene : Scene) (args : List Value)
    : Ordinary (closure.frame scene args) :=
  ordinary_bindArguments scene _ _ _

/-- A lambda without a usable target is refused in an ordinary way. -/
theorem Machine.ordinary_lambdaTarget {ω : Type} (m : Machine ω)
    (type? : Option (ResolvedType Name))
    : Ordinary (m.lambdaTarget type?) := by
  unfold lambdaTarget
  split
  · trivial
  · rfl
  · rfl

/-- A lambda of the wrong shape is refused in an ordinary way. -/
theorem Machine.ordinary_lambdaShape (target : String) (params : List Name)
    : Ordinary (lambdaShape target params) := by
  unfold lambdaShape
  split
  · rfl
  · split
    · trivial
    · rfl

end Scratchpad
