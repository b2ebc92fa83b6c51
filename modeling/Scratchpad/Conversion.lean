import Scratchpad.Error
import Scratchpad.Scene
import Scratchpad.Text.Utf16

/-! Conversions between the primitive kinds. Narrowing keeps the low bits, a floating-point
number becomes the nearest integer toward zero that fits, and not-a-number becomes zero.
-/

namespace Scratchpad

/-- A number after unary promotion: `byte`, `short` and `char` have become `int`. -/
inductive Numeric where
  | int (value : Int32)
  | long (value : Int64)
  | float (value : Float32)
  | double (value : Float)

namespace Numeric

/-- The number that a value is; a character counts by its low sixteen bits. -/
def ofValue? : Value → Option Numeric
  | .char value => some (.int (Utf16.ofChar value).toUInt32.toInt32)
  | .byte value => some (.int value.toInt32)
  | .short value => some (.int value.toInt32)
  | .int value => some (.int value)
  | .long value => some (.long value)
  | .float value => some (.float value)
  | .double value => some (.double value)
  | _ => none

def toValue : Numeric → Value
  | .int value => .int value
  | .long value => .long value
  | .float value => .float value
  | .double value => .double value

def toInt : Numeric → Int32
  | .int value => value
  | .long value => value.toInt32
  | .float value => value.toInt32
  | .double value => value.toInt32

def toLong : Numeric → Int64
  | .int value => value.toInt64
  | .long value => value
  | .float value => value.toInt64
  | .double value => value.toInt64

def toFloat : Numeric → Float32
  | .int value => value.toFloat32
  | .long value => value.toFloat32
  | .float value => value
  | .double value => value.toFloat32

def toDouble : Numeric → Float
  | .int value => value.toFloat
  | .long value => value.toFloat
  | .float value => value.toFloat
  | .double value => value

def isIntegral : Numeric → Bool
  | .int _ | .long _ => true
  | .float _ | .double _ => false

/-- A count as an `int`; one that is too large becomes the largest. -/
def ofCount (count : Nat) : Int32 :=
  if count ≤ 2147483647 then Int32.ofNat count else Int32.maxValue

/-- The promoted kind. -/
def kind : Numeric → PrimitiveType
  | .int _ => .int
  | .long _ => .long
  | .float _ => .float
  | .double _ => .double

end Numeric

/-- Two numbers of one promoted kind. -/
inductive Operands where
  | int (left right : Int32)
  | long (left right : Int64)
  | float (left right : Float32)
  | double (left right : Float)

/-- Binary promotion, to the larger kind in the order `int`, `long`, `float`, `double`. -/
def promote : Numeric → Numeric → Operands
  | .double left, right => .double left right.toDouble
  | left, .double right => .double left.toDouble right
  | .float left, right => .float left right.toFloat
  | left, .float right => .float left.toFloat right
  | .long left, right => .long left right.toLong
  | left, .long right => .long left.toLong right
  | .int left, .int right => .int left right

namespace Numeric

/-- The value of a primitive kind that a number converts to. Nothing converts to a boolean. -/
def convert? (number : Numeric) : PrimitiveType → Option Value
  | .boolean => none
  | .byte => some (.byte number.toInt.toInt8)
  | .short => some (.short number.toInt.toInt16)
  | .char => some (.char (Utf16.toChar number.toInt.toUInt32.toUInt16))
  | .int => some (.int number.toInt)
  | .long => some (.long number.toLong)
  | .float => some (.float number.toFloat)
  | .double => some (.double number.toDouble)

end Numeric

namespace Scene

/-- Converts a value to a primitive type: numbers and characters to any numeric type, booleans
to themselves.
-/
def coerce (scene : Scene) (value : Value) (type : PrimitiveType) : Except Cause Value :=
  let mismatch : Except Cause Value := .error (.typeMismatch type.keyword (scene.typeName value))
  match type, value with
  | .boolean, .bool flag => .ok (.bool flag)
  | .boolean, _ => mismatch
  | _, _ =>
    match Numeric.ofValue? value with
    | some number =>
      match number.convert? type with
      | some converted => .ok converted
      | none => mismatch
    | none => mismatch

/-- Converts a value to a declared type, which only a primitive type asks for. -/
def coerceToType {ν : Type} (scene : Scene) (value : Value) (type : ResolvedType ν)
    : Except Cause Value :=
  match type.primitive? with
  | some primitive => scene.coerce value primitive
  | none => .ok value

/-- An array index or a dimension, which must be an integer. -/
def toIndex (scene : Scene) (value : Value) : Except Cause Int32 :=
  let mismatch : Except Cause Int32 :=
    .error (.typeMismatch PrimitiveType.int.keyword (scene.typeName value))
  match Numeric.ofValue? value with
  | some number => if number.isIntegral then .ok number.toInt else mismatch
  | none => mismatch

/-- A condition or an operand that must be a boolean. -/
def toBool (scene : Scene) (value : Value) (role : String) : Except Cause Bool :=
  match value.bool? with
  | some flag => .ok flag
  | none => .error (.typeMismatch ("boolean " ++ role) (scene.typeName value))

/-- A value that must be an array. -/
def toArray (scene : Scene) : Value → Except Cause ArrayRef
  | .array ref => .ok ref
  | value => .error (.notAnArray (scene.typeName value))

end Scene

end Scratchpad
