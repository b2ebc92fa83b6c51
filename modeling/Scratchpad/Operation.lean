import Scratchpad.Conversion
import Scratchpad.Number.Remainder
import Scratchpad.Program.Operator

/-! The operators on values. Integers wrap within their width, floating-point numbers follow
their format, and only integer division can fail on its operands' values.
-/

namespace Scratchpad

namespace Value

/-- Whether two values are equal to a program: numbers by promoted value, texts by content,
everything else by reference.
-/
def equals (left right : Value) : Bool :=
  match Numeric.ofValue? left, Numeric.ofValue? right with
  | some a, some b =>
    match promote a b with
    | .int a b => a == b
    | .long a b => a == b
    | .float a b => a == b
    | .double a b => a == b
  | _, _ =>
    match left, right with
    | .null, .null => true
    | .bool a, .bool b => a == b
    | .str a, .str b => a == b
    | _, _ => left.sameReference right

def isText : Value → Bool
  | .str _ => true
  | _ => false

end Value

namespace BinaryOp

/-- What a relational operator says about an order, if it is one. -/
def relates? (op : BinaryOp) (order : Ordering) : Option Bool :=
  match op with
  | .lt => some (order == .lt)
  | .ltEq => some (order != .gt)
  | .gt => some (order == .gt)
  | .gtEq => some (order != .lt)
  | _ => none

/-- Two booleans under a logical operator. -/
def onBools? (op : BinaryOp) (left right : Bool) : Option Bool :=
  match op with
  | .and | .bitAnd => some (left && right)
  | .or | .bitOr => some (left || right)
  | .bitXor => some (left ^^ right)
  | _ => none

end BinaryOp

/-- An operator that a kind of operands does not have. -/
def invalidOperator {α : Type} (op : BinaryOp) (typeName : String) : Except Cause α :=
  .error (.invalidOperator op.symbol typeName)

/-- A comparison of operands of a kind whose order is known. -/
def compareBy (op : BinaryOp) (kind : PrimitiveType) (order : Ordering) : Except Cause Value :=
  match op.relates? order with
  | some holds => .ok (.bool holds)
  | none => invalidOperator op kind.keyword

/-- A comparison of floating-point operands: not-a-number is in no order with anything. -/
def compareFloats (op : BinaryOp) (kind : PrimitiveType) (order? : Option Ordering)
    : Except Cause Value :=
  match order? with
  | some order => compareBy op kind order
  | none => if op.isRelational then .ok (.bool false) else invalidOperator op kind.keyword

def floatOrder? (left right : Float32) : Option Ordering :=
  if left < right then some .lt
  else if right < left then some .gt
  else if left == right then some .eq
  else none

def doubleOrder? (left right : Float) : Option Ordering :=
  if left < right then some .lt
  else if right < left then some .gt
  else if left == right then some .eq
  else none

def onInts (op : BinaryOp) (left right : Int32) : Except Cause Value :=
  match op with
  | .add => .ok (.int (left + right))
  | .sub => .ok (.int (left - right))
  | .mul => .ok (.int (left * right))
  | .div => if right == 0 then .error .divisionByZero else .ok (.int (left / right))
  | .rem => if right == 0 then .error .divisionByZero else .ok (.int (left % right))
  | .bitAnd => .ok (.int (left &&& right))
  | .bitOr => .ok (.int (left ||| right))
  | .bitXor => .ok (.int (left ^^^ right))
  | _ => compareBy op .int (compare left.toInt right.toInt)

def onLongs (op : BinaryOp) (left right : Int64) : Except Cause Value :=
  match op with
  | .add => .ok (.long (left + right))
  | .sub => .ok (.long (left - right))
  | .mul => .ok (.long (left * right))
  | .div => if right == 0 then .error .divisionByZero else .ok (.long (left / right))
  | .rem => if right == 0 then .error .divisionByZero else .ok (.long (left % right))
  | .bitAnd => .ok (.long (left &&& right))
  | .bitOr => .ok (.long (left ||| right))
  | .bitXor => .ok (.long (left ^^^ right))
  | _ => compareBy op .long (compare left.toInt right.toInt)

def onFloats (op : BinaryOp) (left right : Float32) : Except Cause Value :=
  match op with
  | .add => .ok (.float (left + right))
  | .sub => .ok (.float (left - right))
  | .mul => .ok (.float (left * right))
  | .div => .ok (.float (left / right))
  | .rem => .ok (.float (floatRemainder left right))
  | _ => compareFloats op .float (floatOrder? left right)

def onDoubles (op : BinaryOp) (left right : Float) : Except Cause Value :=
  match op with
  | .add => .ok (.double (left + right))
  | .sub => .ok (.double (left - right))
  | .mul => .ok (.double (left * right))
  | .div => .ok (.double (left / right))
  | .rem => .ok (.double (doubleRemainder left right))
  | _ => compareFloats op .double (doubleOrder? left right)

/-- Shifts an `int` by the low five bits of the distance. -/
def shiftInt (op : BinaryOp) (value : Int32) (distance : Int64) : Int32 :=
  let bits : Int32 := (distance &&& 0x1f).toInt32
  match op with
  | .shl => value <<< bits
  | .shr => value >>> bits
  | _ => (value.toUInt32 >>> bits.toUInt32).toInt32

/-- Shifts a `long` by the low six bits of the distance. -/
def shiftLong (op : BinaryOp) (value : Int64) (distance : Int64) : Int64 :=
  let bits : Int64 := distance &&& 0x3f
  match op with
  | .shl => value <<< bits
  | .shr => value >>> bits
  | _ => (value.toUInt64 >>> bits.toUInt64).toInt64

/-- A shift, whose operands are promoted each on its own. -/
def onShift (op : BinaryOp) (value distance : Numeric) : Except Cause Value :=
  match value with
  | .int value =>
    if distance.isIntegral then .ok (.int (shiftInt op value distance.toLong))
    else invalidOperator op distance.kind.keyword
  | .long value =>
    if distance.isIntegral then .ok (.long (shiftLong op value distance.toLong))
    else invalidOperator op distance.kind.keyword
  | .float _ | .double _ => invalidOperator op value.kind.keyword

def onNumerics (op : BinaryOp) (left right : Numeric) : Except Cause Value :=
  if op.isShift then onShift op left right
  else
    match promote left right with
    | .int left right => onInts op left right
    | .long left right => onLongs op left right
    | .float left right => onFloats op left right
    | .double left right => onDoubles op left right

namespace Scene

/-- A logical operator of which at least one operand is a boolean. -/
def onLogical (scene : Scene) (op : BinaryOp) (left right : Value) : Except Cause Value :=
  match left.bool?, right.bool? with
  | some a, some b =>
    match op.onBools? a b with
    | some result => .ok (.bool result)
    | none => invalidOperator op PrimitiveType.boolean.keyword
  | some _, none => invalidOperator op (scene.typeName right)
  | none, _ => invalidOperator op (scene.typeName left)

/-- An operator that needs two numbers. -/
def onNumbers (scene : Scene) (op : BinaryOp) (left right : Value) : Except Cause Value :=
  match Numeric.ofValue? left with
  | none => invalidOperator op (scene.typeName left)
  | some a =>
    match Numeric.ofValue? right with
    | none => invalidOperator op (scene.typeName right)
    | some b => onNumerics op a b

/-- A binary operator on two values. A text on either side of `+` makes it concatenation. -/
def binary (scene : Scene) (op : BinaryOp) (left right : Value) : Except Cause Value :=
  match op with
  | .add =>
    if left.isText || right.isText then .ok (.str (scene.display left ++ scene.display right))
    else scene.onNumbers op left right
  | .eq => .ok (.bool (left.equals right))
  | .notEq => .ok (.bool (!left.equals right))
  | _ =>
    if op.isLogical && (left.bool?.isSome || right.bool?.isSome) then
      scene.onLogical op left right
    else scene.onNumbers op left right

/-- A unary operator on a value. The steps are none of this: they need a variable. -/
def unary (scene : Scene) (op : UnaryOp) (value : Value) : Except Cause Value :=
  let invalid : Except Cause Value :=
    .error (.invalidOperator op.symbol (scene.typeName value))
  match op with
  | .not =>
    match value.bool? with
    | some flag => .ok (.bool !flag)
    | none => invalid
  | .plus =>
    match Numeric.ofValue? value with
    | some number => .ok number.toValue
    | none => invalid
  | .neg =>
    match Numeric.ofValue? value with
    | some (.int n) => .ok (.int (-n))
    | some (.long n) => .ok (.long (-n))
    | some (.float x) => .ok (.float (-x))
    | some (.double x) => .ok (.double (-x))
    | none => invalid
  | .bitNot =>
    match Numeric.ofValue? value with
    | some (.int n) => .ok (.int (~~~n))
    | some (.long n) => .ok (.long (~~~n))
    | _ => invalid
  | _ => invalid

/-- One more or one less, within the kind of the value. -/
def step (scene : Scene) (up : Bool) (value : Value) : Except Cause Value :=
  match value with
  | .byte n => .ok (.byte (if up then n + 1 else n - 1))
  | .short n => .ok (.short (if up then n + 1 else n - 1))
  | .char c =>
    let unit := Utf16.ofChar c
    .ok (.char (Utf16.toChar (if up then unit + 1 else unit - 1)))
  | .int n => .ok (.int (if up then n + 1 else n - 1))
  | .long n => .ok (.long (if up then n + 1 else n - 1))
  | .float x => .ok (.float (if up then x + 1.0 else x - 1.0))
  | .double x => .ok (.double (if up then x + 1.0 else x - 1.0))
  | _ => .error (.invalidOperator (if up then "++" else "--") (scene.typeName value))

/-- The value that a compound assignment stores: the operator's result, narrowed to the kind of
the current value. A text is stored as it is.
-/
def combine (scene : Scene) (op : BinaryOp) (current operand : Value) : Except Cause Value :=
  match scene.binary op current operand with
  | .error cause => .error cause
  | .ok result =>
    match current.primitive? with
    | some kind =>
      if kind.isNumeric && !result.isText then scene.coerce result kind else .ok result
    | none => .ok result

end Scene

end Scratchpad
