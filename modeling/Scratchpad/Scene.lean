import Scratchpad.Heap
import Scratchpad.Number.Layout
import Scratchpad.Text.Quoted

/-! What it takes to name the type of a value and to write it: the heap, and what the host says
about its objects. A value has a text for the user and a text for inspection.
-/

namespace Scratchpad

structure Scene where
  heap : Heap
  className : ObjectRef → String
  objectText : ObjectRef → String

/-- The two forms in which values are written. -/
inductive ValueForm where
  | text
  | inspection
deriving DecidableEq

namespace ValueForm

/-- Numbers for the user are positional from a thousandth to below ten million. -/
def textLayout : NumberLayout :=
  { least := -3, limit := 7, mark := "E", fraction := true, infinity := "Infinity" }

/-- Numbers for inspection are positional over a wider range. -/
def inspectionLayout : NumberLayout :=
  { least := -4, limit := 16, mark := "e", fraction := false, infinity := "inf" }

end ValueForm

namespace Scene

/-- The target interface of a lambda. -/
def target (scene : Scene) (ref : LambdaRef) : String :=
  match scene.heap.closure? ref with
  | some closure => closure.target
  | none => ""

/-- The name of a value's type, as messages give it. -/
def typeName (scene : Scene) : Value → String
  | .void => "void"
  | .null => "null"
  | .bool _ => PrimitiveType.boolean.keyword
  | .char _ => PrimitiveType.char.keyword
  | .byte _ => PrimitiveType.byte.keyword
  | .short _ => PrimitiveType.short.keyword
  | .int _ => PrimitiveType.int.keyword
  | .long _ => PrimitiveType.long.keyword
  | .float _ => PrimitiveType.float.keyword
  | .double _ => PrimitiveType.double.keyword
  | .str _ => "java.lang.String"
  | .array ref => (scene.heap.array ref).typeName
  | .object ref => scene.className ref
  | .classRef _ => "java.lang.Class"
  | .package name => "package " ++ name
  | .lambda ref => scene.target ref

/-- The user's text of a value that is no array. -/
def plainText (scene : Scene) : Value → String
  | .void => ""
  | .null => "null"
  | .bool value => if value then "true" else "false"
  | .char value => value.toString
  | .byte value => toString value.toInt
  | .short value => toString value.toInt
  | .int value => toString value.toInt
  | .long value => toString value.toInt
  | .float value => ValueForm.textLayout.render .binary32 value.toBits.toNat
  | .double value => ValueForm.textLayout.render .binary64 value.toBits.toNat
  | .str text => text
  | .array _ => ""
  | .object ref => scene.objectText ref
  | .classRef name => "class " ++ name
  | .package name => "package " ++ name
  | .lambda ref => scene.target ref ++ "$$Lambda"

/-- The inspection text of a value that is no array. -/
def plainInspection (scene : Scene) : Value → String
  | .void => "Void"
  | .null => "Null"
  | .bool value => "Bool(" ++ (if value then "true" else "false") ++ ")"
  | .char value => "Char(" ++ Quoted.char value ++ ")"
  | .byte value => "Byte(" ++ toString value.toInt ++ ")"
  | .short value => "Short(" ++ toString value.toInt ++ ")"
  | .int value => "Int(" ++ toString value.toInt ++ ")"
  | .long value => "Long(" ++ toString value.toInt ++ ")"
  | .float value =>
    "Float(" ++ ValueForm.inspectionLayout.render .binary32 value.toBits.toNat ++ ")"
  | .double value =>
    "Double(" ++ ValueForm.inspectionLayout.render .binary64 value.toBits.toNat ++ ")"
  | .str text => "Str(" ++ Quoted.text text ++ ")"
  | .array _ => "Array()"
  | .object ref => "Object(" ++ scene.objectText ref ++ ")"
  | .classRef name => "Class(" ++ name ++ ")"
  | .package name => "Package(" ++ name ++ ")"
  | .lambda ref => "Lambda(" ++ scene.target ref ++ ")"

/-- A value in either form, given how an array inside it is written. -/
def write (scene : Scene) (form : ValueForm) (elements : ArrayRef → String) : Value → String
  | .array ref =>
    match form with
    | .text => elements ref
    | .inspection => "Array(" ++ (scene.heap.array ref).typeName ++ elements ref ++ ")"
  | value =>
    match form with
    | .text => scene.plainText value
    | .inspection => scene.plainInspection value

/-- The elements of an array in brackets. An array inside itself is abbreviated; `opened` holds
the arrays around this one, and `fuel` bounds how many more may be opened.
-/
def writeArray (scene : Scene) (form : ValueForm)
    : Nat → List ArrayRef → ArrayRef → String
  | 0, _, _ => "[...]"
  | fuel + 1, opened, ref =>
    if ref ∈ opened then "[...]"
    else
      let items := (scene.heap.array ref).elements.toList.map
        (scene.write form (scene.writeArray form fuel (ref :: opened)))
      "[" ++ ", ".intercalate items ++ "]"

/-- How many arrays can be open at once. -/
def arrayFuel (scene : Scene) : Nat := scene.heap.arrays.size + 1

/-- The elements of an array that stands alone. -/
def elements (scene : Scene) (form : ValueForm) (ref : ArrayRef) : String :=
  scene.writeArray form scene.arrayFuel [] ref

/-- The text of a value for the user. -/
def display (scene : Scene) (value : Value) : String :=
  scene.write .text (scene.elements .text) value

/-- The text of a value for inspection. -/
def inspect (scene : Scene) (value : Value) : String :=
  scene.write .inspection (scene.elements .inspection) value

/-- The text of an array for inspection. -/
def inspectArray (scene : Scene) (ref : ArrayRef) : String :=
  (scene.heap.array ref).typeName ++ scene.elements .inspection ref

end Scene

end Scratchpad
