import Scratchpad.Bindings
import Scratchpad.Conversion
import Scratchpad.Host.Basic
import Scratchpad.Text.Case

/-! A small host with a fixed set of classes: print streams, some mathematics, texts, points,
lists, counters, and beans that are reached through their properties.
-/

namespace Scratchpad

namespace SampleHost

inductive SampleObject where
  | printStream (stream : Stream)
  | point (x y : Int32)
  | list (elements : List Value)
  /-- An object with the properties it was made with. -/
  | bean (className : String) (properties : List (String × Value))
  | counter (count : Int32)
deriving Inhabited

namespace SampleObject

def className : SampleObject → String
  | .printStream _ => "java.io.PrintStream"
  | .point .. => "java.awt.Point"
  | .list _ => "java.util.ArrayList"
  | .bean name _ => name
  | .counter _ => "com.example.Counter"

/-- A bean of the given properties; of two with one name the later stays. -/
def ofProperties (className : String) (properties : List (String × Value)) : SampleObject :=
  .bean className (Bindings.ofList properties)

def person : SampleObject :=
  .ofProperties "com.example.Person" [("name", .null), ("active", .bool false)]

def button : SampleObject :=
  .ofProperties "javafx.scene.control.Button" [("text", .str ""), ("onAction", .null)]

end SampleObject

/-- The objects made so far, and how many methods and constructors have been invoked. The classes
that have been resolved are not kept: a class has no state, classes are told apart by their names
alone, and so a class made anew for each use could not be told from one that is kept.
-/
structure World where
  objects : Array SampleObject := #[]
  calls : Nat := 0
deriving Inhabited

namespace World

def object? (world : World) (ref : ObjectRef) : Option SampleObject := world.objects[ref.index]?

def add (world : World) (object : SampleObject) : ObjectRef × World :=
  (⟨world.objects.size⟩, { world with objects := world.objects.push object })

def set (world : World) (ref : ObjectRef) (object : SampleObject) : World :=
  { world with objects := world.objects.setIfInBounds ref.index object }

def countCall (world : World) : World := { world with calls := world.calls + 1 }

def className (world : World) (ref : ObjectRef) : String :=
  match world.object? ref with
  | some object => object.className
  | none => ""

/-- The text of an object. A list shows its elements, which may be lists again; `fuel` bounds
how deep. A list inside itself has no finite text, since nothing abbreviates it as arrays are
abbreviated; the text is then cut off with `[...]` where the levels run out.
-/
def textWithin (heap : Heap) (world : World) : Nat → ObjectRef → String
  | 0, _ => "[...]"
  | fuel + 1, ref =>
    match world.object? ref with
    | some (.point x y) =>
      "java.awt.Point[x=" ++ toString x.toInt ++ ",y=" ++ toString y.toInt ++ "]"
    | some (.list elements) =>
      let scene : Scene :=
        { heap, className := world.className, objectText := textWithin heap world fuel }
      "[" ++ ", ".intercalate (elements.map scene.display) ++ "]"
    | some object => object.className
    | none => ""

/-- The text of an object. No chain of different lists is longer than there are objects, so only a
list inside itself is cut off.
-/
def text (heap : Heap) (world : World) (ref : ObjectRef) : String :=
  world.textWithin heap (world.objects.size + 1) ref

def scene (heap : Heap) (world : World) : Scene :=
  { heap, className := world.className, objectText := world.text heap }

def field? (world : World) (ref : ObjectRef) (name : String) : Option Value :=
  match world.object? ref with
  | some (.point x y) =>
    if name = "x" then some (.int x) else if name = "y" then some (.int y) else none
  | some (.counter count) => if name = "count" then some (.int count) else none
  | _ => none

def hasProperties (world : World) (ref : ObjectRef) : Bool :=
  match world.object? ref with
  | some (.bean ..) => true
  | _ => false

def property? (world : World) (ref : ObjectRef) (name : String) : Option Value :=
  match world.object? ref with
  | some (.bean _ properties) => properties.lookup name
  | _ => none

/-- Writes a property that the object has. -/
def setProperty? (world : World) (ref : ObjectRef) (name : String) (value : Value)
    : Option World :=
  match world.object? ref with
  | some (.bean className properties) =>
    if (properties.lookup name).isSome then
      some (world.set ref (.bean className (Bindings.insert name value properties)))
    else none
  | _ => none

def elements? (world : World) (ref : ObjectRef) : Option (List Value) :=
  match world.object? ref with
  | some (.list elements) => some elements
  | _ => none

end World

/-- The classes of this host. -/
def knownClasses : List String :=
  [
    "java.lang.System",
    "java.io.PrintStream",
    "java.lang.Math",
    "java.lang.Integer",
    "java.lang.String",
    "java.awt.Point",
    "java.util.ArrayList",
    "com.example.Person",
    "com.example.Counter",
    "javafx.scene.control.Button"
  ]

-----------------------------------------------------------------------------------------
-- Exceptions
-----------------------------------------------------------------------------------------

def illegalArgument (message : String) : HostException :=
  ⟨"java.lang.IllegalArgumentException", message⟩

def nullPointer (member : String) : HostException :=
  ⟨"java.lang.NullPointerException",
    "Cannot invoke \"" ++ member ++ "\" because the receiver is null"⟩

def classCast (typeName : String) : HostException :=
  ⟨"java.lang.ClassCastException", typeName ++ " cannot be cast"⟩

-----------------------------------------------------------------------------------------
-- Classes
-----------------------------------------------------------------------------------------

/-- What the constructor without arguments makes. -/
def initialObject? : String → Option SampleObject
  | "java.awt.Point" => some (.point 0 0)
  | "java.util.ArrayList" => some (.list [])
  | "com.example.Person" => some .person
  | "com.example.Counter" => some (.counter 0)
  | "javafx.scene.control.Button" => some .button
  | _ => none

def newInstance (className : String) : HostAction World (Except HostException Value) :=
  fun _ world =>
    match initialObject? className with
    | some object =>
      let (ref, world) := world.add object
      { answer := .ok (.object ref), world }
    | none =>
      if className = "java.lang.String" then { answer := .ok (.str ""), world }
      else
        {
          answer :=
            .error ⟨"java.lang.IllegalAccessException",
              className ++ " has no public no-argument constructor"⟩
          world
        }

/-- The double nearest to the circle constant. -/
def pi : Float := Float.ofBits 0x400921FB54442D18

/-- A static field. Every read of a print stream makes a new one. -/
def staticField (className name : String) : HostAction World (Option Value) :=
  fun _ world =>
    let printStream (stream : Stream) : Option Value × World :=
      let (ref, world) := world.add (.printStream stream)
      (some (.object ref), world)
    let (answer, world) : Option Value × World :=
      match className, name with
      | "java.lang.System", "out" => printStream .out
      | "java.lang.System", "err" => printStream .err
      | "java.lang.Math", "PI" => (some (.double pi), world)
      | "java.lang.Integer", "MAX_VALUE" => (some (.int Int32.maxValue), world)
      | _, _ => (none, world)
    { answer, world }

-----------------------------------------------------------------------------------------
-- Methods
-----------------------------------------------------------------------------------------

/-- What a method that returns has done. -/
structure Effect where
  value : Value := .void
  world : World
  written : List (Stream × String) := []

/-- A method, given the heap, the world, the receiver and the arguments. -/
abbrev Method : Type := Heap → World → Value → List Value → Except HostException Effect

/-- The object behind a receiver, with what a method needs of it. -/
def receiverObject {α : Type} (heap : Heap) (world : World) (receiver : Value)
    (view? : SampleObject → Option α)
    : Except HostException (ObjectRef × α) :=
  match receiver with
  | .object ref =>
    match (world.object? ref).bind view? with
    | some view => .ok (ref, view)
    | none => .error (classCast (world.className ref))
  | .null => .error (nullPointer "receiver")
  | other => .error (classCast ((world.scene heap).typeName other))

def printStream? : SampleObject → Option Stream
  | .printStream stream => some stream
  | _ => none

def point? : SampleObject → Option (Int32 × Int32)
  | .point x y => some (x, y)
  | _ => none

def list? : SampleObject → Option (List Value)
  | .list elements => some elements
  | _ => none

def counter? : SampleObject → Option Int32
  | .counter count => some count
  | _ => none

/-- Prints the first argument, if there is one, and then the given end. -/
def print (lineEnd : String) : Method := fun heap world receiver args => do
  let (_, stream) ← receiverObject heap world receiver printStream?
  let text :=
    match args with
    | value :: _ => (world.scene heap).display value
    | [] => ""
  return { world, written := [(stream, text ++ lineEnd)] }

/-- A number as a double. -/
def asDouble (scene : Scene) (value : Value) : Except HostException Float :=
  match Numeric.ofValue? value with
  | some number => .ok number.toDouble
  | none => .error (illegalArgument ("not a number: " ++ scene.typeName value))

/-- The larger of two doubles, the first of two equal ones; not-a-number loses to a number. -/
def maxDouble (left right : Float) : Float :=
  if left.isNaN then right else if left < right then right else left

def mathMax : Method := fun heap world _ args =>
  match args with
  | [.int left, .int right] =>
    .ok { value := .int (if left < right then right else left), world }
  | [left, right] => do
    let scene := world.scene heap
    let a ← asDouble scene left
    let b ← asDouble scene right
    return { value := .double (maxDouble a b), world }
  | _ => .error (illegalArgument "Math.max takes two arguments")

def mathAbs : Method := fun heap world _ args =>
  match args with
  | [.int n] => .ok { value := .int (if n < 0 then -n else n), world }
  | [value] => do
    let x ← asDouble (world.scene heap) value
    return { value := .double x.abs, world }
  | _ => .error (illegalArgument "Math.abs takes one argument")

def mathSqrt : Method := fun heap world _ args =>
  match args with
  | [value] => do
    let x ← asDouble (world.scene heap) value
    return { value := .double x.sqrt, world }
  | _ => .error (illegalArgument "Math.sqrt takes one argument")

/-- The number that decimal digits spell; there must be at least one. -/
def digits? : List Char → Option Nat
  | [] => none
  | cs =>
    if cs.all Char.isDigit then
      some (cs.foldl (fun n c => 10 * n + (c.toNat - '0'.toNat)) 0)
    else none

/-- A decimal integer of 32 bits, with an optional sign. -/
def parseInt? (text : String) : Option Int32 :=
  let number? : Option Int :=
    match text.toList with
    | '+' :: rest => (digits? rest).map Int.ofNat
    | '-' :: rest => (digits? rest).map fun n => -Int.ofNat n
    | cs => (digits? cs).map Int.ofNat
  match number? with
  | some n => if -2147483648 ≤ n ∧ n ≤ 2147483647 then some (Int32.ofInt n) else none
  | none => none

def parseInt : Method := fun _ world _ args =>
  let text := ((args.head?.bind Value.str?).getD "null")
  match parseInt? text with
  | some n => .ok { value := .int n, world }
  | none =>
    .error ⟨"java.lang.NumberFormatException", "For input string: \"" ++ text ++ "\""⟩

/-- The length of a text in 16-bit units. -/
def stringLength : Method := fun _ world receiver _ =>
  match receiver.str? with
  | some text => .ok { value := .int (Numeric.ofCount (Utf16.length text)), world }
  | none => .error (nullPointer "length")

def stringUpper : Method := fun _ world receiver _ =>
  match receiver.str? with
  | some text => .ok { value := .str (Case.upper text), world }
  | none => .error (nullPointer "toUpperCase")

/-- The character at an index, counted in whole characters. -/
def stringCharAt : Method := fun _ world receiver args =>
  match receiver.str? with
  | none => .error (nullPointer "charAt")
  | some text =>
    let found? : Option Char :=
      match args with
      | .int index :: _ => if index < 0 then none else text.toList[index.toNatClampNeg]?
      | _ => none
    match found? with
    | some c => .ok { value := .char c, world }
    | none => .error ⟨"java.lang.StringIndexOutOfBoundsException", "index out of range"⟩

def pointTranslate : Method := fun heap world receiver args => do
  let (ref, x, y) ← receiverObject heap world receiver point?
  match args with
  | [.int dx, .int dy] => return { world := world.set ref (.point (x + dx) (y + dy)) }
  | _ => throw (illegalArgument "translate takes two ints")

def pointGetX : Method := fun heap world receiver _ => do
  let (_, x, _) ← receiverObject heap world receiver point?
  return { value := .double x.toFloat, world }

/-- Adds every argument to a list. -/
def listAdd : Method := fun heap world receiver args => do
  let (ref, elements) ← receiverObject heap world receiver list?
  return { value := .bool true, world := world.set ref (.list (elements ++ args)) }

def listSize : Method := fun heap world receiver _ => do
  let (_, elements) ← receiverObject heap world receiver list?
  return { value := .int (Numeric.ofCount elements.length), world }

def listGet : Method := fun heap world receiver args => do
  let (_, elements) ← receiverObject heap world receiver list?
  match args with
  | .int index :: _ =>
    let found? := if index < 0 then none else elements[index.toNatClampNeg]?
    match found? with
    | some value => return { value, world }
    | none =>
      throw
        ⟨"java.lang.IndexOutOfBoundsException",
          "Index " ++ toString index.toInt ++ " out of bounds for length "
            ++ toString elements.length⟩
  | _ => throw (illegalArgument "get takes an int")

def counterIncrement : Method := fun heap world receiver _ => do
  let (ref, count) ← receiverObject heap world receiver counter?
  return { world := world.set ref (.counter (count + 1)) }

def counterGet : Method := fun heap world receiver _ => do
  let (_, count) ← receiverObject heap world receiver counter?
  return { value := .int count, world }

def toText : Method := fun heap world receiver _ =>
  .ok { value := .str ((world.scene heap).display receiver), world }

/-- The methods by class and name. Every class has a `toString`. -/
def method? : String → String → Option Method
  | "java.io.PrintStream", "println" => some (print "\n")
  | "java.io.PrintStream", "print" => some (print "")
  | "java.lang.Math", "max" => some mathMax
  | "java.lang.Math", "abs" => some mathAbs
  | "java.lang.Math", "sqrt" => some mathSqrt
  | "java.lang.Integer", "parseInt" => some parseInt
  | "java.lang.String", "length" => some stringLength
  | "java.lang.String", "toUpperCase" => some stringUpper
  | "java.lang.String", "charAt" => some stringCharAt
  | "java.awt.Point", "translate" => some pointTranslate
  | "java.awt.Point", "getX" => some pointGetX
  | "java.util.ArrayList", "add" => some listAdd
  | "java.util.ArrayList", "size" => some listSize
  | "java.util.ArrayList", "get" => some listGet
  | "com.example.Counter", "increment" => some counterIncrement
  | "com.example.Counter", "get" => some counterGet
  | _, "toString" => some toText
  | _, _ => none

def invokeMethod (decl : MethodDecl String) (receiver : Value) (args : List Value)
    : HostAction World (Except HostException Value) :=
  fun heap world =>
    let world := world.countCall
    match method? decl.declaring decl.name with
    | some method =>
      match method heap world receiver args with
      | .ok effect =>
        { answer := .ok effect.value, world := effect.world, written := effect.written }
      | .error exception => { answer := .error exception, world }
    | none =>
      {
        answer := .error ⟨"java.lang.NoSuchMethodError", decl.declaring ++ "." ++ decl.name⟩
        world
      }

def invokeConstructor (decl : ConstructorDecl String) (args : List Value)
    : HostAction World (Except HostException Value) :=
  fun _ world =>
    let world := world.countCall
    let create (object : SampleObject) : Except HostException Value × World :=
      let (ref, world) := world.add object
      (.ok (.object ref), world)
    let missing : Except HostException Value × World :=
      (.error ⟨"java.lang.NoSuchMethodError",
        decl.declaring ++ ".<init> with " ++ toString args.length ++ " argument(s)"⟩, world)
    let (answer, world) : Except HostException Value × World :=
      match decl.declaring with
      | "java.awt.Point" =>
        match args with
        | [.int x, .int y] => create (.point x y)
        | _ => missing
      | "java.util.ArrayList" =>
        match args with
        | [] => create (.list [])
        | _ => missing
      | "java.lang.String" =>
        match args with
        | [.str text] => (.ok (.str text), world)
        | _ => missing
      | _ => missing
    { answer, world }

/-- The host of the sample classes. -/
def host : Host World where
  className := World.className
  text := fun heap world => world.text heap
  field := fun ref name => HostAction.observe (·.field? ref name)
  hasProperties := World.hasProperties
  getProperty := fun ref name => HostAction.observe (·.property? ref name)
  setProperty := fun ref name value _ world =>
    match world.setProperty? ref name value with
    | some world => { answer := true, world }
    | none => { answer := false, world }
  iterate := fun ref => HostAction.observe (·.elements? ref)
  resolveClass := fun _ name => knownClasses.find? (· == name)
  newInstance := newInstance
  staticField := staticField
  invokeMethod := invokeMethod
  invokeConstructor := invokeConstructor

end SampleHost

end Scratchpad
