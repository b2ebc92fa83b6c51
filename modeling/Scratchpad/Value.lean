import Scratchpad.Program.Annotation

/-! Runtime values. Primitives and texts are held directly; arrays, objects and lambdas are
references, and what they refer to is kept elsewhere.
-/

namespace Scratchpad

/-- A reference to an array of the heap. -/
structure ArrayRef where
  index : Nat
deriving DecidableEq, Inhabited

/-- A reference to an object of the host. -/
structure ObjectRef where
  index : Nat
deriving DecidableEq, Inhabited

/-- A reference to a lambda of the heap. -/
structure LambdaRef where
  index : Nat
deriving DecidableEq, Inhabited

inductive Value where
  /-- What statements and calls without a value yield. -/
  | void
  | null
  | bool (value : Bool)
  | char (value : Char)
  | byte (value : Int8)
  | short (value : Int16)
  | int (value : Int32)
  | long (value : Int64)
  | float (value : Float32)
  | double (value : Float)
  | str (text : String)
  | array (ref : ArrayRef)
  | object (ref : ObjectRef)
  /-- A class of the host, by qualified name. -/
  | classRef (name : String)
  /-- A package, by qualified name. -/
  | package (name : String)
  | lambda (ref : LambdaRef)
deriving Inhabited

namespace Value

/-- The initial value of a variable of a primitive type. -/
def zero : PrimitiveType → Value
  | .boolean => .bool false
  | .byte => .byte 0
  | .short => .short 0
  | .char => .char '\x00'
  | .int => .int 0
  | .long => .long 0
  | .float => .float 0.0
  | .double => .double 0.0

def isNull : Value → Bool
  | .null => true
  | _ => false

def bool? : Value → Option Bool
  | .bool value => some value
  | _ => none

def str? : Value → Option String
  | .str text => some text
  | _ => none

/-- The kind of a primitive value. -/
def primitive? : Value → Option PrimitiveType
  | .bool _ => some .boolean
  | .char _ => some .char
  | .byte _ => some .byte
  | .short _ => some .short
  | .int _ => some .int
  | .long _ => some .long
  | .float _ => some .float
  | .double _ => some .double
  | _ => none

/-- Whether two values refer to the same thing. Classes and packages are known by name; values
that refer to nothing are never the same in this sense.
-/
def sameReference : Value → Value → Bool
  | .array left, .array right => left == right
  | .object left, .object right => left == right
  | .classRef left, .classRef right => left == right
  | .lambda left, .lambda right => left == right
  | .package left, .package right => left == right
  | _, _ => false

/-- Equal contents for primitives of one kind and for texts, and the same reference for the
rest.
-/
def identical : Value → Value → Bool
  | .void, .void => true
  | .null, .null => true
  | .bool left, .bool right => left == right
  | .char left, .char right => left == right
  | .byte left, .byte right => left == right
  | .short left, .short right => left == right
  | .int left, .int right => left == right
  | .long left, .long right => left == right
  | .float left, .float right => left == right
  | .double left, .double right => left == right
  | .str left, .str right => left == right
  | left, right => left.sameReference right

end Value

/-- The type of an array's elements; a type of references is known by its written form. -/
inductive Component where
  | primitive (type : PrimitiveType)
  | reference (name : String)
deriving DecidableEq, Inhabited

namespace Component

/-- The elements of a fresh array. -/
def initial : Component → Value
  | .primitive type => .zero type
  | .reference _ => .null

def primitive? : Component → Option PrimitiveType
  | .primitive type => some type
  | .reference _ => none

def display : Component → String
  | .primitive type => type.keyword
  | .reference name => name

/-- The component of an array of a static type. -/
def ofType : ResolvedType String → Component
  | .primitive type => .primitive type
  | .void | .null => .reference "java.lang.Object"
  | type => .reference type.display

end Component

end Scratchpad
