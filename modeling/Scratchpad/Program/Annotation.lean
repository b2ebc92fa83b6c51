/-! What a resolver may say about an expression: its static type and the declaration it refers
to. Both are parametric in the names they mention, so that they serve written programs, where
a name is a text, and built programs, where it is interned.
-/

namespace Scratchpad

inductive PrimitiveType where
  | boolean
  | byte
  | short
  | char
  | int
  | long
  | float
  | double
deriving DecidableEq, Inhabited

namespace PrimitiveType

def all : List PrimitiveType :=
  [.boolean, .byte, .short, .char, .int, .long, .float, .double]

def keyword : PrimitiveType → String
  | .boolean => "boolean"
  | .byte => "byte"
  | .short => "short"
  | .char => "char"
  | .int => "int"
  | .long => "long"
  | .float => "float"
  | .double => "double"

/-- The primitive type with the given keyword. -/
def ofKeyword? (text : String) : Option PrimitiveType :=
  all.find? fun type => type.keyword == text

/-- Everything but `boolean`. -/
def isNumeric : PrimitiveType → Bool
  | .boolean => false
  | _ => true

end PrimitiveType

/-- A static type; class types carry the qualified name of the class. -/
inductive ResolvedType (ν : Type) where
  | void
  | null
  | primitive (type : PrimitiveType)
  | classType (name : ν)
  | array (component : ResolvedType ν)
deriving DecidableEq, Inhabited

namespace ResolvedType

variable {ν μ : Type}

def primitive? : ResolvedType ν → Option PrimitiveType
  | .primitive type => some type
  | _ => none

/-- The component of an array type. -/
def component? : ResolvedType ν → Option (ResolvedType ν)
  | .array component => some component
  | _ => none

/-- The class of a class type. -/
def class? : ResolvedType ν → Option ν
  | .classType name => some name
  | _ => none

/-- Renames the class that a type mentions. -/
def map (f : ν → μ) : ResolvedType ν → ResolvedType μ
  | .void => .void
  | .null => .null
  | .primitive type => .primitive type
  | .classType name => .classType (f name)
  | .array component => .array (component.map f)

/-- A type as it is written in a program. -/
def display : ResolvedType String → String
  | .void => "void"
  | .null => "null"
  | .primitive type => type.keyword
  | .classType name => name
  | .array component => component.display ++ "[]"

end ResolvedType

structure MethodDecl (ν : Type) where
  declaring : ν
  name : ν
  params : List (ResolvedType ν)
  returns : ResolvedType ν
  isStatic : Bool
deriving DecidableEq, Inhabited

structure ConstructorDecl (ν : Type) where
  declaring : ν
  params : List (ResolvedType ν)
deriving DecidableEq, Inhabited

structure FieldDecl (ν : Type) where
  declaring : ν
  name : ν
  type : ResolvedType ν
  isStatic : Bool
deriving DecidableEq, Inhabited

structure VariableDecl (ν : Type) where
  name : ν
  type : ResolvedType ν
deriving DecidableEq, Inhabited

/-- What an identifier, a call or an allocation refers to. -/
inductive Declaration (ν : Type) where
  | method (decl : MethodDecl ν)
  | constructor (decl : ConstructorDecl ν)
  | field (decl : FieldDecl ν)
  | variable (decl : VariableDecl ν)
  | classDecl (name : ν)
  | package (name : ν)
deriving DecidableEq, Inhabited

namespace MethodDecl

def map {ν μ : Type} (f : ν → μ) (decl : MethodDecl ν) : MethodDecl μ :=
  {
    declaring := f decl.declaring
    name := f decl.name
    params := decl.params.map (·.map f)
    returns := decl.returns.map f
    isStatic := decl.isStatic
  }

end MethodDecl

namespace ConstructorDecl

def map {ν μ : Type} (f : ν → μ) (decl : ConstructorDecl ν) : ConstructorDecl μ :=
  { declaring := f decl.declaring, params := decl.params.map (·.map f) }

end ConstructorDecl

end Scratchpad
