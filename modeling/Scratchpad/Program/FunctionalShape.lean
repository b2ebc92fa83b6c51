import Scratchpad.Program.Annotation

/-! The functional interfaces that a lambda may target, by the shape of their single method. -/

namespace Scratchpad

inductive ShapeKind where
  /-- One number in, a number of the same type out. -/
  | unaryNumeric (type : PrimitiveType)
  /-- Two numbers in, a number of the same type out. -/
  | binaryNumeric (type : PrimitiveType)
  /-- One argument, of a primitive type if the interface fixes one, and no result. -/
  | callback (type : Option PrimitiveType)
deriving DecidableEq, Inhabited

/-- A supported interface: its shape and the name of its single method. -/
structure FunctionalShape where
  kind : ShapeKind
  method : String
deriving DecidableEq, Inhabited

namespace FunctionalShape

/-- The supported interfaces by qualified name. -/
def interfaces : List (String × FunctionalShape) :=
  [
    ("java.util.function.IntUnaryOperator", ⟨.unaryNumeric .int, "applyAsInt"⟩),
    ("java.util.function.LongUnaryOperator", ⟨.unaryNumeric .long, "applyAsLong"⟩),
    ("java.util.function.DoubleUnaryOperator", ⟨.unaryNumeric .double, "applyAsDouble"⟩),
    ("java.util.function.IntBinaryOperator", ⟨.binaryNumeric .int, "applyAsInt"⟩),
    ("java.util.function.LongBinaryOperator", ⟨.binaryNumeric .long, "applyAsLong"⟩),
    ("java.util.function.DoubleBinaryOperator", ⟨.binaryNumeric .double, "applyAsDouble"⟩),
    ("java.util.function.Consumer", ⟨.callback none, "accept"⟩),
    ("java.util.function.IntConsumer", ⟨.callback (some .int), "accept"⟩),
    ("java.util.function.LongConsumer", ⟨.callback (some .long), "accept"⟩),
    ("java.util.function.DoubleConsumer", ⟨.callback (some .double), "accept"⟩),
    ("javafx.event.EventHandler", ⟨.callback none, "handle"⟩)
  ]

/-- The shape of an interface, if it is a supported one. -/
def ofInterface? (name : String) : Option FunctionalShape :=
  interfaces.lookup name

/-- How many parameters the single method takes. -/
def arity (shape : FunctionalShape) : Nat :=
  match shape.kind with
  | .unaryNumeric _ | .callback _ => 1
  | .binaryNumeric _ => 2

/-- The primitive type that every argument is converted to, if the interface fixes one. -/
def param? (shape : FunctionalShape) : Option PrimitiveType :=
  match shape.kind with
  | .unaryNumeric type | .binaryNumeric type => some type
  | .callback type => type

/-- The primitive type of the result; a callback has none. -/
def result? (shape : FunctionalShape) : Option PrimitiveType :=
  match shape.kind with
  | .unaryNumeric type | .binaryNumeric type => some type
  | .callback _ => none

end FunctionalShape

end Scratchpad
