import Scratchpad.Error
import Scratchpad.Output
import Scratchpad.Scene

/-! The host owns classes and objects, runs resolved methods and prints. It is a record of
functions over a world of its own. It sees the heap but never the variables, and it can neither
remove nor resize an array nor touch a lambda: each of its responses carries the proof.
-/

namespace Scratchpad

/-- What comes back from the host: an answer, the world and the heap afterwards, and the pieces
of text that were printed on the way.
-/
structure Response (ω α : Type) (before : Heap) where
  answer : α
  world : ω
  heap : Heap := before
  extended : before.Extends heap := by exact Heap.Extends.refl _
  written : List (Stream × String) := []

/-- Something the host does to a heap and its world. -/
abbrev HostAction (ω α : Type) : Type :=
  (before : Heap) → ω → Response ω α before

namespace HostAction

variable {ω α : Type}

/-- An answer that changes nothing. -/
def answer (value : α) : HostAction ω α := fun _ world => { answer := value, world }

/-- An answer read off the world. -/
def observe (read : ω → α) : HostAction ω α := fun _ world => { answer := read world, world }

end HostAction

/-- The outside of the interpreter. Names arrive as texts, arguments already evaluated. -/
structure Host (ω : Type) where
  /-- The qualified class name of an object. -/
  className : ω → ObjectRef → String
  /-- The text of an object. -/
  text : Heap → ω → ObjectRef → String
  /-- A public field of an object. -/
  field : ObjectRef → String → HostAction ω (Option Value)
  /-- Whether an object offers named properties. -/
  hasProperties : ω → ObjectRef → Bool
  getProperty : ObjectRef → String → HostAction ω (Option Value)
  /-- Answers whether the property could be written. -/
  setProperty : ObjectRef → String → Value → HostAction ω Bool
  /-- The elements of an object that can be iterated. -/
  iterate : ObjectRef → HostAction ω (Option (List Value))
  /-- The name of the class that a qualified name stands for, if the host knows it. A class is its
  name: two classes of one name are the same, whenever and by whichever use they were resolved.
  -/
  resolveClass : ω → String → Option String
  /-- An instance made without arguments. -/
  newInstance : String → HostAction ω (Except HostException Value)
  /-- A public static field of a class. -/
  staticField : String → String → HostAction ω (Option Value)
  invokeMethod :
    MethodDecl String → Value → List Value → HostAction ω (Except HostException Value)
  invokeConstructor :
    ConstructorDecl String → List Value → HostAction ω (Except HostException Value)

namespace Host

variable {ω : Type}

/-- What every call without a host runtime throws. -/
def noRuntime : HostException :=
  ⟨"java.lang.UnsupportedOperationException", "no host runtime attached"⟩

/-- The objects of a host without its runtime: no class resolves and every call throws. -/
def detached (host : Host ω) : Host ω :=
  {
    host with
    resolveClass := fun _ _ => none
    invokeMethod := fun _ _ _ => HostAction.answer (.error noRuntime)
    invokeConstructor := fun _ _ => HostAction.answer (.error noRuntime)
  }

/-- The scene of a heap and a world. -/
def scene (host : Host ω) (heap : Heap) (world : ω) : Scene :=
  { heap, className := host.className world, objectText := host.text heap world }

end Host

end Scratchpad
