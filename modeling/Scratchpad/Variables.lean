import Scratchpad.Bindings
import Scratchpad.Name
import Scratchpad.Value

/-! Variables, in a stack of frames. The innermost frame is the active one; a name is looked up
from there outward. The stack is never empty and never deeper than its limit.
-/

namespace Scratchpad

/-- The bindings of one frame. -/
structure Frame where
  bindings : List (Name × Value) := []
deriving Inhabited

namespace Frame

def get? (frame : Frame) (name : Name) : Option Value := frame.bindings.lookup name

def contains (frame : Frame) (name : Name) : Bool := (frame.get? name).isSome

def insert (frame : Frame) (name : Name) (value : Value) : Frame :=
  ⟨Bindings.insert name value frame.bindings⟩

/-- A frame of the given bindings, where a later one replaces an earlier one of its name. -/
def ofList (bindings : List (Name × Value)) : Frame := ⟨Bindings.ofList bindings⟩

end Frame

/-- The active frame, the frames around it from the nearest to the root, and how many frames
there may be.
-/
structure Variables where
  active : Frame := {}
  outer : List Frame := []
  limit : Nat
deriving Inhabited

namespace Variables

/-- The usual number of frames. -/
def usualLimit : Nat := 256

/-- An empty root frame under a limit, which always leaves room for the root. -/
def withLimit (limit : Nat) : Variables := { limit := max limit 1 }

/-- All frames, the active one first. -/
def frames (vars : Variables) : List Frame := vars.active :: vars.outer

/-- The number of frames. -/
def depth (vars : Variables) : Nat := vars.outer.length + 1

/-- Drops every frame and every binding. -/
def reset (vars : Variables) : Variables := { limit := vars.limit }

/-- Enters a frame, if the limit leaves room for it. -/
def push? (vars : Variables) (frame : Frame) : Option Variables :=
  if vars.depth < vars.limit then
    some { vars with active := frame, outer := vars.active :: vars.outer }
  else none

/-- Leaves the active frame; the root is never left. -/
def pop (vars : Variables) : Variables :=
  match vars.outer with
  | [] => vars
  | frame :: rest => { vars with active := frame, outer := rest }

/-- Binds a name in the active frame. -/
def define (vars : Variables) (name : Name) (value : Value) : Variables :=
  { vars with active := vars.active.insert name value }

/-- The value in the nearest frame that holds the name. -/
def lookup (vars : Variables) (name : Name) : Option Value :=
  vars.frames.findSome? (·.get? name)

/-- Writes to the nearest frame that holds the name, if one does. -/
def replaceNearest (name : Name) (value : Value) : List Frame → Option (List Frame)
  | [] => none
  | frame :: rest =>
    if frame.contains name then some (frame.insert name value :: rest)
    else (replaceNearest name value rest).map (frame :: ·)

/-- Writes to the nearest frame that holds the name, and binds it in the active frame if none
does.
-/
def assign (vars : Variables) (name : Name) (value : Value) : Variables :=
  if vars.active.contains name then vars.define name value
  else
    match replaceNearest name value vars.outer with
    | some outer => { vars with outer }
    | none => vars.define name value

/-- What a lambda keeps of the variables around it. -/
def capture (vars : Variables) : Frame := vars.active

end Variables

end Scratchpad
