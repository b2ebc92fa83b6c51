/-! What programs print, split into lines. A line is complete at its newline and is then
delivered without it, and without a carriage return right before it; what is left when a capture
ends is delivered as it stands.
-/

namespace Scratchpad

inductive Stream where
  | out
  | err
deriving DecidableEq, Inhabited

/-- A line of output, without its end. -/
structure OutputLine where
  stream : Stream
  text : String
deriving DecidableEq, Inhabited

namespace Lines

/-- The complete lines of a text, without their newlines, and the rest after the last one. -/
def split : List Char → List (List Char) × List Char
  | [] => ([], [])
  | c :: rest =>
    let (lines, last) := split rest
    if c = '\n' then ([] :: lines, last)
    else
      match lines with
      | [] => ([], c :: last)
      | line :: more => ((c :: line) :: more, last)

/-- A complete line as it is delivered. -/
def trimReturn (line : List Char) : List Char :=
  if line.getLast? = some '\r' then line.dropLast else line

end Lines

/-- The text of each stream that no newline has ended yet. -/
structure LineBuffers where
  out : List Char := []
  err : List Char := []
deriving DecidableEq, Inhabited

namespace LineBuffers

def pending (buffers : LineBuffers) : Stream → List Char
  | .out => buffers.out
  | .err => buffers.err

def setPending (buffers : LineBuffers) (stream : Stream) (text : List Char) : LineBuffers :=
  match stream with
  | .out => { buffers with out := text }
  | .err => { buffers with err := text }

/-- Adds text to a stream; gives the lines that it completes. -/
def push (buffers : LineBuffers) (stream : Stream) (text : String)
    : List OutputLine × LineBuffers :=
  let (lines, last) := Lines.split (buffers.pending stream ++ text.toList)
  (lines.map fun line => ⟨stream, String.ofList (Lines.trimReturn line)⟩,
    buffers.setPending stream last)

/-- The unfinished lines, `out` before `err`. -/
def flush (buffers : LineBuffers) : List OutputLine :=
  [Stream.out, Stream.err].filterMap fun stream =>
    match buffers.pending stream with
    | [] => none
    | text => some ⟨stream, String.ofList text⟩

end LineBuffers

/-- An open capture: the sink that gets its lines, and its unfinished lines. -/
structure Capture where
  sink : Nat
  buffers : LineBuffers := {}
deriving DecidableEq, Inhabited

/-- The open captures, the innermost first, and what each sink has been delivered. -/
structure Captures where
  opened : List Capture := []
  sinks : Array (List OutputLine) := #[]
deriving DecidableEq, Inhabited

namespace Captures

/-- Whether some capture is open. -/
def isActive (captures : Captures) : Bool := !captures.opened.isEmpty

def deliver (captures : Captures) (sink : Nat) (lines : List OutputLine) : Captures :=
  { captures with sinks := captures.sinks.modify sink (· ++ lines) }

/-- Opens a capture with a sink of its own. -/
def openCapture (captures : Captures) : Captures :=
  {
    opened := ⟨captures.sinks.size, {}⟩ :: captures.opened
    sinks := captures.sinks.push []
  }

/-- Ends the innermost capture, after it has delivered its unfinished lines. -/
def closeCapture (captures : Captures) : Captures :=
  match captures.opened with
  | [] => captures
  | capture :: rest =>
    { captures.deliver capture.sink capture.buffers.flush with opened := rest }

/-- Writes to the innermost capture; without one, nothing is captured. -/
def write (captures : Captures) (stream : Stream) (text : String) : Captures :=
  match captures.opened with
  | [] => captures
  | capture :: rest =>
    let (lines, buffers) := capture.buffers.push stream text
    { captures.deliver capture.sink lines with opened := { capture with buffers } :: rest }

/-- Forgets what a sink has been delivered. -/
def clear (captures : Captures) (sink : Nat) : Captures :=
  { captures with sinks := captures.sinks.modify sink fun _ => [] }

/-- Ends every open capture, from the innermost. -/
def closeAll (captures : Captures) : Captures :=
  captures.opened.foldl (fun state _ => state.closeCapture) captures

/-- The lines that a sink has been delivered from one stream. -/
def lines (captures : Captures) (sink : Nat) (stream : Stream) : List String :=
  ((captures.sinks.getD sink []).filter (·.stream == stream)).map (·.text)

end Captures

end Scratchpad
