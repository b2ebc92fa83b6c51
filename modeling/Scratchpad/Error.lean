import Scratchpad.Program.Node

/-! Why an evaluation fails. A cause has one wording; an error is a cause and the place where it
arose.
-/

namespace Scratchpad

/-- An exception that the host threw. -/
structure HostException where
  className : String
  message : String
deriving DecidableEq, Inhabited

namespace HostException

def display (exception : HostException) : String :=
  exception.className ++ ": " ++ exception.message

end HostException

inductive Cause where
  | unresolvedReference (name : String)
  | nullReceiver (member : String)
  | methodNotFound (method typeName : String)
  | notAnArray (typeName : String)
  | indexOutOfBounds (index : Int32) (length : Nat)
  | negativeArraySize (size : Int32)
  | typeMismatch (expected got : String)
  | invalidOperator (symbol typeName : String)
  | divisionByZero
  | loopLimitExceeded (limit : Nat)
  | frameLimitExceeded (limit : Nat)
  | cancelled
  | notImplemented (feature : String)
  | host (exception : HostException)
deriving DecidableEq, Inhabited

namespace Cause

def message : Cause → String
  | .unresolvedReference name => "cannot resolve symbol '" ++ name ++ "'"
  | .nullReceiver member => "cannot invoke '" ++ member ++ "' because the receiver is null"
  | .methodNotFound method typeName => "no method '" ++ method ++ "' on " ++ typeName
  | .notAnArray typeName => typeName ++ " is not an array"
  | .indexOutOfBounds index length =>
    "Index " ++ toString index.toInt ++ " out of bounds for length " ++ toString length
  | .negativeArraySize size => "negative array size: " ++ toString size.toInt
  | .typeMismatch expected got => "type mismatch: expected " ++ expected ++ ", got " ++ got
  | .invalidOperator symbol typeName =>
    "operator '" ++ symbol ++ "' cannot be applied to " ++ typeName
  | .divisionByZero => "/ by zero"
  | .loopLimitExceeded limit =>
    "loop exceeded the limit of " ++ toString limit ++ " iterations"
  | .frameLimitExceeded limit =>
    "lambda nesting exceeded the limit of " ++ toString limit ++ " frames"
  | .cancelled => "execution cancelled"
  | .notImplemented feature => feature ++ " is not supported in scratch execution"
  | .host exception => exception.display

def isNotImplemented : Cause → Bool
  | .notImplemented _ => true
  | _ => false

def isCancelled : Cause → Bool
  | .cancelled => true
  | _ => false

/-- The exception behind a failure of the host. -/
def exception? : Cause → Option HostException
  | .host exception => some exception
  | _ => none

end Cause

structure EvalError where
  cause : Cause
  span? : Option Span := none
deriving DecidableEq, Inhabited

namespace EvalError

/-- Notes where an error arose. The first real span stays, so on the way out of nested nodes the
innermost one wins.
-/
def withSpan (error : EvalError) (span : Span) : EvalError :=
  if error.span?.isNone && !span.isDummy then { error with span? := some span } else error

def message (error : EvalError) : String := error.cause.message

def display (error : EvalError) : String :=
  match error.span? with
  | some span => error.message ++ " at " ++ span.display
  | none => error.message

end EvalError

end Scratchpad
