/-! The binary, unary and assignment operators, with the symbols that messages show. -/

namespace Scratchpad

inductive BinaryOp where
  | add
  | sub
  | mul
  | div
  | rem
  | eq
  | notEq
  | lt
  | ltEq
  | gt
  | gtEq
  | and
  | or
  | bitAnd
  | bitOr
  | bitXor
  | shl
  | shr
  | ushr
deriving DecidableEq, Inhabited

namespace BinaryOp

/-- Every binary operator, arithmetic first. -/
def all : List BinaryOp :=
  [
    .add, .sub, .mul, .div, .rem, .eq, .notEq, .lt, .ltEq, .gt, .gtEq, .and, .or,
    .bitAnd, .bitOr, .bitXor, .shl, .shr, .ushr
  ]

def symbol : BinaryOp → String
  | .add => "+"
  | .sub => "-"
  | .mul => "*"
  | .div => "/"
  | .rem => "%"
  | .eq => "=="
  | .notEq => "!="
  | .lt => "<"
  | .ltEq => "<="
  | .gt => ">"
  | .gtEq => ">="
  | .and => "&&"
  | .or => "||"
  | .bitAnd => "&"
  | .bitOr => "|"
  | .bitXor => "^"
  | .shl => "<<"
  | .shr => ">>"
  | .ushr => ">>>"

/-- The four order comparisons. -/
def isRelational : BinaryOp → Bool
  | .lt | .ltEq | .gt | .gtEq => true
  | _ => false

def isShift : BinaryOp → Bool
  | .shl | .shr | .ushr => true
  | _ => false

/-- The operators that also combine two booleans. -/
def isLogical : BinaryOp → Bool
  | .and | .or | .bitAnd | .bitOr | .bitXor => true
  | _ => false

end BinaryOp

inductive UnaryOp where
  | neg
  | plus
  | not
  | bitNot
  | preInc
  | preDec
  | postInc
  | postDec
deriving DecidableEq, Inhabited

namespace UnaryOp

def all : List UnaryOp :=
  [.neg, .plus, .not, .bitNot, .preInc, .preDec, .postInc, .postDec]

def symbol : UnaryOp → String
  | .neg => "-"
  | .plus => "+"
  | .not => "!"
  | .bitNot => "~"
  | .preInc | .postInc => "++"
  | .preDec | .postDec => "--"

/-- Increments and decrements, which need a variable to write to. -/
def isStep : UnaryOp → Bool
  | .preInc | .preDec | .postInc | .postDec => true
  | _ => false

end UnaryOp

inductive AssignOp where
  | assign
  | add
  | sub
  | mul
  | div
  | rem
deriving DecidableEq, Inhabited

namespace AssignOp

def all : List AssignOp := [.assign, .add, .sub, .mul, .div, .rem]

/-- The operator that a compound assignment applies; a plain assignment has none. -/
def binary? : AssignOp → Option BinaryOp
  | .assign => none
  | .add => some .add
  | .sub => some .sub
  | .mul => some .mul
  | .div => some .div
  | .rem => some .rem

def symbol : AssignOp → String
  | .assign => "="
  | .add => "+="
  | .sub => "-="
  | .mul => "*="
  | .div => "/="
  | .rem => "%="

end AssignOp

end Scratchpad
