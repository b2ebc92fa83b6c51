import Scratchpad.Program.Node

/-! Arenas, the flat tables of nodes, and units, the submissions that are run from one. -/

namespace Scratchpad

/-- The nodes of one program. Nodes are only ever added, so an index stays valid. -/
structure Arena where
  exprs : Array Expr := #[]
  stmts : Array Stmt := #[]
deriving DecidableEq, Inhabited

namespace Arena

def expr? (arena : Arena) (id : ExprId) : Option Expr := arena.exprs[id.index]?

def stmt? (arena : Arena) (id : StmtId) : Option Stmt := arena.stmts[id.index]?

/-- How many nodes the arena holds. -/
def size (arena : Arena) : Nat := arena.exprs.size + arena.stmts.size

def addExpr (arena : Arena) (expr : Expr) : ExprId × Arena :=
  (⟨arena.exprs.size⟩, { arena with exprs := arena.exprs.push expr })

def addStmt (arena : Arena) (stmt : Stmt) : StmtId × Arena :=
  (⟨arena.stmts.size⟩, { arena with stmts := arena.stmts.push stmt })

/-- Changes one expression in place; an unknown index changes nothing. -/
def updateExpr (arena : Arena) (id : ExprId) (f : Expr → Expr) : Arena :=
  { arena with exprs := arena.exprs.modify id.index f }

/-- Changes one statement in place; an unknown index changes nothing. -/
def updateStmt (arena : Arena) (id : StmtId) (f : Stmt → Stmt) : Arena :=
  { arena with stmts := arena.stmts.modify id.index f }

end Arena

/-- A finding of the resolver in one statement. -/
structure SemanticError where
  message : String
  span : Span
deriving DecidableEq, Inhabited

/-- A top-level statement. One with findings is reported and not run. -/
structure SourceStatement where
  root : StmtId
  errors : List SemanticError := []
deriving DecidableEq, Inhabited

/-- The statements of one submission, in order. -/
structure SourceUnit where
  arena : Arena
  statements : List SourceStatement
deriving DecidableEq, Inhabited

end Scratchpad
