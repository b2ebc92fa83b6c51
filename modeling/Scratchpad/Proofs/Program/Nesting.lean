import Mathlib.Data.Finset.Card
import Scratchpad.Program.Arena

/-! Which nodes a node refers to. An arena is closed if it holds all of them, and acyclic if its
nodes can be ranked so that each stands above those it refers to. Then no node nests deeper than
there are nodes.
-/

namespace Scratchpad

/-- A node of one of the two tables of an arena. -/
inductive NodeId where
  | expr (id : ExprId)
  | stmt (id : StmtId)
deriving DecidableEq

/-- The position of a node in its table. -/
def NodeId.index : NodeId → Nat
  | .expr id => id.index
  | .stmt id => id.index

/-- The node that a lambda runs. -/
def LambdaBody.node : LambdaBody → NodeId
  | .expr id => .expr id
  | .block id => .stmt id

/-- The expressions that an array allocation evaluates. -/
def ArrayInit.items : ArrayInit → List ExprId
  | .elements items => items
  | .dimension size => [size]

/-- The nodes that an expression refers to. -/
def ExprKind.children : ExprKind → List NodeId
  | .literal _ | .ident _ | .typeRef => []
  | .call _ args => args.map .expr
  | .binary _ left right => [.expr left, .expr right]
  | .unary _ operand => [.expr operand]
  | .ternary cond thenExpr elseExpr => [.expr cond, .expr thenExpr, .expr elseExpr]
  | .assign _ target value => [.expr target, .expr value]
  | .index array position => [.expr array, .expr position]
  | .chain segments => segments.map .expr
  | .alloc (.array _ init) => init.items.map .expr
  | .alloc (.object _ args) => args.map .expr
  | .lambda _ body => [body.node]

/-- The nodes that an expression evaluates. The body of a lambda waits for an invocation. -/
def ExprKind.evaluated : ExprKind → List NodeId
  | .lambda _ _ => []
  | kind => kind.children

/-- What evaluation visits are children; the body of a lambda is the one child it does not visit. -/
theorem ExprKind.evaluated_subset (kind : ExprKind) : kind.evaluated ⊆ kind.children := by
  cases kind with
  | lambda params body => exact List.nil_subset _
  | _ => exact List.Subset.refl _

/-- No expression evaluates a statement directly. -/
theorem ExprKind.stmt_notMem_evaluated (kind : ExprKind) (id : StmtId)
    : .stmt id ∉ kind.evaluated := by
  cases kind with
  | alloc allocation => cases allocation <;> simp [evaluated, children]
  | _ => simp [evaluated, children]

/-- The nodes that a statement refers to. -/
def StmtKind.children : StmtKind → List NodeId
  | .block body => body.map .stmt
  | .expr id => [.expr id]
  | .ifElse cond thenBranch elseBranch? =>
    .expr cond :: .stmt thenBranch :: elseBranch?.toList.map .stmt
  | .whileLoop cond body => [.expr cond, .stmt body]
  | .doWhile body cond => [.stmt body, .expr cond]
  | .forLoop init cond? update body =>
    init.map .stmt ++ cond?.toList.map .expr ++ update.map .expr ++ [.stmt body]
  | .forEach _ _ iterable body => [.expr iterable, .stmt body]
  | .varDecl _ declarators => (declarators.filterMap (·.init?)).map .expr
  | .returns value? => value?.toList.map .expr
  | .breakLoop | .unsupported _ => []
  | .synchronized lock body => [.expr lock, .stmt body]

namespace Arena

/-- The nodes that a node of an arena refers to; an unknown one refers to none. -/
def children (arena : Arena) : NodeId → List NodeId
  | .expr id => ((arena.expr? id).map (·.kind.children)).getD []
  | .stmt id => ((arena.stmt? id).map (·.kind.children)).getD []

/-- Whether an arena holds a node. -/
def Holds (arena : Arena) : NodeId → Prop
  | .expr id => id.index < arena.exprs.size
  | .stmt id => id.index < arena.stmts.size

instance (arena : Arena) : DecidablePred arena.Holds
  | .expr id => inferInstanceAs (Decidable (id.index < arena.exprs.size))
  | .stmt id => inferInstanceAs (Decidable (id.index < arena.stmts.size))

/-- Every node that a node refers to is in the arena. -/
def Closed (arena : Arena) : Prop :=
  ∀ parent, ∀ child ∈ arena.children parent, arena.Holds child

/-- Following references never leads back: a rank falls along each of them. The order in which
nodes were added is such a rank when every node was added after those it refers to.
-/
def Acyclic (arena : Arena) : Prop :=
  ∃ rank : NodeId → Nat,
    ∀ parent, ∀ child ∈ arena.children parent, rank child < rank parent

/-- What a builder makes: every reference leads to a node of the arena, and to an earlier one. -/
structure Sound (arena : Arena) : Prop where
  closed : arena.Closed
  acyclic : arena.Acyclic

/-- The children of an expression are those of its kind. -/
theorem children_expr {arena : Arena} {id : ExprId} {expr : Expr}
    (found : arena.expr? id = some expr)
    : arena.children (.expr id) = expr.kind.children := by
  simp [children, found]

/-- The children of a statement are those of its kind. -/
theorem children_stmt {arena : Arena} {id : StmtId} {stmt : Stmt}
    (found : arena.stmt? id = some stmt)
    : arena.children (.stmt id) = stmt.kind.children := by
  simp [children, found]

/-- An expression is missing exactly if the arena does not hold its node. -/
theorem expr?_eq_none {arena : Arena} {id : ExprId}
    : arena.expr? id = none ↔ ¬arena.Holds (.expr id) := by
  simp [expr?, Holds]

/-- A statement is missing exactly if the arena does not hold its node. -/
theorem stmt?_eq_none {arena : Arena} {id : StmtId}
    : arena.stmt? id = none ↔ ¬arena.Holds (.stmt id) := by
  simp [stmt?, Holds]

-----------------------------------------------------------------------------------------
-- Depth
-----------------------------------------------------------------------------------------

/-- Whether a node is there and nests less than `bound` deep, all nodes below being there. -/
def Within (arena : Arena) : Nat → NodeId → Prop
  | 0, _ => False
  | bound + 1, node => arena.Holds node ∧ ∀ child ∈ arena.children node, arena.Within bound child

/-- A higher bound holds as well, by induction on the lower one.
Witness: the children are within one less, and that holds for the higher bound too.
-/
theorem Within.mono {arena : Arena} {bound higher : Nat} {node : NodeId}
    (within : arena.Within bound node) (le : bound ≤ higher)
    : arena.Within higher node := by
  induction bound generalizing higher node with
  | zero => exact within.elim
  | succ bound ih =>
      obtain ⟨held, below⟩ := within
      cases higher with
      | zero => omega
      | succ higher =>
          exact ⟨held, fun child member =>
            ih (below child member) (Nat.le_of_succ_le_succ le)⟩

/-- Only nodes that an arena holds are within a bound. -/
theorem Within.holds {arena : Arena} {bound : Nat} {node : NodeId}
    (within : arena.Within bound node)
    : arena.Holds node := by
  cases bound with
  | zero => exact within.elim
  | succ bound => exact within.1

/-- A child is in all bounds of its parent. -/
theorem Within.child {arena : Arena} {bound : Nat} {parent child : NodeId}
    (within : arena.Within bound parent) (member : child ∈ arena.children parent)
    : arena.Within bound child := by
  cases bound with
  | zero => exact within.elim
  | succ bound => exact (within.2 child member).mono (Nat.le_succ bound)

/-- The nodes of an arena. -/
def nodes (arena : Arena) : List NodeId :=
  (List.range arena.exprs.size).map (.expr ⟨·⟩) ++ (List.range arena.stmts.size).map (.stmt ⟨·⟩)

/-- An arena lists as many nodes as it has. -/
theorem length_nodes (arena : Arena) : arena.nodes.length = arena.size := by
  simp [nodes, size]

/-- An arena lists exactly the nodes that it holds. -/
theorem mem_nodes {arena : Arena} {node : NodeId} : node ∈ arena.nodes ↔ arena.Holds node := by
  rcases node with ⟨⟨index⟩⟩ | ⟨⟨index⟩⟩ <;> simp [nodes, Holds]

/-- A node that is not there refers to none. -/
theorem children_eq_nil {arena : Arena} {node : NodeId} (unknown : ¬arena.Holds node)
    : arena.children node = [] := by
  cases node with
  | expr id => simp [children, expr?_eq_none.mpr unknown]
  | stmt id => simp [children, stmt?_eq_none.mpr unknown]

/-- Only the nodes of an arena matter to whether it is closed. -/
theorem closed_iff {arena : Arena}
    : arena.Closed
      ↔ ∀ parent ∈ arena.nodes, ∀ child ∈ arena.children parent, arena.Holds child := by
  refine ⟨fun closed parent _ => closed parent, fun closed parent child member => ?_⟩
  by_cases held : arena.Holds parent
  · exact closed parent (mem_nodes.mpr held) child member
  · simp [children_eq_nil held] at member

instance : DecidablePred Arena.Closed := fun _ => decidable_of_iff _ closed_iff.symm

/-- Only the nodes of an arena matter to whether a rank shows it to be sound.
Witness: what is no node of the arena has no children, so every rank falls there.
-/
theorem sound_of_ranked {arena : Arena} (rank : NodeId → Nat)
    (ranked
      : ∀ parent ∈ arena.nodes, ∀ child ∈ arena.children parent,
          arena.Holds child ∧ rank child < rank parent)
    : arena.Sound := by
  refine ⟨closed_iff.mpr fun parent there child member => (ranked parent there child member).1, ?_⟩
  refine ⟨rank, fun parent child member => ?_⟩
  by_cases held : arena.Holds parent
  · exact (ranked parent (mem_nodes.mpr held) child member).2
  · simp [children_eq_nil held] at member

/-- The nodes of a lower rank than the given one. -/
def lower (arena : Arena) (rank : NodeId → Nat) (node : NodeId) : Finset NodeId :=
  arena.nodes.toFinset.filter (rank · < rank node)

/-- A child has fewer nodes below its rank, because it is one of those below its parent's.
Witness: the ones below the child are below the parent, and the child itself makes the difference.
-/
theorem card_lower_lt {arena : Arena} {rank : NodeId → Nat} {parent child : NodeId}
    (held : arena.Holds child) (falls : rank child < rank parent)
    : (arena.lower rank child).card < (arena.lower rank parent).card := by
  refine Finset.card_lt_card (Finset.ssubset_iff_of_subset ?_ |>.mpr ⟨child, ?_, ?_⟩)
  · intro node member
    simp only [lower, Finset.mem_filter] at member ⊢
    exact ⟨member.1, member.2.trans falls⟩
  · simpa [lower, mem_nodes, held] using falls
  · simp [lower]

/-- A node is not below its own rank, so there are fewer nodes below it than there are.
Witness: the nodes below it are a strict subset of all nodes.
-/
theorem card_lower_lt_size {arena : Arena} (rank : NodeId → Nat) {node : NodeId}
    (held : arena.Holds node)
    : (arena.lower rank node).card < arena.size := by
  calc (arena.lower rank node).card
    _ < arena.nodes.toFinset.card :=
      Finset.card_lt_card (Finset.filter_ssubset.mpr ⟨node, by simpa [mem_nodes], by simp⟩)
    _ ≤ arena.nodes.length := List.toFinset_card_le _
    _ = arena.size := arena.length_nodes

/-- No node nests deeper than there are nodes, by induction on how many have a lower rank.
Witness: fewer nodes have a lower rank than a child than have one than its parent.
-/
theorem Sound.within {arena : Arena} (sound : arena.Sound) {node : NodeId}
    (held : arena.Holds node)
    : arena.Within arena.size node := by
  obtain ⟨rank, falls⟩ := sound.acyclic
  have within (bound : Nat) (node : NodeId) (held : arena.Holds node)
      (few : (arena.lower rank node).card < bound)
      : arena.Within bound node := by
    induction bound generalizing node with
    | zero => omega
    | succ bound ih =>
        refine ⟨held, fun child member => ?_⟩
        have there := sound.closed node child member
        have fewer := card_lower_lt there (falls node child member)
        exact ih child there (by omega)
  exact within arena.size node held (card_lower_lt_size rank held)

end Arena

end Scratchpad
