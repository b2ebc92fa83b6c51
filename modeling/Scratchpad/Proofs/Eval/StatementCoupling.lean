import Scratchpad.Proofs.Eval.ExpressionCoupling

/-! Executing one statement node keeps two runs coupled, and so does any job, under the conditions
that the expression nodes need and a coupled treatment of loops and breaks.
-/

namespace Scratchpad

namespace Job

def arena : Job → Arena
  | .eval arena _ _ => arena
  | .exec arena _ => arena

def node : Job → NodeId
  | .eval _ id _ => .expr id
  | .exec _ id => .stmt id

end Job

namespace Coupling

variable {ω α : Type} {c : Coupling ω} {m m' : Machine ω} {again again' : Job → Eval ω Value}
  {arena : Arena} {ids : List NodeId} {stores : AssignOp → Prop}

/-- Leaves a `break` for the nearest loop. -/
abbrev requestBreak : Eval ω Unit :=
  Eval.modifyContext fun context => { context with breakPending := true }

/-- The actions by which statements change the state are coupled. -/
structure StatementEffects (c : Coupling ω) (m m' : Machine ω)
    (stores : AssignOp → Prop := fun _ => True)
    : Prop extends c.Effects m m' stores where
  define
    : ∀ name value,
        c.Couples (Eval.modifyVars (·.define name value))
          (Eval.modifyVars (·.define name value))
  takeBreak : c.Couples (Eval.takeBreak : Eval ω Bool) Eval.takeBreak
  requestBreak : c.Couples (requestBreak : Eval ω Unit) requestBreak
  loop
    : ∀ {ι : Type} {pass pass' : ι → Eval ω (Option ι)} (start : ι),
        (∀ carried, c.Couples (pass carried) (pass' carried))
        → c.Couples (m.loop pass start) (m'.loop pass' start)

-----------------------------------------------------------------------------------------
-- Loops under one limit
-----------------------------------------------------------------------------------------

/-- Both runs check for cancellation alike, since they agree on the flag. -/
theorem Observes.checkCancelled (observes : c.Observes m m')
    : c.Couples (Eval.checkCancelled : Eval ω Unit) Eval.checkCancelled := by
  intro s t related
  simp only [Eval.checkCancelled, Eval.run_get_bind, observes.cancelled related]
  split
  · next requested => exact .stop (observes.permits.cancels s requested) related
  · exact .value related

/-- Coupled passes make coupled loops under one limit, by induction on the passes that are
left.
-/
theorem Observes.iterate (observes : c.Observes m m')
    (ceiling : ∀ limit state, c.Allowed state (.error { cause := .loopLimitExceeded limit }))
    {ι : Type} {pass pass' : ι → Eval ω (Option ι)}
    (each : ∀ carried, c.Couples (pass carried) (pass' carried)) (limit left : Nat) (start : ι)
    : c.Couples (iterate limit pass left start) (iterate limit pass' left start) := by
  induction left generalizing start with
  | zero =>
      unfold Scratchpad.iterate
      refine (each start).bind fun carried => ?_
      cases carried with
      | none => exact .pure _
      | some next => exact .throw (ceiling limit)
  | succ left ih =>
      unfold Scratchpad.iterate
      refine (each start).bind fun carried => ?_
      cases carried with
      | none => exact .pure _
      | some next => exact observes.checkCancelled.bind fun _ => ih next

/-- Loops of coupled passes are coupled, if a loop may reach its ceiling. -/
theorem Observes.loop (observes : c.Observes m m') (limits : m'.limits = m.limits)
    (ceiling : ∀ limit state, c.Allowed state (.error { cause := .loopLimitExceeded limit }))
    {ι : Type} {pass pass' : ι → Eval ω (Option ι)} (start : ι)
    (each : ∀ carried, c.Couples (pass carried) (pass' carried))
    : c.Couples (m.loop pass start) (m'.loop pass' start) := by
  unfold Machine.loop
  rw [limits]
  exact (observes.iterate ceiling each _ _ start).bind fun _ => .pure _

-----------------------------------------------------------------------------------------
-- Parts of statements
-----------------------------------------------------------------------------------------

namespace Effects

variable (effects : c.Effects m m' stores)

include effects

/-- The condition of a loop is coupled; a missing one holds in both runs. -/
theorem condition {cond? : Option ExprId}
    (children : c.Children again again' arena (cond?.toList.map .expr))
    : c.Couples (m.condition again arena cond?) (m'.condition again' arena cond?) := by
  cases cond? with
  | none => exact .pure true
  | some cond =>
      exact (children.ambient (by simp)).bind fun _ => effects.requireBool _ _

/-- What cannot be iterated is reported alike. -/
theorem notIterable (source : Value)
    : c.Couples (m.notIterable source : Eval ω α) (m'.notIterable source) :=
  effects.scene.bind fun _ => effects.fail rfl

/-- What is iterated has the same elements in both runs, from the heap or from the host. -/
theorem elementsOf (source : Value)
    : c.Couples (m.elementsOf source) (m'.elementsOf source) := by
  unfold Machine.elementsOf
  rw [effects.host]
  split
  · refine .read fun s t related => ?_
    rw [effects.heap related]
    exact .pure _
  · refine (effects.callHost (.iterate _)).bind fun elements? => ?_
    cases elements? with
    | some elements => exact .pure elements
    | none => exact effects.notIterable _
  · exact effects.fail rfl
  · exact effects.notIterable _

/-- Declarators are coupled one after the other if binding a name is.
Witness: by induction on the declarators; an initial value is evaluated and converted, and then its
name is bound before the next one.
-/
theorem declare
    (define
      : ∀ name value,
          c.Couples (Eval.modifyVars (·.define name value))
            (Eval.modifyVars (·.define name value)))
    (type : ResolvedType Name) {declarators : List Declarator}
    (children
      : c.Children again again' arena ((declarators.filterMap (·.init?)).map .expr))
    : c.Couples (m.declare again arena type declarators)
        (m'.declare again' arena type declarators) := by
  induction declarators with
  | nil => exact .pure []
  | cons declarator rest ih =>
      cases initial : declarator.init? with
      | none =>
          rw [Machine.declare, Machine.declare, initial]
          exact ih (children.subset (by simp [initial]))
      | some init =>
          rw [Machine.declare, Machine.declare, initial]
          refine (children.ambient (by simp [initial])).bind fun value => ?_
          refine (effects.coerceToType value type).bind fun value => ?_
          refine (define declarator.name value).bind fun _ => ?_
          exact (ih (children.subset (by simp [initial]))).bind fun _ => .pure _

/-- The value of a declaration is the same in both runs, as it is made of what was bound. -/
theorem declared (bound : List (Name × Value))
    : c.Couples (m.declared bound) (m'.declared bound) := by
  unfold Machine.declared
  rw [effects.names]
  split
  · exact .pure _
  · exact .pure _
  · exact effects.scene.bind fun _ => .pure _

end Effects

-----------------------------------------------------------------------------------------
-- Whole statements
-----------------------------------------------------------------------------------------

namespace StatementEffects

variable (effects : c.StatementEffects m m' stores)

include effects

/-- What follows a body runs in both or in neither, as both agree on whether a break is pending. -/
theorem bodyThen {ι : Type} {body : StmtId} {next next' : Eval ω ι}
    (children : c.Children again again' arena [.stmt body]) (rest : c.Couples next next')
    : c.Couples (Machine.bodyThen again arena body next)
        (Machine.bodyThen again' arena body next') := by
  refine (children.exec (by simp)).bind fun _ => ?_
  refine effects.takeBreak.bind fun broken => ?_
  split
  · exact .pure none
  · exact rest.map some

/-- A pass of `while` is coupled: the condition and then the body. -/
theorem whilePass {cond : ExprId} {body : StmtId}
    (children : c.Children again again' arena [.expr cond, .stmt body]) (carried : Unit)
    : c.Couples (m.whilePass again arena cond body carried)
        (m'.whilePass again' arena cond body carried) := by
  refine (effects.condition (children.subset (by simp))).bind fun holds => ?_
  split
  · exact effects.bodyThen (children.subset (by simp)) (.pure ())
  · exact .pure none

/-- A pass of `do` is coupled: the condition, except before the first body, and then the body. -/
theorem doWhilePass {cond : ExprId} {body : StmtId}
    (children : c.Children again again' arena [.stmt body, .expr cond]) (first : Bool)
    : c.Couples (m.doWhilePass again arena cond body first)
        (m'.doWhilePass again' arena cond body first) := by
  have body : c.Couples (Machine.bodyThen again arena body (pure false))
      (Machine.bodyThen again' arena body (pure false)) :=
    effects.bodyThen (children.subset (by simp)) (.pure false)
  cases first with
  | true => exact body
  | false =>
      refine (effects.condition (children.subset (by simp))).bind fun holds => ?_
      dsimp only
      split
      · exact body
      · exact .pure none

/-- A pass of `for` is coupled: the condition, the body and then the updates. -/
theorem forPass {cond? : Option ExprId} {update : List ExprId} {body : StmtId}
    (children
      : c.Children again again' arena
          (cond?.toList.map .expr ++ update.map .expr ++ [.stmt body]))
    (carried : Unit)
    : c.Couples (m.forPass again arena cond? update body carried)
        (m'.forPass again' arena cond? update body carried) := by
  refine (effects.condition (children.subset (by simp))).bind fun holds => ?_
  split
  · refine effects.bodyThen (children.subset (by simp)) (.forM fun id member => ?_)
    exact (children.ambient (by simp [member])).map _
  · exact .pure none

/-- A pass of for-each is coupled: the next element is converted and bound, and then the body runs.
-/
theorem forEachPass (var : Name) (type : ResolvedType Name) {body : StmtId}
    (children : c.Children again again' arena [.stmt body]) (elements : List Value)
    : c.Couples (m.forEachPass again arena var type body elements)
        (m'.forEachPass again' arena var type body elements) := by
  cases elements with
  | nil => exact .pure none
  | cons element rest =>
      refine (effects.coerceToType element type).bind fun value => ?_
      refine (effects.define var value).bind fun _ => ?_
      exact effects.bodyThen children (.pure rest)

/-- Both runs leave a block after the same statement, by induction on its statements.
Witness: a pending break is seen in both runs, since the states agree on it.
-/
theorem blockFrom {body : List StmtId} (result : Value)
    (children : c.Children again again' arena (body.map .stmt))
    : c.Couples (Machine.blockFrom again arena result body)
        (Machine.blockFrom again' arena result body) := by
  induction body generalizing result with
  | nil => exact .pure result
  | cons id rest ih =>
      refine (children.exec (by simp)).bind fun value => .read fun s t related => ?_
      rw [effects.breakPending related]
      split
      · exact .pure value
      · exact ih value (children.subset (List.subset_cons_self _ _))

/-- A conditional statement is coupled; the condition selects the same branch in both runs. -/
theorem ifElse {cond : ExprId} {thenBranch : StmtId} {elseBranch? : Option StmtId}
    (children
      : c.Children again again' arena
          (.expr cond :: .stmt thenBranch :: elseBranch?.toList.map .stmt))
    : c.Couples (m.ifElse again arena cond thenBranch elseBranch?)
        (m'.ifElse again' arena cond thenBranch elseBranch?) := by
  refine (children.ambient (by simp)).bind fun value => ?_
  refine (effects.requireBool _ _).bind fun holds => ?_
  split
  · exact children.exec (by simp)
  · split
    · exact children.exec (by simp)
    · exact .pure _

/-- Executing a statement keeps two runs coupled.
Witness: by cases on the kind of the statement, each by the coupling of its operation.
-/
theorem execStmt {stmt : Stmt} (children : c.Children again again' arena stmt.kind.children)
    : c.Couples (m.execStmt again arena stmt) (m'.execStmt again' arena stmt) := by
  obtain ⟨kind, span⟩ := stmt
  cases kind with
  | block body => exact effects.blockFrom _ children
  | expr id => exact children.ambient (by simp [StmtKind.children])
  | ifElse cond thenBranch elseBranch? => exact effects.ifElse children
  | whileLoop cond body => exact effects.loop _ (effects.whilePass children)
  | doWhile body cond => exact effects.loop _ (effects.doWhilePass children)
  | forLoop init cond? update body =>
      refine Couples.bind (.forM fun id member => ?_) fun _ => ?_
      · exact (children.exec (by simp [StmtKind.children, member])).map _
      · exact effects.loop _ (effects.forPass (children.subset (by simp [StmtKind.children])))
  | forEach var type iterable body =>
      refine (children.ambient (by simp [StmtKind.children])).bind fun source => ?_
      refine (effects.elementsOf source).bind fun elements => ?_
      refine effects.loop _ (effects.forEachPass var type (children.subset ?_))
      simp [StmtKind.children]
  | varDecl type declarators =>
      exact (effects.declare effects.define type children).bind fun _ => effects.declared _
  | returns value? =>
      cases value? with
      | some id => exact children.ambient (by simp [StmtKind.children])
      | none => exact .pure _
  | breakLoop => exact effects.requestBreak.bind fun _ => .pure _
  | synchronized lock body => exact children.exec (by simp [StmtKind.children])
  | unsupported form => exact effects.fail rfl

end StatementEffects

-----------------------------------------------------------------------------------------
-- Jobs
-----------------------------------------------------------------------------------------

/-- A job on an expression is coupled if the node in its arena is. -/
theorem Shares.evalJob (shares : c.Shares m m') {id : ExprId} (receiver : Option Value)
    (known : arena.expr? id = none → ∀ state, c.Allowed state .danglingNode)
    (node
      : ∀ expr, arena.expr? id = some expr
        → c.Couples (m.evalExpr again arena expr receiver)
            (m'.evalExpr again' arena expr receiver))
    : c.Couples (m.perform again (.eval arena id receiver))
        (m'.perform again' (.eval arena id receiver)) := by
  unfold Machine.perform
  cases found : arena.expr? id with
  | none => simpa only [found] using Couples.throw (known found)
  | some expr => simpa only [found] using shares.atSpan expr.span (node expr found)

/-- A statement's job is coupled, with its place noted in both runs, or dangles in both. -/
theorem Shares.execJob (shares : c.Shares m m') {id : StmtId}
    (known : arena.stmt? id = none → ∀ state, c.Allowed state .danglingNode)
    (node
      : ∀ stmt, arena.stmt? id = some stmt
        → c.Couples (m.execStmt again arena stmt) (m'.execStmt again' arena stmt))
    : c.Couples (m.perform again (.exec arena id))
        (m'.perform again' (.exec arena id)) := by
  unfold Machine.perform
  cases found : arena.stmt? id with
  | none => simpa only [found] using Couples.throw (known found)
  | some stmt => simpa only [found] using shares.atSpan stmt.span (node stmt found)

/-- A job is coupled if the jobs on the nodes near its own are: those that it refers to, and those
that they refer to in turn, since an assignment looks into its target. Nodes that are not there end
the comparison as they may. The arena assigns to elements by the given operators only.
-/
theorem StatementEffects.performNear (effects : c.StatementEffects m m' stores) {job : Job}
    (stored
      : ∀ {id expr}, job.arena.expr? id = some expr
        → ∀ op ∈ job.arena.elementOps expr.kind, stores op)
    (near : NodeId → Prop)
    (own : ¬job.arena.Holds job.node → ∀ state, c.Allowed state .danglingNode)
    (known
      : ∀ node, near node → ¬job.arena.Holds node → ∀ state, c.Allowed state .danglingNode)
    (children : ∀ child ∈ job.arena.children job.node, near child)
    (inner : ∀ node, near node → ∀ child ∈ job.arena.children node, near child)
    (jobs
      : ∀ other : Job, other.arena = job.arena
        → near other.node
        → c.Couples (again other) (again' other))
    (invoke
      : ∀ {s t closure}, c.Related s t
        → closure ∈ s.heap.closures
        → ∀ args, c.Couples (m.invoke again closure args) (m'.invoke again' closure args))
    (createLambda
      : ∀ params body type?, near body.node
        → c.Couples (m.createLambda job.arena params body type?)
            (m'.createLambda job.arena params body type?))
    : c.Couples (m.perform again job) (m'.perform again' job) := by
  have coupled {ids : List NodeId} (inside : ∀ node ∈ ids, near node)
      : c.Children again again' job.arena ids :=
    ⟨
      fun member receiver => jobs (.eval job.arena _ receiver) rfl (inside _ member),
      fun member => jobs (.exec job.arena _) rfl (inside _ member)
    ⟩
  cases job with
  | eval arena id receiver =>
      refine effects.evalJob receiver (fun unknown => own (Arena.expr?_eq_none.mp unknown))
        fun expr found => ?_
      replace children : ∀ child ∈ expr.kind.children, near child :=
        Arena.children_expr found ▸ children
      refine effects.evalExpr receiver ((coupled children).subset expr.kind.evaluated_subset) {
        target := fun member found =>
          (coupled fun child below => ?_).subset (ExprKind.evaluated_subset _)
        known := fun member unknown =>
          known _ (children _ member) (Arena.expr?_eq_none.mp unknown)
        invoke := invoke
        createLambda := fun params body type? member =>
          createLambda params body type? (children _ member)
      } (stored found)
      rw [← Arena.children_expr found] at below
      exact inner _ (children _ member) child below
  | exec arena id =>
      refine effects.execJob (fun unknown => own (Arena.stmt?_eq_none.mp unknown))
        fun stmt found => effects.execStmt (coupled ?_)
      rw [← Arena.children_stmt found]
      exact children

/-- If all jobs inside are coupled, wherever they lead, then so is a job, provided that lambdas
are created and invoked alike.
-/
theorem StatementEffects.perform (effects : c.StatementEffects m m')
    (dangling : ∀ state, c.Allowed state .danglingNode)
    (jobs : ∀ job, c.Couples (again job) (again' job))
    (invoke
      : ∀ closure args,
          c.Couples (m.invoke again closure args) (m'.invoke again' closure args))
    (createLambda
      : ∀ arena params body type?,
          c.Couples (m.createLambda arena params body type?)
            (m'.createLambda arena params body type?))
    (job : Job)
    : c.Couples (m.perform again job) (m'.perform again' job) :=
  effects.performNear (fun _ _ _ => trivial) (fun _ => True) (fun _ => dangling)
    (fun _ _ _ => dangling) (fun _ _ => trivial) (fun _ _ _ _ => trivial)
    (fun other _ _ => jobs other) (fun _ _ => invoke _) fun params body type? _ =>
      createLambda _ params body type?

end Coupling

end Scratchpad
